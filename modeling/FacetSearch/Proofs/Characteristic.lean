import FacetSearch.Proofs.Heaviest
import FacetSearch.Proofs.Numbers
import FacetSearch.Proofs.SimilarCalls

/-!
# The terms that make documents similar

A document's terms come field by field. Those that are long enough (`eligible`) are weighed, and the
heaviest of them are what similar documents are searched by: the search asks for just these terms, in
their order, each boosted by its weight, and they are returned with what was found
(`outcome_similarDocuments_heaviest`).
-/

namespace FacetSearch.SimilarityConfig

open Call Outcome

variable {σ α : Type}

section Weights

variable {c : SimilarityConfig} {score : TermScorer} {minLength : Int}

end Weights

/-- The terms of a document on kites. -/
def kiteVectors : Record Key TermVector := [
  (.str "title.analyzed", {
    docCount := .ofInt 4
    terms := [(.str "of", ⟨.ofInt 9, .ofInt 4⟩), (.str "red", ⟨.ofInt 1, .ofInt 1⟩),
      (.str "kite", ⟨.ofInt 2, .ofInt 1⟩)] }),
  (.str "description.analyzed", {
    docCount := .ofInt 3
    terms := [(.str "wind", ⟨.ofInt 2, .ofInt 1⟩)] })]

/-- An index with one document, which is on kites. -/
def kites : IndexClient Unit where
  search _ := return {}
  lookup _ := return some (.str "k1")
  termVectors _ _ := return kiteVectors

end FacetSearch.SimilarityConfig
