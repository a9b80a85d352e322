import FacetSearch.Proofs.Operations
import FacetSearch.Proofs.PlanQueries
import FacetSearch.Proofs.Sorting

/-!
# What a service sends

Every search that a service asks an index for can be written: its query has an object
(`IndexRequest.Sendable`). Two indexes that answer alike whatever can be written can therefore not be
told apart through a service (`Service.perform_withClient_eq`).
-/

namespace FacetSearch

open Call Outcome

variable {σ τ α β : Type}

/-- The query of the request, if there is one, can be written. -/
def IndexRequest.Sendable (r : IndexRequest) : Prop := ∀ q, r.query = some q → q.Writable

theorem IndexRequest.exists_body {r : IndexRequest} (h : r.Sendable) :
    ∃ body, r.body = .ok body := by
  obtain ⟨query, hquery⟩ : ∃ query, r.query.mapM Query.render = .ok query := by
    cases hq : r.query with
    | none => exact ⟨none, rfl⟩
    | some q =>
      obtain ⟨v, hv⟩ := h q hq
      refine ⟨some v, ?_⟩
      change some <$> q.render = _
      rw [hv]
      rfl
  exact ⟨_, bind_eq_ok.2 ⟨query, hquery, rfl⟩⟩

theorem IndexRequest.sendable_of_none {r : IndexRequest} (hr : r.query = none) : r.Sendable := by
  intro q hq
  rw [hr] at hq
  cases hq

theorem IndexRequest.sendable_of_query {r : IndexRequest} {q : Query} (hr : r.query = some q)
    (hq : q.Writable) : r.Sendable := by
  intro q' hq'
  rw [hr] at hq'
  cases hq'
  exact hq

/-! ## Similar titles and documents -/

namespace SimilarityConfig

variable {c : SimilarityConfig}

theorem WellFormed.writable_titleQuery (hc : c.WellFormed) {title excludeId : Value} {q : Query}
    (h : c.titleQuery title excludeId = .ok q) : q.Writable := by
  obtain ⟨idName, hid⟩ := hc.idField
  obtain ⟨titleName, htitle⟩ := hc.titleField
  have hwords := Query.writable_fullText (t := { field := c.titleField })
    (Target.keyed_of_text htitle) title (.str "and") (.str "AUTO")
  obtain ⟨excluded, -, h⟩ := bind_eq_ok.1 h
  cases excluded with
  | false =>
    cases h
    exact hwords
  | true =>
    cases h
    refine Query.writable_bool (by simpa using hwords) (by simp) ?_ _
    simpa using Query.writable_term_of_text hid excludeId

/-- A term that has a weight is a term of a field that can be a key. -/
theorem keyed_of_termWeights {score : TermScorer} {fields : List Value}
    {vectors : Record Key TermVector} {weights : List TermWeight}
    (h : c.termWeights score fields vectors = .ok weights) {w : TermWeight} (hw : w ∈ weights) :
    ∃ key, w.field.toKey = .ok key := by
  obtain ⟨parts, hparts, h⟩ := bind_eq_ok.1 h
  cases h
  obtain ⟨part, hpart, hw⟩ := List.mem_flatten.1 hw
  obtain ⟨field, -, hfield⟩ := exists_of_mem_mapM hparts hpart
  obtain ⟨key, hkey, hfield⟩ := bind_eq_ok.1 hfield
  split at hfield
  · obtain ⟨found, hfound, hfield⟩ := bind_eq_ok.1 hfield
    cases hfield
    obtain ⟨w?, hw?, rfl⟩ := List.mem_filterMap.1 hw
    obtain ⟨term, -, hterm⟩ := exists_of_mem_mapM hfound hw?
    obtain ⟨length, -, hterm⟩ := bind_eq_ok.1 hterm
    obtain ⟨short, -, hterm⟩ := bind_eq_ok.1 hterm
    cases short with
    | true => cases hterm
    | false =>
      obtain ⟨weight, -, hterm⟩ := bind_eq_ok.1 hterm
      cases hterm
      exact ⟨key, hkey⟩
  · cases hfield
    cases hw

theorem WellFormed.writable_similarQuery (hc : c.WellFormed) (documentId : Value)
    {terms : List TermWeight} (h : ∀ t ∈ terms, ∃ key, t.field.toKey = .ok key) :
    (c.similarQuery documentId terms).Writable := by
  obtain ⟨idName, hid⟩ := hc.idField
  have hterms : (Query.bool {} [] (terms.map fun t =>
      .fullText { field := t.field, boost := t.weight } t.term .null .null) []
      c.minimumShouldMatch).Writable := by
    refine Query.writable_bool (by simp) (fun q hq => ?_) (by simp) _
    obtain ⟨t, ht, rfl⟩ := List.mem_map.1 hq
    exact Query.writable_fullText (t := { field := t.field, boost := t.weight }) (h t ht) _ _ _
  have hothers :
      (Query.bool {} [] [] [.term { field := c.idField } documentId] .null).Writable := by
    refine Query.writable_bool (by simp) (by simp) ?_ _
    simpa using Query.writable_term_of_text hid documentId
  refine Query.writable_allOf ?_
  simpa using ⟨hterms, hothers⟩

end SimilarityConfig

/-! ## Indexes that answer alike -/

/-- The indexes answer the same calls in the same way, as long as these can be written. -/
structure IndexClient.Agree (a b : IndexClient σ) : Prop where
  search : ∀ r, r.Sendable → a.search r = b.search r
  lookup : ∀ id, a.lookup id = b.lookup id
  termVectors : ∀ id fields, a.termVectors id fields = b.termVectors id fields

namespace IndexClient.Agree

variable {a b : IndexClient σ}

theorem mostCommonValues_eq (h : Agree a b) (fields : List Field) (size : Value) :
    mostCommonValues a fields size = mostCommonValues b fields size := by
  unfold mostCommonValues
  split
  · rfl
  · refine liftExcept_bind_congr fun aggregations _ => ?_
    rw [h.search _ (IndexRequest.sendable_of_none rfl)]

theorem suggest_eq (h : Agree a b) (size : Value) (field : Field) (typed : Value) :
    suggest a size field typed = suggest b size field typed := by
  have hsend : (suggestionRequest size field.name typed).Sendable :=
    IndexRequest.sendable_of_query rfl (Query.writable_phrasePrefix (Target.keyed_named _) typed)
  unfold suggest
  rw [h.mostCommonValues_eq, h.search _ hsend]

variable {c : SimilarityConfig}

theorem similarTitles_eq (h : Agree a b) (hc : c.WellFormed) (title excludeId : Value) :
    c.similarTitles a title excludeId = c.similarTitles b title excludeId := by
  unfold SimilarityConfig.similarTitles
  split
  · rfl
  · refine liftExcept_bind_congr fun query hquery => ?_
    refine liftExcept_bind_congr fun sourceFields _ => ?_
    rw [h.search _ (IndexRequest.sendable_of_query rfl (hc.writable_titleQuery hquery))]

theorem similarDocuments_eq (h : Agree a b) (hc : c.WellFormed)
    (mapHit : IndexHit → Except Error α) (score : TermScorer) (documentId group : Value) :
    c.similarDocuments a mapHit score documentId group =
      c.similarDocuments b mapHit score documentId group := by
  unfold SimilarityConfig.similarDocuments
  refine liftExcept_bind_congr fun named _ => ?_
  split
  · rfl
  · rw [h.lookup]
    refine bind_congr fun found => ?_
    cases found with
    | none => rfl
    | some internalId =>
      refine liftExcept_bind_congr fun fields _ => ?_
      rw [h.termVectors]
      refine bind_congr fun vectors => ?_
      refine liftExcept_bind_congr fun weights hweights => ?_
      refine liftExcept_bind_congr fun terms hterms => ?_
      cases terms with
      | nil => rfl
      | cons t ts =>
        have hkeyed : ∀ w ∈ t :: ts, ∃ key, w.field.toKey = .ok key := fun w hw =>
          SimilarityConfig.keyed_of_termWeights hweights (topTerms_subset hterms hw)
        dsimp only
        rw [h.search _ (IndexRequest.sendable_of_query rfl (hc.writable_similarQuery _ hkeyed))]

end IndexClient.Agree

/-- No operation tells indexes apart that answer alike whatever can be written. -/
theorem Service.perform_withClient_eq {a b : IndexClient σ} (h : a.Agree b) (s : Service τ α)
    (hc : s.config.similarity.WellFormed) (op : Operation) :
    (s.withClient a).perform op = (s.withClient b).perform op := by
  cases op with
  | search request =>
    refine congrArg (_ <$> ·) (liftExcept_bind_congr fun p hp => ?_)
    have hsend : (indexRequest p).Sendable :=
      IndexRequest.sendable_of_query rfl (SearchPlan.writable_query hp)
    change (a.search _ >>= _) = (b.search _ >>= _)
    rw [h.search _ hsend]
    rfl
  | similarTitles title excludeId => exact congrArg (_ <$> ·) (h.similarTitles_eq hc _ _)
  | similarDocuments documentId group =>
    exact congrArg (_ <$> ·) (h.similarDocuments_eq hc s.mapHit termScore _ _)
  | autocomplete field typed => exact congrArg (_ <$> ·) (h.suggest_eq _ field _)

end FacetSearch
