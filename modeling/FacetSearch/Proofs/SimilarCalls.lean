import FacetSearch.Proofs.Recording

/-!
# The calls behind similar documents

The search for similar documents is a chain of three calls: the index's id of the document, the terms
of its fields, and the search for the heaviest of them. It ends early where there is nothing to go on
with, and where a call fails. `SimilarCalls` lists all its ways with what comes of each, and
`similarCalls_recorded` says that there are no others.
-/

namespace FacetSearch.SimilarityConfig

open Call Outcome

variable {σ α : Type}

/-- The heaviest terms of some fields. -/
def topWeights (c : SimilarityConfig) (score : TermScorer) (fields : List Value)
    (vectors : Record Key TermVector) : Except Error (List TermWeight) := do
  topTerms (← c.termWeights score fields vectors) c.maxTerms

/-- The search for documents that share terms. -/
def similarRequest (c : SimilarityConfig) (documentId : Value) (terms : List TermWeight) :
    IndexRequest where
  query := some (c.similarQuery documentId terms)
  size := c.maxResults

/-- The last part of the way: the documents that share terms, if there are terms. -/
def searchByTerms (c : SimilarityConfig) (client : IndexClient σ)
    (mapHit : IndexHit → Except Error α) (documentId group : Value) :
    List TermWeight → Call σ (List α × List TermWeight)
  | [] => return ([], [])
  | t :: ts => do
    let response ← client.search (c.similarRequest documentId (t :: ts))
    liftExcept (foundDocuments mapHit documentId group (t :: ts) response)

/-- What comes of a search for documents similar to one by some fields, and the calls that it takes. -/
inductive SimilarCalls (c : SimilarityConfig) (mapHit : IndexHit → Except Error α)
    (score : TermScorer) (documentId group : Value) (fields : List Value) :
    Except Error (List α × List TermWeight) → List Event → Prop
  | lookupFails (e : Error) :
      SimilarCalls c mapHit score documentId group fields (.error e) [.lookup documentId (.error e)]
  | notIndexed :
      SimilarCalls c mapHit score documentId group fields (nothing (notIndexedLine documentId))
        [.lookup documentId (.ok none)]
  | vectorsFail (id : Value) (e : Error) :
      SimilarCalls c mapHit score documentId group fields (.error e)
        [.lookup documentId (.ok (some id)), .termVectors id fields (.error e)]
  | weighingFails (id : Value) (vectors : Record Key TermVector) (e : Error) :
      c.topWeights score fields vectors = .error e →
      SimilarCalls c mapHit score documentId group fields (.error e)
        [.lookup documentId (.ok (some id)), .termVectors id fields (.ok vectors)]
  | noTerms (id : Value) (vectors : Record Key TermVector) :
      c.topWeights score fields vectors = .ok [] →
      SimilarCalls c mapHit score documentId group fields (.ok ([], []))
        [.lookup documentId (.ok (some id)), .termVectors id fields (.ok vectors)]
  | searched (id : Value) (vectors : Record Key TermVector) (terms : List TermWeight)
      (answer : Except Error IndexResponse) :
      c.topWeights score fields vectors = .ok terms → terms ≠ [] →
      SimilarCalls c mapHit score documentId group fields
        (answer >>= foundDocuments mapHit documentId group terms)
        [.lookup documentId (.ok (some id)), .termVectors id fields (.ok vectors),
          .search (c.similarRequest documentId terms) answer]

variable {c : SimilarityConfig} {client : IndexClient σ} {mapHit : IndexHit → Except Error α}
  {score : TermScorer} {documentId group : Value}

/-- Without a group there is nothing to do. -/
theorem outcome_similarDocuments_of_no_group (hgroup : c.groupFields group = .ok (.arr []))
    (state : σ) :
    outcome (c.similarDocuments client mapHit score documentId group) state =
      (nothing (unknownGroupLine group), state) := by
  rw [similarDocuments, outcome_bind_of_ok (by rw [hgroup, outcome_liftExcept])]
  exact outcome_liftExcept _ _

section Group

variable {fields : List Value} {state state₁ state₂ : σ} {id : Value} {e : Error}

theorem not_isAbsent (h : fields ≠ []) : ¬ (Value.arr fields).isAbsent = true := by
  simpa [Value.isAbsent] using h

theorem outcome_similarDocuments_of_lookup_error (hgroup : c.groupFields group = .ok (.arr fields))
    (hfields : fields ≠ [])
    (hlookup : outcome (client.lookup documentId) state = (.error e, state₁)) :
    outcome (c.similarDocuments client mapHit score documentId group) state =
      (.error e, state₁) := by
  rw [similarDocuments, outcome_bind_of_ok (by rw [hgroup, outcome_liftExcept]),
    if_neg (not_isAbsent hfields), outcome_bind_of_error hlookup]

/-- A document that the index does not have is similar to none. -/
theorem outcome_similarDocuments_of_not_indexed (hgroup : c.groupFields group = .ok (.arr fields))
    (hfields : fields ≠ [])
    (hlookup : outcome (client.lookup documentId) state = (.ok none, state₁)) :
    outcome (c.similarDocuments client mapHit score documentId group) state =
      (nothing (notIndexedLine documentId), state₁) := by
  rw [similarDocuments, outcome_bind_of_ok (by rw [hgroup, outcome_liftExcept]),
    if_neg (not_isAbsent hfields), outcome_bind_of_ok hlookup]
  exact outcome_liftExcept _ _

theorem outcome_similarDocuments_of_vectors_error (hgroup : c.groupFields group = .ok (.arr fields))
    (hfields : fields ≠ [])
    (hlookup : outcome (client.lookup documentId) state = (.ok (some id), state₁))
    (hvectors : outcome (client.termVectors id fields) state₁ = (.error e, state₂)) :
    outcome (c.similarDocuments client mapHit score documentId group) state =
      (.error e, state₂) := by
  rw [similarDocuments, outcome_bind_of_ok (by rw [hgroup, outcome_liftExcept]),
    if_neg (not_isAbsent hfields), outcome_bind_of_ok hlookup]
  change outcome (client.termVectors id fields >>= _) _ = _
  rw [outcome_bind_of_error hvectors]

/-- Once the terms of the fields are there, the heaviest of them are searched by. -/
theorem outcome_similarDocuments_of_vectors {vectors : Record Key TermVector}
    (hgroup : c.groupFields group = .ok (.arr fields)) (hfields : fields ≠ [])
    (hlookup : outcome (client.lookup documentId) state = (.ok (some id), state₁))
    (hvectors : outcome (client.termVectors id fields) state₁ = (.ok vectors, state₂)) :
    outcome (c.similarDocuments client mapHit score documentId group) state =
      outcome (liftExcept (c.topWeights score fields vectors) >>=
        c.searchByTerms client mapHit documentId group) state₂ := by
  rw [similarDocuments, outcome_bind_of_ok (by rw [hgroup, outcome_liftExcept]),
    if_neg (not_isAbsent hfields), outcome_bind_of_ok hlookup]
  change outcome (client.termVectors id fields >>= _) _ = _
  rw [outcome_bind_of_ok hvectors]
  cases hweights : c.termWeights score fields vectors with
  | error e =>
    rw [topWeights, hweights]
    rfl
  | ok weights =>
    rw [topWeights, hweights, ok_bind]
    change outcome (liftExcept (topTerms weights c.maxTerms) >>= _) _ = _
    refine congrArg (outcome · state₂) (bind_congr fun terms => ?_)
    cases terms with
    | nil => rfl
    | cons t ts => rfl

end Group

section Recorded

variable {fields : List Value} {result : Except Error (List α × List TermWeight)} {state' : σ}
  {events : List Event}

/-- The way goes on from the terms of the fields. -/
theorem similarCalls_of_vectors {id : Value} {vectors : Record Key TermVector} {state : σ}
    (h : outcome (liftExcept (c.topWeights score fields vectors) >>=
        c.searchByTerms client.recorded mapHit documentId group)
      (state, [.lookup documentId (.ok (some id)), .termVectors id fields (.ok vectors)]) =
        (result, state', events)) :
    SimilarCalls c mapHit score documentId group fields result events := by
  cases htop : c.topWeights score fields vectors with
  | error e =>
    rw [htop, outcome_bind_of_error (outcome_liftExcept _ _)] at h
    cases h
    exact .weighingFails id vectors e htop
  | ok terms =>
    rw [htop, outcome_bind_of_ok (outcome_liftExcept _ _)] at h
    cases terms with
    | nil =>
      cases h
      exact .noTerms id vectors htop
    | cons t ts =>
      rcases hsearch : outcome (client.search (c.similarRequest documentId (t :: ts))) state with
        ⟨answer, state₃⟩
      rw [searchByTerms, outcome_bind_liftExcept, IndexClient.outcome_search_recorded hsearch] at h
      cases h
      exact .searched id vectors (t :: ts) answer htop (by simp)

/-- The search for similar documents goes one of its ways. -/
theorem similarCalls_recorded (hgroup : c.groupFields group = .ok (.arr fields))
    (hfields : fields ≠ []) (state : σ)
    (h : outcome (c.similarDocuments client.recorded mapHit score documentId group) (state, []) =
      (result, state', events)) :
    SimilarCalls c mapHit score documentId group fields result events := by
  rcases hlookup : outcome (client.lookup documentId) state with ⟨found, state₁⟩
  have hfirst : outcome (client.recorded.lookup documentId) (state, []) =
      (found, state₁, [.lookup documentId found]) := IndexClient.outcome_lookup_recorded hlookup []
  match found with
  | .error e =>
    rw [outcome_similarDocuments_of_lookup_error hgroup hfields hfirst] at h
    cases h
    exact .lookupFails e
  | .ok none =>
    rw [outcome_similarDocuments_of_not_indexed hgroup hfields hfirst] at h
    cases h
    exact .notIndexed
  | .ok (some id) =>
    rcases hvectors : outcome (client.termVectors id fields) state₁ with ⟨vectors, state₂⟩
    have hsecond : outcome (client.recorded.termVectors id fields)
        (state₁, [.lookup documentId (.ok (some id))]) =
          (vectors, state₂, [.lookup documentId (.ok (some id)), .termVectors id fields vectors]) :=
      IndexClient.outcome_termVectors_recorded hvectors _
    cases vectors with
    | error e =>
      rw [outcome_similarDocuments_of_vectors_error hgroup hfields hfirst hsecond] at h
      cases h
      exact .vectorsFail id e
    | ok vectors =>
      rw [outcome_similarDocuments_of_vectors hgroup hfields hfirst hsecond] at h
      exact similarCalls_of_vectors h

end Recorded

end FacetSearch.SimilarityConfig
