import FacetSearch.Proofs.Operations

/-!
# Calls on record

A client can keep a record of the calls made of it (`IndexClient.recorded`). A service over such a
client does what it does over the client itself, and the record grows by the calls that it made
(`Service.traces_perform`); so what the record says of an operation is true of the operation.
-/

namespace FacetSearch

variable {σ α β : Type}

/-- A call of the index, and what came of it. -/
inductive Event where
  | search (request : IndexRequest) (answer : Except Error IndexResponse)
  | lookup (id : Value) (answer : Except Error (Option Value))
  | termVectors (id : Value) (fields : List Value) (answer : Except Error (Record Key TermVector))

namespace Call

/-- The call, with what is to be put on record when it has been answered. -/
def recorded (call : Call σ α) (entries : Except Error α → List Event) :
    Call (σ × List Event) α :=
  ExceptT.mk fun (state, events) =>
    ((call.outcome state).1, (call.outcome state).2, events ++ entries (call.outcome state).1)

theorem outcome_recorded {call : Call σ α} {state state' : σ} {answer : Except Error α}
    (h : outcome call state = (answer, state')) (entries : Except Error α → List Event)
    (events : List Event) :
    outcome (call.recorded entries) (state, events) =
      (answer, state', events ++ entries answer) := by
  rw [recorded, outcome]
  change ((outcome call state).1, (outcome call state).2, _) = _
  rw [h]

/-- The second call does what the first one does, and only adds to the record. -/
def Traces (call : Call σ α) (traced : Call (σ × List Event) α) : Prop :=
  ∀ state events, ∃ more, outcome traced (state, events) =
    ((outcome call state).1, (outcome call state).2, events ++ more)

theorem traces_recorded (call : Call σ α) (entries : Except Error α → List Event) :
    Traces call (call.recorded entries) := fun _ _ => ⟨_, rfl⟩

theorem traces_liftExcept (x : Except Error α) :
    Traces (liftExcept x : Call σ α) (liftExcept x) := fun state events =>
  ⟨[], by rw [outcome_liftExcept, outcome_liftExcept, List.append_nil]⟩

theorem traces_pure (a : α) : Traces (pure a : Call σ α) (pure a) := traces_liftExcept (.ok a)

theorem Traces.bind {call : Call σ α} {traced : Call (σ × List Event) α} {next : α → Call σ β}
    {nextTraced : α → Call (σ × List Event) β} (h : Traces call traced)
    (hnext : ∀ a, Traces (next a) (nextTraced a)) :
    Traces (call >>= next) (traced >>= nextTraced) := by
  intro state events
  obtain ⟨more, htraced⟩ := h state events
  rcases hcall : outcome call state with ⟨answer, state'⟩
  rw [hcall] at htraced
  cases answer with
  | error e => exact ⟨more, by rw [outcome_bind_of_error htraced, outcome_bind_of_error hcall]⟩
  | ok a =>
    obtain ⟨others, hothers⟩ := hnext a state' (events ++ more)
    refine ⟨more ++ others, ?_⟩
    rw [outcome_bind_of_ok htraced, outcome_bind_of_ok hcall, hothers, List.append_assoc]

theorem Traces.map {call : Call σ α} {traced : Call (σ × List Event) α} (f : α → β)
    (h : Traces call traced) : Traces (f <$> call) (f <$> traced) := by
  rw [map_eq_pure_bind, map_eq_pure_bind]
  exact h.bind fun a => traces_pure (f a)

end Call

open Call

/-- The client, with a record of the calls made of it. -/
def IndexClient.recorded (client : IndexClient σ) : IndexClient (σ × List Event) where
  search request := (client.search request).recorded fun answer => [.search request answer]
  lookup id := (client.lookup id).recorded fun answer => [.lookup id answer]
  termVectors id fields :=
    (client.termVectors id fields).recorded fun answer => [.termVectors id fields answer]
  close := client.close.recorded fun _ => []

namespace IndexClient

section

variable {client : IndexClient σ} {state state' : σ}

theorem outcome_search_recorded {request : IndexRequest} {answer : Except Error IndexResponse}
    (h : outcome (client.search request) state = (answer, state')) (events : List Event) :
    outcome (client.recorded.search request) (state, events) =
      (answer, state', events ++ [.search request answer]) :=
  outcome_recorded h (fun answer => [.search request answer]) events

theorem outcome_lookup_recorded {id : Value} {answer : Except Error (Option Value)}
    (h : outcome (client.lookup id) state = (answer, state')) (events : List Event) :
    outcome (client.recorded.lookup id) (state, events) =
      (answer, state', events ++ [.lookup id answer]) :=
  outcome_recorded h (fun answer => [.lookup id answer]) events

theorem outcome_termVectors_recorded {id : Value} {fields : List Value}
    {answer : Except Error (Record Key TermVector)}
    (h : outcome (client.termVectors id fields) state = (answer, state')) (events : List Event) :
    outcome (client.recorded.termVectors id fields) (state, events) =
      (answer, state', events ++ [.termVectors id fields answer]) :=
  outcome_recorded h (fun answer => [.termVectors id fields answer]) events

end

variable (client : IndexClient σ)

theorem traces_search (request : IndexRequest) :
    Traces (client.search request) (client.recorded.search request) :=
  traces_recorded (client.search request) fun answer => [.search request answer]

theorem traces_lookup (id : Value) : Traces (client.lookup id) (client.recorded.lookup id) :=
  traces_recorded (client.lookup id) fun answer => [.lookup id answer]

theorem traces_termVectors (id : Value) (fields : List Value) :
    Traces (client.termVectors id fields) (client.recorded.termVectors id fields) :=
  traces_recorded (client.termVectors id fields) fun answer => [.termVectors id fields answer]

end IndexClient

theorem traces_mostCommonValues (client : IndexClient σ) (fields : List Field) (size : Value) :
    Traces (mostCommonValues client fields size)
      (mostCommonValues client.recorded fields size) := by
  unfold mostCommonValues
  split
  · exact traces_pure _
  · exact (traces_liftExcept _).bind fun _ => (client.traces_search _).bind fun _ =>
      (traces_liftExcept _).bind fun _ => traces_liftExcept _

theorem traces_suggest (client : IndexClient σ) (size : Value) (field : Field) (typed : Value) :
    Traces (suggest client size field typed) (suggest client.recorded size field typed) := by
  unfold suggest
  split
  · exact (traces_mostCommonValues client [field] size).bind fun _ =>
      (traces_liftExcept _).bind fun _ => traces_pure _
  · exact (client.traces_search _).bind fun _ => traces_liftExcept _

namespace SimilarityConfig

variable (c : SimilarityConfig) (client : IndexClient σ)

theorem traces_similarTitles (title excludeId : Value) :
    Traces (c.similarTitles client title excludeId)
      (c.similarTitles client.recorded title excludeId) := by
  unfold similarTitles
  split
  · exact traces_pure _
  · exact (traces_liftExcept _).bind fun _ => (traces_liftExcept _).bind fun _ =>
      (client.traces_search _).bind fun _ => traces_liftExcept _

theorem traces_similarDocuments (mapHit : IndexHit → Except Error α) (score : TermScorer)
    (documentId group : Value) :
    Traces (c.similarDocuments client mapHit score documentId group)
      (c.similarDocuments client.recorded mapHit score documentId group) := by
  unfold similarDocuments
  refine (traces_liftExcept _).bind fun named => ?_
  split
  · exact traces_liftExcept _
  · refine (client.traces_lookup _).bind fun found => ?_
    cases found with
    | none => exact traces_liftExcept _
    | some internalId =>
      refine (traces_liftExcept _).bind fun fields =>
        (client.traces_termVectors _ _).bind fun vectors =>
          (traces_liftExcept _).bind fun weights => (traces_liftExcept _).bind fun terms => ?_
      cases terms with
      | nil => exact traces_pure _
      | cons t ts => exact (client.traces_search _).bind fun _ => traces_liftExcept _

end SimilarityConfig

namespace Service

/-- The service over the same index, with a record of the calls of it. -/
def recorded (s : Service σ α) : Service (σ × List Event) α := s.withClient s.client.recorded

/-- A service over a client with a record does what it does without, and adds to the record. -/
theorem traces_perform (s : Service σ α) (op : Operation) :
    Traces (s.perform op) (s.recorded.perform op) := by
  cases op with
  | search request =>
    refine Traces.map _ ((traces_liftExcept _).bind fun p => ?_)
    exact (s.client.traces_search _).bind fun _ => traces_liftExcept _
  | similarTitles title excludeId =>
    exact (s.config.similarity.traces_similarTitles s.client _ _).map _
  | similarDocuments documentId group =>
    exact (s.config.similarity.traces_similarDocuments s.client s.mapHit termScore _ _).map _
  | autocomplete field typed =>
    exact (traces_suggest s.client s.config.suggestionSize field _).map _

end Service

end FacetSearch
