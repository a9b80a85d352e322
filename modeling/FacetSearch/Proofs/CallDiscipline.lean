import FacetSearch.Proofs.SimilarCalls

/-!
# Which calls an operation makes

A service keeps no state of its own, and its index may fail at any call. `Service.run` carries out
operations one after the other, whatever becomes of each, with the calls that each of them makes.
`Service.Calls` lists, for every kind of operation, the sequences of calls that there can be and when
there is which one: a call is only made if those before it left something to ask for. When a call
fails it is the last one, and the operation fails for the same reason (`StopsAtFailure`). Both hold of
every operation of every run (`run_disciplined`).
-/

namespace FacetSearch

open Call Outcome

variable {σ α β : Type}

/-- Why the call failed, if it did. -/
def Event.failure? : Event → Option Error
  | .search _ (.error e) | .lookup _ (.error e) | .termVectors _ _ (.error e) => some e
  | _ => none

theorem Event.failure?_search {request : IndexRequest} {answer : Except Error IndexResponse}
    {e : Error} : (Event.search request answer).failure? = some e ↔ answer = .error e := by
  cases answer <;> simp [failure?]

/-- A call that failed is the last one, and the whole fails for its reason. -/
def StopsAtFailure (result : Except Error β) (calls : List Event) : Prop :=
  ∀ before event after e, calls = before ++ event :: after → event.failure? = some e →
    after = [] ∧ result = .error e

section StopsAtFailure

variable {result : Except Error β} {calls : List Event} {event : Event}

theorem stopsAtFailure_nil : StopsAtFailure result [] := by
  intro before event after e h
  simp at h

theorem stopsAtFailure_singleton (h : ∀ e, event.failure? = some e → result = .error e) :
    StopsAtFailure result [event] := by
  intro before event' after e hsplit hfail
  obtain ⟨rfl, hrest⟩ | ⟨before, rfl, hrest⟩ := List.cons_eq_append_iff.1 hsplit
  · cases hrest
    exact ⟨rfl, h e hfail⟩
  · simp at hrest

/-- A call that did not fail can come before others. -/
theorem StopsAtFailure.cons (h : StopsAtFailure result calls) (hevent : event.failure? = none) :
    StopsAtFailure result (event :: calls) := by
  intro before event' after e hsplit hfail
  obtain ⟨rfl, hrest⟩ | ⟨before, rfl, hrest⟩ := List.cons_eq_append_iff.1 hsplit
  · cases hrest
    rw [hevent] at hfail
    cases hfail
  · exact h before event' after e hrest hfail

/-- What is done with a result does not make up for a failed call. -/
theorem StopsAtFailure.bind (h : StopsAtFailure result calls) (f : β → Except Error α) :
    StopsAtFailure (result >>= f) calls := by
  intro before event after e hsplit hfail
  obtain ⟨hlast, rfl⟩ := h before event after e hsplit hfail
  exact ⟨hlast, rfl⟩

end StopsAtFailure

/-! ## One search -/

/-- The step does not reach the index. -/
def Silent (step : Call σ β) : Prop := ∃ x : Except Error β, step = liftExcept x

theorem silent_liftExcept (x : Except Error β) : Silent (liftExcept x : Call σ β) := ⟨x, rfl⟩

theorem silent_pure (b : β) : Silent (pure b : Call σ β) := ⟨.ok b, rfl⟩

theorem Silent.bind {step : Call σ α} {next : α → Call σ β} (h : Silent step)
    (hnext : ∀ a, Silent (next a)) : Silent (step >>= next) := by
  obtain ⟨x, rfl⟩ := h
  cases x with
  | error e => exact ⟨.error e, rfl⟩
  | ok a =>
    obtain ⟨y, hy⟩ := hnext a
    exact ⟨y, hy⟩

/-- The call makes this search and no other call, and fails if the search does, for its reason. -/
def AsksOnce (call : Call (σ × List Event) β) (request : IndexRequest) : Prop :=
  ∀ ⦃state state' result calls⦄, outcome call (state, []) = (result, state', calls) →
    ∃ answer, calls = [.search request answer] ∧ StopsAtFailure result calls

theorem asksOnce_search (client : IndexClient σ) (request : IndexRequest) :
    AsksOnce (client.recorded.search request) request := by
  intro state state' result calls h
  rcases hsearch : outcome (client.search request) state with ⟨answer, state''⟩
  rw [IndexClient.outcome_search_recorded hsearch] at h
  cases h
  exact ⟨result, rfl, stopsAtFailure_singleton fun e he => Event.failure?_search.1 he⟩

theorem AsksOnce.bind {call : Call (σ × List Event) α} {next : α → Call (σ × List Event) β}
    {request : IndexRequest} (h : AsksOnce call request) (hnext : ∀ a, Silent (next a)) :
    AsksOnce (call >>= next) request := by
  intro state state' result calls hcall
  rcases hfirst : outcome call (state, []) with ⟨first, state'', calls'⟩
  obtain ⟨answer, rfl, hstops⟩ := h hfirst
  cases first with
  | error e =>
    rw [outcome_bind_of_error hfirst] at hcall
    cases hcall
    exact ⟨answer, rfl, hstops.bind fun _ => .error e⟩
  | ok a =>
    obtain ⟨x, hx⟩ := hnext a
    rw [outcome_bind_of_ok hfirst, hx, outcome_liftExcept] at hcall
    cases hcall
    exact ⟨answer, rfl, hstops.bind fun _ => result⟩

/-- An operation of a run, what came of it, and the calls of the index that it made. -/
structure Step (α : Type) where
  operation : Operation
  result : Except Error (Finding α)
  calls : List Event

/-- The statistics of a field to be completed are made of an index field with a name. -/
def Operation.WellFormed : Operation → Prop
  | .autocomplete field _ => ∀ target, field.target? = some target → ∃ name, target = .str name
  | _ => True

namespace Service

/-- Operations one after the other, with the calls that each makes. -/
def run (s : Service σ α) : σ → List Operation → List (Step α)
  | _, [] => []
  | state, op :: ops =>
    let (result, state', calls) := outcome (s.recorded.perform op) (state, [])
    ⟨op, result, calls⟩ :: s.run state' ops

/-- What comes of operations one after the other. -/
def results (s : Service σ α) : σ → List Operation → List (Except Error (Finding α))
  | _, [] => []
  | state, op :: ops =>
    let (result, state') := outcome (s.perform op) state
    result :: s.results state' ops

/-- The calls that an operation can make, in their order. -/
inductive Calls (s : Service σ α) : Operation → List Event → Prop
  | planned {request : SearchRequest} {p : SearchPlan} (answer : Except Error IndexResponse) :
      s.plan request = .ok p → Calls s (.search request) [.search (indexRequest p) answer]
  | unplanned {request : SearchRequest} {e : Error} :
      s.plan request = .error e → Calls s (.search request) []
  | titled {title : String} (excludeId : Int) (request : IndexRequest)
      (answer : Except Error IndexResponse) :
      title ≠ "" → Calls s (.similarTitles title excludeId) [.search request answer]
  | untitled (excludeId : Int) : Calls s (.similarTitles "" excludeId) []
  | ungrouped (documentId : Value) {group : String} :
      s.config.similarity.groupFields (.str group) = .ok (.arr []) →
      Calls s (.similarDocuments documentId group) []
  | notFound (documentId : Value) {group : String} {fields : List Value}
      {found : Except Error (Option Value)} :
      s.config.similarity.groupFields (.str group) = .ok (.arr fields) → fields ≠ [] →
      (∀ id, found ≠ .ok (some id)) →
      Calls s (.similarDocuments documentId group) [.lookup documentId found]
  | uncounted (documentId id : Value) {group : String} {fields : List Value}
      {counted : Except Error (Record Key TermVector)} :
      s.config.similarity.groupFields (.str group) = .ok (.arr fields) → fields ≠ [] →
      (∀ vectors, counted ≠ .ok vectors) →
      Calls s (.similarDocuments documentId group)
        [.lookup documentId (.ok (some id)), .termVectors id fields counted]
  | termless (documentId id : Value) {group : String} {fields : List Value}
      {vectors : Record Key TermVector} :
      s.config.similarity.groupFields (.str group) = .ok (.arr fields) → fields ≠ [] →
      (∀ terms, s.config.similarity.topWeights termScore fields vectors = .ok terms → terms = []) →
      Calls s (.similarDocuments documentId group)
        [.lookup documentId (.ok (some id)), .termVectors id fields (.ok vectors)]
  | compared (documentId id : Value) {group : String} {fields : List Value}
      {vectors : Record Key TermVector} {terms : List TermWeight} (request : IndexRequest)
      (answer : Except Error IndexResponse) :
      s.config.similarity.groupFields (.str group) = .ok (.arr fields) → fields ≠ [] →
      s.config.similarity.topWeights termScore fields vectors = .ok terms → terms ≠ [] →
      Calls s (.similarDocuments documentId group)
        [.lookup documentId (.ok (some id)), .termVectors id fields (.ok vectors),
          .search request answer]
  | completed {field : Field} {typed : String} (request : IndexRequest)
      (answer : Except Error IndexResponse) :
      typed ≠ "" ∨ field.target? ≠ none →
      Calls s (.autocomplete field typed) [.search request answer]
  | uncompleted {field : Field} : field.target? = none → Calls s (.autocomplete field "") []

variable {s : Service σ α} {state state' : σ} {calls : List Event}

theorem search_disciplined (request : SearchRequest) {result : Except Error (SearchResult α)}
    (h : outcome (s.recorded.search request) (state, []) = (result, state', calls)) :
    s.Calls (.search request) calls ∧ StopsAtFailure result calls := by
  change outcome (liftExcept (s.plan request) >>= fun p =>
    s.client.recorded.search (indexRequest p) >>= fun response =>
      liftExcept (s.resultOf request response)) _ = _ at h
  cases hplan : s.plan request with
  | error e =>
    rw [hplan, outcome_bind_of_error (outcome_liftExcept _ _)] at h
    cases h
    exact ⟨.unplanned hplan, stopsAtFailure_nil⟩
  | ok p =>
    rw [hplan, outcome_bind_of_ok (outcome_liftExcept _ _)] at h
    obtain ⟨answer, rfl, hstops⟩ :=
      ((asksOnce_search s.client (indexRequest p)).bind fun response =>
        silent_liftExcept (s.resultOf request response)) h
    exact ⟨.planned answer hplan, hstops⟩

/-- A title that is not empty makes one search, whatever document is left out. -/
theorem asksOnce_similarTitles {c : SimilarityConfig} (hc : c.WellFormed) (client : IndexClient σ)
    {title : String} (htitle : title ≠ "") (excludeId : Int) :
    ∃ request,
      AsksOnce (c.similarTitles client.recorded (.str title) (.ofInt excludeId)) request := by
  obtain ⟨names, hnames⟩ := hc.titleSourceFields
  have hempty : ¬ (Value.str title).eqv (.str "") = true := by simpa [Value.eqv] using htitle
  obtain ⟨q, hq⟩ : ∃ q, c.titleQuery (.str title) (.ofInt excludeId) = .ok q := by
    rw [SimilarityConfig.titleQuery]
    change ∃ q, (if Number.le (.int 0) (.int excludeId) then _ else _) = _
    split
    · exact ⟨_, rfl⟩
    · exact ⟨_, rfl⟩
  rw [SimilarityConfig.similarTitles, if_neg hempty, hq, hnames]
  exact ⟨_, (asksOnce_search client _).bind fun response => silent_liftExcept _⟩

theorem similarTitles_disciplined (hc : s.config.similarity.WellFormed) (title : String)
    (excludeId : Int) {result : Except Error (List TitleMatch)}
    (h : outcome (s.recorded.similarTitles (.str title) (.ofInt excludeId)) (state, []) =
      (result, state', calls)) :
    s.Calls (.similarTitles title excludeId) calls ∧ StopsAtFailure result calls := by
  by_cases htitle : title = ""
  · subst htitle
    cases h
    exact ⟨.untitled excludeId, stopsAtFailure_nil⟩
  · obtain ⟨request, hasks⟩ := asksOnce_similarTitles hc s.client htitle excludeId
    obtain ⟨answer, rfl, hstops⟩ := hasks h
    exact ⟨.titled excludeId request answer htitle, hstops⟩

theorem similarDocuments_disciplined (hc : s.config.similarity.WellFormed) (documentId : Value)
    (group : String) {result : Except Error (List α × List TermWeight)}
    (h : outcome (s.recorded.similarDocuments documentId (.str group)) (state, []) =
      (result, state', calls)) :
    s.Calls (.similarDocuments documentId group) calls ∧ StopsAtFailure result calls := by
  obtain ⟨names, hgroup⟩ := hc.exists_groupFields group
  cases names with
  | nil =>
    change outcome (s.config.similarity.similarDocuments s.client.recorded s.mapHit termScore
      documentId (.str group)) _ = _ at h
    rw [SimilarityConfig.outcome_similarDocuments_of_no_group hgroup] at h
    cases h
    exact ⟨.ungrouped documentId hgroup, stopsAtFailure_nil⟩
  | cons name names =>
    have hfields : (name :: names).map Value.str ≠ [] := by simp
    cases SimilarityConfig.similarCalls_recorded hgroup hfields state h with
    | lookupFails e =>
      exact ⟨.notFound documentId hgroup hfields nofun,
        stopsAtFailure_singleton fun e' he => by cases he; rfl⟩
    | notIndexed =>
      exact ⟨.notFound documentId hgroup hfields nofun,
        stopsAtFailure_singleton fun e' he => by cases he⟩
    | vectorsFail id e =>
      exact ⟨.uncounted documentId id hgroup hfields nofun,
        (stopsAtFailure_singleton fun e' he => by cases he; rfl).cons rfl⟩
    | weighingFails id vectors e htop =>
      refine ⟨.termless documentId id hgroup hfields fun terms hterms => ?_,
        (stopsAtFailure_singleton fun e' he => by cases he).cons rfl⟩
      rw [htop] at hterms
      cases hterms
    | noTerms id vectors htop =>
      refine ⟨.termless documentId id hgroup hfields fun terms hterms => ?_,
        (stopsAtFailure_singleton fun e' he => by cases he).cons rfl⟩
      rw [htop] at hterms
      cases hterms
      rfl
    | searched id vectors terms answer htop hterms =>
      refine ⟨.compared documentId id _ answer hgroup hfields htop hterms,
        StopsAtFailure.cons (StopsAtFailure.cons (stopsAtFailure_singleton fun e he => ?_) rfl) rfl⟩
      rw [Event.failure?_search.1 he]
      rfl

/-- Completing a filter takes one search if something was typed or the field's values are counted. -/
theorem asksOnce_autocomplete {field : Field} {typed : String}
    (hop : (Operation.autocomplete field typed).WellFormed)
    (h : typed ≠ "" ∨ field.target? ≠ none) :
    ∃ request, AsksOnce (s.recorded.autocomplete field (.str typed)) request := by
  change ∃ request, AsksOnce (suggest s.client.recorded s.config.suggestionSize field (.str typed))
    request
  by_cases htyped : typed = ""
  · obtain ⟨target, htarget⟩ := Option.ne_none_iff_exists'.1 (h.resolve_left (not_not.2 htyped))
    obtain ⟨name, rfl⟩ := hop target htarget
    have hempty : (Value.str typed).eqv (.str "") = true := by simpa [Value.eqv] using htyped
    rw [suggest, if_pos hempty, mostCommonValues, List.filterMap_cons, htarget]
    refine ⟨_, (((asksOnce_search s.client _).bind fun response =>
      (silent_liftExcept _).bind fun answers => silent_liftExcept _).bind fun common =>
        (silent_liftExcept _).bind fun target => silent_pure _)⟩
  · have hempty : ¬ (Value.str typed).eqv (.str "") = true := by simpa [Value.eqv] using htyped
    rw [suggest, if_neg hempty]
    exact ⟨_, (asksOnce_search s.client _).bind fun response => silent_liftExcept _⟩

theorem autocomplete_disciplined (field : Field) (typed : String)
    (hop : (Operation.autocomplete field typed).WellFormed) {result : Except Error (List Value)}
    (h : outcome (s.recorded.autocomplete field (.str typed)) (state, []) =
      (result, state', calls)) :
    s.Calls (.autocomplete field typed) calls ∧ StopsAtFailure result calls := by
  by_cases hasks : typed ≠ "" ∨ field.target? ≠ none
  · obtain ⟨request, honce⟩ := asksOnce_autocomplete (s := s) hop hasks
    obtain ⟨answer, rfl, hstops⟩ := honce h
    exact ⟨.completed request answer hasks, hstops⟩
  · rw [not_or, not_not, not_not] at hasks
    obtain ⟨rfl, htarget⟩ := hasks
    change outcome (suggest s.client.recorded s.config.suggestionSize field (.str "")) _ = _ at h
    rw [suggest, if_pos (by decide), mostCommonValues, List.filterMap_cons, htarget] at h
    cases h
    exact ⟨.uncompleted htarget, stopsAtFailure_nil⟩

/-- An operation makes the calls that there can be, and stops at one that fails. -/
theorem perform_disciplined (hc : s.config.similarity.WellFormed) {op : Operation}
    (hop : op.WellFormed) {result : Except Error (Finding α)}
    (h : outcome (s.recorded.perform op) (state, []) = (result, state', calls)) :
    s.Calls op calls ∧ StopsAtFailure result calls := by
  cases op with
  | search request =>
    obtain ⟨inner, hinner, rfl⟩ := exists_outcome_of_map h
    obtain ⟨hcalls, hstops⟩ := search_disciplined request hinner
    exact ⟨hcalls, hstops.bind _⟩
  | similarTitles title excludeId =>
    obtain ⟨inner, hinner, rfl⟩ := exists_outcome_of_map h
    obtain ⟨hcalls, hstops⟩ := similarTitles_disciplined hc title excludeId hinner
    exact ⟨hcalls, hstops.bind _⟩
  | similarDocuments documentId group =>
    obtain ⟨inner, hinner, rfl⟩ := exists_outcome_of_map h
    obtain ⟨hcalls, hstops⟩ := similarDocuments_disciplined hc documentId group hinner
    exact ⟨hcalls, hstops.bind _⟩
  | autocomplete field typed =>
    obtain ⟨inner, hinner, rfl⟩ := exists_outcome_of_map h
    obtain ⟨hcalls, hstops⟩ := autocomplete_disciplined field typed hop hinner
    exact ⟨hcalls, hstops.bind _⟩

/-- In every run, each operation makes the calls that there can be and stops at one that fails; and
what comes of the operations is what comes of them without a record. -/
theorem run_disciplined (hc : s.config.similarity.WellFormed) {ops : List Operation}
    (hops : ∀ op ∈ ops, op.WellFormed) (state : σ) :
    (s.run state ops).map Step.operation = ops ∧
      (s.run state ops).map Step.result = s.results state ops ∧
      ∀ step ∈ s.run state ops,
        s.Calls step.operation step.calls ∧ StopsAtFailure step.result step.calls := by
  induction ops generalizing state with
  | nil => exact ⟨rfl, rfl, by simp [run]⟩
  | cons op ops ih =>
    rw [List.forall_mem_cons] at hops
    obtain ⟨more, htraced⟩ := s.traces_perform op state []
    rcases hperform : outcome (s.perform op) state with ⟨result, state'⟩
    rw [hperform] at htraced
    have hrun : s.run state (op :: ops) = ⟨op, result, more⟩ :: s.run state' ops := by
      rw [run, htraced]
      rfl
    have hresults : s.results state (op :: ops) = result :: s.results state' ops := by
      rw [results, hperform]
    obtain ⟨hops', hresults', hsteps⟩ := ih hops.2 state'
    rw [hrun, hresults]
    refine ⟨congrArg (op :: ·) hops', congrArg (result :: ·) hresults', ?_⟩
    exact List.forall_mem_cons.2 ⟨perform_disciplined hc hops.1 htraced, hsteps⟩

/-- The answer, unless the next call is one of those that fail. -/
def answering (answer : β) : Call (List Bool) β := do
  match ← get with
  | [] => return answer
  | fails :: later =>
    set later
    if fails then throw (.connection "refused") else return answer

/-- A service over an index that has any document, without terms, and whose calls fail where a list
says so. -/
def shaky : Service (List Bool) SearchHit where
  catalog := ⟨[{ name := "title", type := .text, freetext := .bool true }], by decide⟩
  client :=
    { search := fun _ => answering {}
      lookup := fun _ => answering (some (.str "1"))
      termVectors := fun _ _ => answering [] }
  config := {}
  seed := .fixed (.str "s")
  mapHit := SearchHit.ofIndexHit

/-- Of six operations three make no call, and two fail at their last one. -/
theorem run_disciplined_shaky :
    ∃ steps : List (Step SearchHit),
      steps.map (fun step => step.calls.map Event.failure?) =
        [[none], [some (.connection "refused")], [], [none, some (.connection "refused")], [], []] ∧
      steps.map (fun step => step.result.isOk) = [true, false, true, false, true, true] ∧
      ∀ step ∈ steps,
        shaky.Calls step.operation step.calls ∧ StopsAtFailure step.result step.calls := by
  let ops : List Operation := [.search {}, .similarTitles "kite" 3, .similarTitles "" 3,
    .similarDocuments (.ofInt 1) "items", .similarDocuments (.ofInt 1) "colours",
    .autocomplete { name := "title", type := .text } ""]
  have hops : ∀ op ∈ ops, op.WellFormed := by
    simp only [ops, List.forall_mem_cons]
    exact ⟨trivial, trivial, trivial, trivial, trivial, nofun, nofun⟩
  refine ⟨shaky.run [false, true, false, true] ops, rfl, rfl, ?_⟩
  exact (run_disciplined (s := shaky) SimilarityConfig.wellFormed_default hops _).2.2

end Service

end FacetSearch
