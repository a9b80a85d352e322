import FacetSearch.Index

/-!
# Outcomes of calls

A call, begun in some state of the index, ends with a value or a failure and leaves a state behind
(`Call.outcome`). Steps that do not reach the index leave the state as it is, and after a failure
nothing further happens.
-/

namespace FacetSearch.Call

variable {σ α β : Type}

/-- What comes of a call in a state, and the state afterwards. -/
def outcome (call : Call σ α) (state : σ) : Except Error α × σ := (call.run).run state

theorem ext {call call' : Call σ α} (h : ∀ state, outcome call state = outcome call' state) :
    call = call' := funext h

theorem outcome_liftExcept (x : Except Error α) (state : σ) :
    outcome (liftExcept x) state = (x, state) := by
  cases x <;> rfl

theorem outcome_bind_of_ok {call : Call σ α} {next : α → Call σ β} {state state' : σ} {a : α}
    (h : outcome call state = (.ok a, state')) :
    outcome (call >>= next) state = outcome (next a) state' := by
  rw [outcome, ExceptT.run_bind, StateT.run_bind]
  rw [outcome] at h
  rw [h]
  rfl

theorem outcome_bind_of_error {call : Call σ α} {next : α → Call σ β} {state state' : σ}
    {e : Error} (h : outcome call state = (.error e, state')) :
    outcome (call >>= next) state = (.error e, state') := by
  rw [outcome, ExceptT.run_bind, StateT.run_bind]
  rw [outcome] at h
  rw [h]
  rfl

/-- A step that is not a call of the index at the end. -/
theorem outcome_bind_liftExcept (call : Call σ α) (f : α → Except Error β) (state : σ) :
    outcome (call >>= fun a => liftExcept (f a)) state =
      ((outcome call state).1 >>= f, (outcome call state).2) := by
  rcases h : outcome call state with ⟨answer, state'⟩
  cases answer with
  | error e => rw [outcome_bind_of_error h]; rfl
  | ok a => rw [outcome_bind_of_ok h, outcome_liftExcept]; rfl

/-- Steps that go on alike from whatever can come of a step before that is no call of the index. -/
theorem liftExcept_bind_congr {x : Except Error α} {f g : α → Call σ β}
    (h : ∀ a, x = .ok a → f a = g a) : (liftExcept x >>= f) = (liftExcept x >>= g) := by
  cases x with
  | error e => rfl
  | ok a => exact h a rfl

theorem outcome_map (f : α → β) (call : Call σ α) (state : σ) :
    outcome (f <$> call) state =
      ((outcome call state).1 >>= fun a => .ok (f a), (outcome call state).2) := by
  rw [map_eq_pure_bind]
  exact outcome_bind_liftExcept call (fun a => .ok (f a)) state

theorem exists_outcome_of_map {f : α → β} {call : Call σ α} {state state' : σ}
    {result : Except Error β} (h : outcome (f <$> call) state = (result, state')) :
    ∃ inner, outcome call state = (inner, state') ∧ result = (inner >>= fun a => .ok (f a)) := by
  rw [outcome_map] at h
  rcases hcall : outcome call state with ⟨inner, state''⟩
  rw [hcall] at h
  cases h
  exact ⟨inner, rfl, rfl⟩

end FacetSearch.Call
