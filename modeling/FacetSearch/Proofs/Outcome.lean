import Mathlib.Data.List.Forall2
import FacetSearch.Error

/-!
# Steps that succeed

A computation of several steps succeeds exactly if every step does, each on the results of those
before (`bind_eq_ok`); so does one that runs over a list (`mapM_eq_ok_iff`). With these a success is
taken apart into the successes of its steps. What all failures of the steps are like the failure of
the whole is like (`FailsOnly`). Steps whose failures do not depend on each other's results fail as
the first of them does (`errorOf?_bind`, `errorOf?_mapM`). Where the steps can fail for one cause
only, `SucceedsIff` says when they do, and the conditions of the steps add up to that of the whole.
Two computations whose steps have related results have related results, if both succeed (`Alike`).
-/

namespace FacetSearch.Outcome

variable {α β : Type}

theorem ok_bind {a : α} {f : α → Except Error β} : (Except.ok a >>= f) = f a := rfl

theorem exists_of_toBool {x : Except Error α} (h : x.toBool = true) : ∃ a, x = .ok a := by
  cases x with
  | error e => cases h
  | ok a => exact ⟨a, rfl⟩

theorem map_ok {a : α} {f : α → β} : (Except.ok a : Except Error α).map f = .ok (f a) := rfl

theorem bind_eq_ok {x : Except Error α} {f : α → Except Error β} {b : β} :
    (x >>= f) = .ok b ↔ ∃ a, x = .ok a ∧ f a = .ok b := by
  cases x with
  | error e => simp [bind, Except.bind]
  | ok a => simp [bind, Except.bind]

theorem map_eq_ok {x : Except Error α} {f : α → β} {b : β} :
    x.map f = .ok b ↔ ∃ a, x = .ok a ∧ f a = b := by
  cases x with
  | error e => simp [Except.map]
  | ok a => simp [Except.map]

theorem mapM_eq_ok_iff {f : α → Except Error β} {xs : List α} {ys : List β} :
    xs.mapM f = .ok ys ↔ List.Forall₂ (fun x y => f x = .ok y) xs ys := by
  induction xs generalizing ys with
  | nil =>
    rw [List.mapM_nil, List.forall₂_nil_left_iff]
    exact ⟨fun h => (Except.ok.inj h).symm, fun h => by rw [h]; rfl⟩
  | cons x xs ih =>
    rw [List.mapM_cons, bind_eq_ok, List.forall₂_cons_left_iff]
    constructor
    · rintro ⟨y, hy, hrest⟩
      obtain ⟨zs, hzs, heq⟩ := bind_eq_ok.1 hrest
      exact ⟨y, zs, hy, ih.1 hzs, (Except.ok.inj heq).symm⟩
    · rintro ⟨y, zs, hy, hzs, rfl⟩
      exact ⟨y, hy, bind_eq_ok.2 ⟨zs, ih.2 hzs, rfl⟩⟩

theorem mapM_congr {f g : α → Except Error β} {xs : List α} (h : ∀ x ∈ xs, f x = g x) :
    xs.mapM f = xs.mapM g := by
  induction xs with
  | nil => rfl
  | cons x xs ih =>
    rw [List.forall_mem_cons] at h
    rw [List.mapM_cons, List.mapM_cons, h.1, ih h.2]

theorem exists_of_mem_mapM {f : α → Except Error β} {xs : List α} {ys : List β} {y : β}
    (h : xs.mapM f = .ok ys) (hy : y ∈ ys) : ∃ x ∈ xs, f x = .ok y := by
  induction mapM_eq_ok_iff.1 h with
  | nil => cases hy
  | cons hxy hrest ih =>
    rcases List.mem_cons.1 hy with rfl | hy
    · exact ⟨_, List.mem_cons_self, hxy⟩
    · obtain ⟨x, hx, hfx⟩ := ih (mapM_eq_ok_iff.2 hrest) hy
      exact ⟨x, List.mem_cons_of_mem _ hx, hfx⟩

theorem exists_of_mem_of_mapM {f : α → Except Error β} {xs : List α} {ys : List β} {x : α}
    (h : xs.mapM f = .ok ys) (hx : x ∈ xs) : ∃ y, f x = .ok y := by
  induction mapM_eq_ok_iff.1 h with
  | nil => cases hx
  | cons hxy hrest ih =>
    rcases List.mem_cons.1 hx with rfl | hx
    · exact ⟨_, hxy⟩
    · exact ih (mapM_eq_ok_iff.2 hrest) hx

theorem exists_of_mem_foldlM {f : β → α → Except Error β} {xs : List α} {b b' : β} {x : α}
    (h : xs.foldlM f b = .ok b') (hx : x ∈ xs) : ∃ c c', f c x = .ok c' := by
  induction xs generalizing b with
  | nil => cases hx
  | cons y xs ih =>
    rw [List.foldlM_cons, bind_eq_ok] at h
    obtain ⟨c, hc, hrest⟩ := h
    rcases List.mem_cons.1 hx with rfl | hx
    · exact ⟨b, c, hc⟩
    · exact ih hrest hx

theorem exists_mapM {f : α → Except Error β} {xs : List α} (h : ∀ x ∈ xs, ∃ y, f x = .ok y) :
    ∃ ys, xs.mapM f = .ok ys := by
  induction xs with
  | nil => exact ⟨[], rfl⟩
  | cons x xs ih =>
    rw [List.forall_mem_cons] at h
    obtain ⟨y, hy⟩ := h.1
    obtain ⟨ys, hys⟩ := ih h.2
    exact ⟨y :: ys, by rw [List.mapM_cons, hy, hys]; rfl⟩

/-! ## Kinds of failure -/

/-- Whatever the computation fails for is of a kind. -/
def FailsOnly (P : Error → Prop) (x : Except Error α) : Prop := ∀ e, x = .error e → P e

section FailsOnly

variable {P : Error → Prop} {x : Except Error α}

theorem failsOnly_ok (a : α) : FailsOnly P (Except.ok a) := fun _ h => by cases h

theorem failsOnly_error {e : Error} (h : P e) : FailsOnly P (Except.error e : Except Error α) := by
  rintro _ ⟨⟩
  exact h

theorem FailsOnly.bind {f : α → Except Error β} (hx : FailsOnly P x) (hf : ∀ a, FailsOnly P (f a)) :
    FailsOnly P (x >>= f) := by
  cases x with
  | error e => exact failsOnly_error (hx e rfl)
  | ok a => exact hf a

theorem FailsOnly.bind_ok {f : α → β} (hx : FailsOnly P x) :
    FailsOnly P (x >>= fun a => Except.ok (f a)) := hx.bind fun a => failsOnly_ok (f a)

end FailsOnly

/-! ## The failure -/

section errorOf

variable {x : Except Error α}

/-- The failure of a computation that fails. -/
def errorOf? : Except Error α → Option Error
  | .ok _ => none
  | .error e => some e

theorem errorOf?_eq_some_iff {e : Error} : errorOf? x = some e ↔ x = .error e := by
  cases x <;> simp [errorOf?]

theorem errorOf?_eq_none_iff : errorOf? x = none ↔ ∃ a, x = .ok a := by
  cases x <;> simp [errorOf?]

theorem errorOf?_map {f : α → β} : errorOf? (x.map f) = errorOf? x := by
  cases x <;> rfl

/-- The first step fails, or else the next, if the failure of that does not depend on what it is
given. -/
theorem errorOf?_bind {f : α → Except Error β} {e? : Option Error}
    (h : ∀ a, x = .ok a → errorOf? (f a) = e?) : errorOf? (x >>= f) = (errorOf? x).or e? := by
  cases x with
  | error e => rfl
  | ok a => exact h a rfl

theorem errorOf?_bind_ok {f : α → β} : errorOf? (x >>= fun a => .ok (f a)) = errorOf? x := by
  cases x <;> rfl

theorem errorOf?_mapM {f : α → Except Error β} {xs : List α} :
    errorOf? (xs.mapM f) = xs.findSome? fun a => errorOf? (f a) := by
  induction xs with
  | nil => rfl
  | cons a xs ih =>
    have hrest : ∀ b, f a = .ok b →
        errorOf? (xs.mapM f >>= fun bs => pure (b :: bs)) = errorOf? (xs.mapM f) :=
      fun b _ => errorOf?_bind_ok
    rw [List.mapM_cons, errorOf?_bind hrest, ih, List.findSome?_cons]
    cases errorOf? (f a) <;> rfl

end errorOf

/-! ## One cause of failure -/

/-- The computation succeeds if the condition holds, and else fails for this cause. -/
def SucceedsIff (p : Prop) (e : Error) (x : Except Error α) : Prop :=
  (p → ∃ a, x = .ok a) ∧ (¬ p → x = .error e)

variable {p q : Prop} {e : Error} {x : Except Error α}

theorem SucceedsIff.of_iff (hpq : p ↔ q) (h : SucceedsIff p e x) : SucceedsIff q e x := by
  rwa [SucceedsIff, ← hpq]

theorem succeedsIff_ok (h : p) (a : α) : SucceedsIff p e (Except.ok a) :=
  ⟨fun _ => ⟨a, rfl⟩, absurd h⟩

theorem SucceedsIff.error_eq {e' : Error} (h : SucceedsIff p e x) (herror : x = .error e') :
    e' = e := by
  by_cases hp : p
  · obtain ⟨a, ha⟩ := h.1 hp
    rw [ha] at herror
    cases herror
  · rw [h.2 hp] at herror
    exact (Except.error.inj herror).symm

theorem SucceedsIff.bind {f : α → Except Error β} (hx : SucceedsIff p e x)
    (hf : ∀ a, x = .ok a → SucceedsIff q e (f a)) : SucceedsIff (p ∧ q) e (x >>= f) := by
  constructor
  · rintro ⟨hp, hq⟩
    obtain ⟨a, ha⟩ := hx.1 hp
    obtain ⟨b, hb⟩ := (hf a ha).1 hq
    exact ⟨b, bind_eq_ok.2 ⟨a, ha, hb⟩⟩
  · intro hnot
    by_cases hp : p
    · obtain ⟨a, ha⟩ := hx.1 hp
      rw [ha, ok_bind]
      exact (hf a ha).2 fun hq => hnot ⟨hp, hq⟩
    · rw [hx.2 hp]
      rfl

theorem SucceedsIff.map {f : α → β} (hx : SucceedsIff p e x) : SucceedsIff p e (x.map f) := by
  constructor
  · intro hp
    obtain ⟨a, ha⟩ := hx.1 hp
    exact ⟨f a, map_eq_ok.2 ⟨a, ha, rfl⟩⟩
  · intro hp
    rw [hx.2 hp]
    rfl

theorem SucceedsIff.bind_ok {f : α → β} (hx : SucceedsIff p e x) :
    SucceedsIff p e (x >>= fun a => Except.ok (f a)) :=
  (hx.bind fun a _ => succeedsIff_ok trivial (f a)).of_iff (and_iff_left trivial)

theorem succeedsIff_mapM {p : α → Prop} {f : α → Except Error β} {xs : List α}
    (h : ∀ x ∈ xs, SucceedsIff (p x) e (f x)) : SucceedsIff (∀ x ∈ xs, p x) e (xs.mapM f) := by
  induction xs with
  | nil => exact succeedsIff_ok (by simp) []
  | cons x xs ih =>
    rw [List.forall_mem_cons] at h
    rw [List.mapM_cons]
    refine SucceedsIff.of_iff List.forall_mem_cons.symm (h.1.bind fun y _ => ?_)
    exact (ih h.2).bind_ok

/-! ## Two computations -/

section Alike

variable {γ δ : Type} {R : α → β → Prop} {S : γ → δ → Prop} {x : Except Error α}
  {y : Except Error β}

/-- If both computations succeed, their results are related. -/
def Alike (R : α → β → Prop) (x : Except Error α) (y : Except Error β) : Prop :=
  ∀ a b, x = .ok a → y = .ok b → R a b

theorem alike_ok {a : α} {b : β} (h : R a b) : Alike R (.ok a) (.ok b) := by
  rintro _ _ ⟨⟩ ⟨⟩
  exact h

theorem alike_error (e : Error) (y : Except Error β) : Alike R (.error e) y := by
  rintro _ _ ⟨⟩

theorem alike_self (x : Except Error α) : Alike Eq x x := by
  intro a b ha hb
  rw [ha] at hb
  exact Except.ok.inj hb

theorem Alike.bind {f : α → Except Error γ} {g : β → Except Error δ} (h : Alike R x y)
    (hnext : ∀ a b, R a b → Alike S (f a) (g b)) : Alike S (x >>= f) (y >>= g) := by
  intro c d hc hd
  obtain ⟨a, ha, hc⟩ := bind_eq_ok.1 hc
  obtain ⟨b, hb, hd⟩ := bind_eq_ok.1 hd
  exact hnext a b (h a b ha hb) c d hc hd

theorem Alike.map {f : α → γ} {g : β → δ} (h : Alike R x y) (hnext : ∀ a b, R a b → S (f a) (g b)) :
    Alike S (x.map f) (y.map g) := by
  intro c d hc hd
  obtain ⟨a, ha, rfl⟩ := map_eq_ok.1 hc
  obtain ⟨b, hb, rfl⟩ := map_eq_ok.1 hd
  exact hnext a b (h a b ha hb)

theorem alike_mapM {xs : List α} {ys : List β} {f : α → Except Error γ} {g : β → Except Error δ}
    (h : List.Forall₂ R xs ys) (hstep : ∀ a b, R a b → Alike S (f a) (g b)) :
    Alike (List.Forall₂ S) (xs.mapM f) (ys.mapM g) := by
  induction h with
  | nil => exact alike_ok .nil
  | cons hab _ ih =>
    rw [List.mapM_cons, List.mapM_cons]
    exact (hstep _ _ hab).bind fun c d hcd => ih.bind fun cs ds hrest => alike_ok (.cons hcd hrest)

theorem alike_foldlM {xs : List α} {ys : List β} {f : γ → α → Except Error γ}
    {g : δ → β → Except Error δ} {c : γ} {d : δ} (h : List.Forall₂ R xs ys)
    (hstep : ∀ c d a b, S c d → R a b → Alike S (f c a) (g d b)) (hcd : S c d) :
    Alike S (xs.foldlM f c) (ys.foldlM g d) := by
  induction h generalizing c d with
  | nil => exact alike_ok hcd
  | cons hab _ ih =>
    rw [List.foldlM_cons, List.foldlM_cons]
    exact (hstep c d _ _ hcd hab).bind fun c d hcd => ih hcd

end Alike

end FacetSearch.Outcome
