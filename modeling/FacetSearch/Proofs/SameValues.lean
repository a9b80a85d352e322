import FacetSearch.Proofs.Numbers
import FacetSearch.Proofs.Outcome
import FacetSearch.Value.Access

/-!
# Equal values

Two values from outside are the same (`Value.Same`) if nothing tells them apart but the way in which
they are written: numbers by what they stand for, lists item by item, and objects by what they hold
under each key, in whatever order. What is read from two such values is the same again: a number
(`Same.toInteger`), a member (`Same.alike_memberOr`), or the elements (`Same.alike_elements`). Only
the keys of an object may come in different orders.
-/

namespace FacetSearch

open Outcome

/-- Numbers that are equal have the same whole part. -/
theorem Number.truncate_congr {m n : Number} (h : m.eqv n = true) : m.truncate = n.truncate := by
  obtain ⟨hmagnitude, -⟩ := Magnitude.eqv_iff.1 h
  cases n with
  | int n => exact (truncate_of_eqv h).trans (truncate_int n).symm
  | float y =>
    cases m with
    | int m =>
      rw [Number.eqv_comm] at h
      exact (truncate_of_eqv h).symm
    | float x =>
      have hxy : Magnitude.ofFloat x = Magnitude.ofFloat y := hmagnitude
      rw [truncate, truncate, hxy]

namespace Value

/-- The values are equal. -/
inductive Same : Value → Value → Prop
  | refl (v : Value) : Same v v
  | number {v w : Value} {m n : Number} :
      v.number? = some m → w.number? = some n → m.eqv n = true → Same v w
  | items {xs ys : List Value} : List.Forall₂ Same xs ys → Same (arr xs) (arr ys)
  | entries {r s : Record Key Value} :
      (∀ key, Option.Rel Same (Record.get? r key) (Record.get? s key)) → Same (obj r) (obj s)

/-- The elements of two equal values: equal one by one, or keys of objects in whatever order. -/
def SameElements (xs ys : List Value) : Prop :=
  List.Forall₂ Same xs ys ∨
    (∀ x ∈ xs, ∃ key, x = ofKey key) ∧ ∀ y ∈ ys, ∃ key, y = ofKey key

theorem rel_same_refl (v? : Option Value) : Option.Rel Same v? v? := by
  cases v? with
  | none => exact .none
  | some v => exact .some (.refl v)

theorem same_getD {v? w? : Option Value} (h : Option.Rel Same v? w?) (default : Value) :
    (v?.getD default).Same (w?.getD default) := by
  cases h with
  | none => exact .refl default
  | some h => exact h

theorem forall₂_same_refl (xs : List Value) : List.Forall₂ Same xs xs :=
  List.forall₂_same.2 fun x _ => .refl x

section Number

variable {v w : Value} {m : Number} {key : Key}

theorem toInteger_of_number? (h : v.number? = some m) : v.toInteger = m.truncate := by
  cases v with
  | bool b => cases h; rfl
  | num n => cases h; rfl
  | _ => cases h

theorem entries_of_number? (h : v.number? = some m) : v.entries = .error (.fault .notAnObject) := by
  cases v <;> first | rfl | cases h

theorem elements_of_number? (h : v.number? = some m) :
    v.elements = .error (.fault .notIterable) := by
  cases v <;> first | rfl | cases h

theorem entries_ofKey (key : Key) : (ofKey key).entries = .error (.fault .notAnObject) := by
  cases key <;> rfl

theorem memberOr_of_entries_error {e : Error} (h : v.entries = .error e) (default : Value) :
    v.memberOr key default = .error e := by
  rw [memberOr, member?, h]
  rfl

end Number

namespace Same

variable {v w : Value}

theorem toInteger (h : v.Same w) : v.toInteger = w.toInteger := by
  cases h with
  | refl => rfl
  | number hv hw heqv =>
    rw [toInteger_of_number? hv, toInteger_of_number? hw, Number.truncate_congr heqv]
  | items => rfl
  | entries => rfl

theorem eq_null_iff (h : v.Same w) : v = null ↔ w = null := by
  cases h with
  | refl => rfl
  | number hv hw =>
    have hvne : v ≠ null := fun hnull => by rw [hnull] at hv; cases hv
    have hwne : w ≠ null := fun hnull => by rw [hnull] at hw; cases hw
    exact iff_of_false hvne hwne
  | items => simp
  | entries => simp

theorem alike_member? (h : v.Same w) (key : Key) :
    Alike (Option.Rel Same) (v.member? key) (w.member? key) := by
  cases h with
  | refl =>
    intro a b ha hb
    rw [ha] at hb
    cases hb
    exact rel_same_refl a
  | number hv =>
    rw [member?, entries_of_number? hv]
    exact alike_error _ _
  | items => exact alike_error _ _
  | entries hall => exact alike_ok (hall key)

theorem alike_memberOr (h : v.Same w) (key : Key) (default : Value) :
    Alike Same (v.memberOr key default) (w.memberOr key default) :=
  (h.alike_member? key).map fun _ _ hab => same_getD hab default

theorem alike_elements (h : v.Same w) : Alike SameElements v.elements w.elements := by
  cases h with
  | refl =>
    intro xs ys hxs hys
    rw [hxs] at hys
    cases hys
    exact .inl (forall₂_same_refl xs)
  | number hv =>
    rw [elements_of_number? hv]
    exact alike_error _ _
  | items hitems => exact alike_ok (.inl hitems)
  | entries =>
    refine alike_ok (.inr ⟨?_, ?_⟩)
    · exact List.forall_mem_map.2 fun e _ => ⟨e.1, rfl⟩
    · exact List.forall_mem_map.2 fun e _ => ⟨e.1, rfl⟩

end Same

end Value

end FacetSearch
