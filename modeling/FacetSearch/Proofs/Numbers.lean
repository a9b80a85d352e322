import FacetSearch.Number.Rounding

/-!
# Numbers that stand for whole numbers

A number may be written as a double and still stand for a whole number. Whole numbers are ordered as
such, and dropping the fraction of a number that stands for one gives it back.
-/

namespace FacetSearch

namespace Number

/-- A double that stands for a whole number loses nothing when its fraction is dropped. -/
theorem truncate_of_eqv {m : Number} {n : Int} (h : m.eqv (.int n) = true) :
    m.truncate = .ok n := by
  have hmagnitude : m.magnitude = .finite n := (Magnitude.eqv_iff.1 h).1
  cases m with
  | int k =>
    have hk : (k : Rat) = n := Magnitude.finite.inj hmagnitude
    rw [truncate_int, Rat.intCast_inj.1 hk]
  | float x =>
    have hx : Magnitude.ofFloat x = .finite n := hmagnitude
    simp [truncate, hx]

theorem lt_int {m n : Int} : Number.lt (.int m) (.int n) = decide (m < n) := by
  simp only [lt, magnitude, Magnitude.lt, Rat.intCast_lt_intCast]

theorem le_int {m n : Int} : Number.le (.int m) (.int n) = true ↔ m ≤ n := by
  have heqv : Number.eqv (.int m) (.int n) = (m == n) := by
    simp only [eqv, magnitude, Magnitude.eqv]
    rw [Bool.eq_iff_iff, beq_iff_eq, beq_iff_eq, Rat.intCast_inj]
  rw [le, lt_int, heqv, Bool.or_eq_true, decide_eq_true_iff, beq_iff_eq]
  omega

end Number

end FacetSearch
