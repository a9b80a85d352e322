import Mathlib.Data.List.TakeWhile
import FacetSearch.Order.Search
import FacetSearch.Proofs.Outcome

/-!
# Searching finds where a first part ends

If a test accepts a first part of a list and nothing behind it (`AcceptsFirst`), both ways of searching
find where that part ends: halving (`bisect_eq`), whichever of two middle entries it takes, and leaping
(`reach_eq`). A test is like that on a sorted list, if what is accepted stands in front of what is not.
-/

namespace FacetSearch.Order

open Outcome List

variable {α : Type} {accepts : α → Except Error Bool} {p : α → Bool} {xs : List α} {k : Nat}

/-- The test accepts so many entries of the list and none of those behind them. -/
structure AcceptsFirst (accepts : α → Except Error Bool) (xs : List α) (k : Nat) : Prop where
  le_length : k ≤ xs.length
  test : ∀ i, (h : i < xs.length) → accepts xs[i] = .ok (decide (i < k))

theorem bisect_eq {d : Direction} {low high : Nat} (h : AcceptsFirst accepts xs k) (hlow : low ≤ k)
    (hhigh : k ≤ high) (hlength : high ≤ xs.length) : bisect d accepts xs low high = .ok k := by
  unfold bisect
  split
  · rename_i hopen
    have hhalf := d.half_lt (Nat.sub_pos_of_lt hopen)
    have hmiddle : low + d.half (high - low) < xs.length := by omega
    dsimp only
    rw [getElem?_eq_getElem hmiddle]
    dsimp only
    rw [h.test _ hmiddle, ok_bind]
    by_cases hk : low + d.half (high - low) < k
    · rw [if_pos (decide_eq_true hk)]
      exact bisect_eq h hk hhigh hlength
    · rw [if_neg (by simpa using hk)]
      exact bisect_eq h hlow (by omega) (by omega)
  · rw [show low = k by omega]
termination_by high - low

/-- Leaping from an accepted entry ends with the first part ending in the last leap. -/
theorem leap_spec {last next : Nat} (h : AcceptsFirst accepts xs k) (hlast : last < k) :
    ∃ last' next', leap accepts xs last next = .ok (last', next') ∧ last' < k ∧ k ≤ next' ∧
      next' ≤ xs.length := by
  unfold leap
  split
  · rename_i hinside
    rw [h.test next hinside, ok_bind]
    by_cases hk : next < k
    · rw [if_pos (decide_eq_true hk)]
      exact leap_spec h hk
    · rw [if_neg (by simpa using hk)]
      exact ⟨last, next, rfl, hlast, by omega, by omega⟩
  · exact ⟨last, xs.length, rfl, hlast, h.le_length, by omega⟩
termination_by xs.length - next

theorem reach_eq {d : Direction} (h : AcceptsFirst accepts xs k) : reach d accepts xs = .ok k := by
  cases xs with
  | nil =>
    have hk := h.le_length
    rw [reach, Nat.le_zero.1 hk]
  | cons x xs =>
    have htest : accepts x = .ok (decide (0 < k)) := h.test 0 (Nat.zero_lt_succ _)
    rw [reach, htest, ok_bind]
    by_cases hk : 0 < k
    · obtain ⟨last, next, hleap, hlast, hnext, hlength⟩ := leap_spec h hk
      rw [if_pos (decide_eq_true hk), hleap, ok_bind]
      exact bisect_eq h hlast hnext hlength
    · rw [if_neg (by simpa using hk), Nat.eq_zero_of_not_pos hk]
      rfl

theorem accepted_of_mem_take {x : α} (hx : x ∈ xs.take (xs.findIdx fun x => !p x)) :
    p x = true := by
  rw [← takeWhile_eq_take_findIdx_not] at hx
  exact mem_takeWhile_imp hx

section FirstPart

variable (hfirst : xs.Pairwise fun a b => p b = true → p a = true)

include hfirst

/-- If with an entry all in front of it are accepted, what is accepted is a first part. -/
theorem apply_getElem_eq {i : Nat} (hi : i < xs.length) :
    p xs[i] = decide (i < xs.findIdx fun x => !p x) := by
  by_cases hk : i < xs.findIdx fun x => !p x
  · rw [decide_eq_true hk]
    simpa using not_of_lt_findIdx hk
  · -- the entry is behind the first one that is not accepted, or is that one
    have hend : xs.findIdx (fun x => !p x) < xs.length := by omega
    have hrefused : p xs[xs.findIdx fun x => !p x] = false := by
      simpa using findIdx_getElem (w := hend)
    rw [decide_eq_false hk]
    rcases Nat.eq_or_lt_of_le (Nat.le_of_not_lt hk) with heq | hlt
    · simpa only [heq] using hrefused
    · refine Bool.eq_false_iff.2 fun hi' => ?_
      rw [pairwise_iff_getElem.1 hfirst _ i hend hi hlt hi'] at hrefused
      cases hrefused

theorem acceptsFirst_findIdx (hp : ∀ x ∈ xs, accepts x = .ok (p x)) :
    AcceptsFirst accepts xs (xs.findIdx fun x => !p x) :=
  ⟨findIdx_le_length, fun i hi => by rw [hp _ (getElem_mem hi), apply_getElem_eq hfirst hi]⟩

theorem reach_eq_findIdx {d : Direction} (hp : ∀ x ∈ xs, accepts x = .ok (p x)) :
    reach d accepts xs = .ok (xs.findIdx fun x => !p x) :=
  reach_eq (acceptsFirst_findIdx hfirst hp)

theorem refused_of_mem_drop {x : α} (hx : x ∈ xs.drop (xs.findIdx fun x => !p x)) :
    p x = false := by
  obtain ⟨i, hi, rfl⟩ := mem_drop_iff_getElem.1 hx
  rw [apply_getElem_eq hfirst]
  exact decide_eq_false (by omega)

end FirstPart

end FacetSearch.Order
