import Mathlib.Data.List.Basic

/-!
# Lists cut at an element

A list is cut at every occurrence of an element (`List.splitOn`) and put together again with it
(`List.intercalate`). The parts do not hold the element, and a list may be put together part by
part. `mem_inner_iff` tells which elements have others on both sides.
-/

namespace FacetSearch

variable {α : Type}

section Cut

variable [BEq α] [LawfulBEq α]

theorem splitOn_cons_self (a : α) (l : List α) : (a :: l).splitOn a = [] :: l.splitOn a := by
  rw [List.splitOn_eq_splitOnP, List.splitOn_eq_splitOnP, List.splitOnP_cons_eq_if_modifyHead,
    if_pos (beq_self_eq_true a)]

theorem splitOn_cons_of_ne {a b : α} (h : b ≠ a) (l : List α) :
    ∃ part parts, l.splitOn a = part :: parts ∧ (b :: l).splitOn a = (b :: part) :: parts := by
  obtain ⟨part, parts, hparts⟩ := List.exists_cons_of_ne_nil (List.splitOn_ne_nil a l)
  refine ⟨part, parts, hparts, ?_⟩
  rw [List.splitOn_eq_splitOnP] at hparts ⊢
  rw [List.splitOnP_cons_eq_if_modifyHead, if_neg (by simpa using h), hparts, List.modifyHead_cons]

theorem not_mem_of_mem_splitOn {a : α} {l part : List α} (h : part ∈ l.splitOn a) : a ∉ part := by
  induction l generalizing part with
  | nil =>
    rw [List.splitOn_nil, List.mem_singleton] at h
    simp [h]
  | cons b l ih =>
    by_cases hb : b = a
    · subst hb
      rw [splitOn_cons_self, List.mem_cons] at h
      rcases h with rfl | h
      · simp
      · exact ih h
    · obtain ⟨first, rest, hrest, hcut⟩ := splitOn_cons_of_ne hb l
      rw [hrest] at ih
      rw [hcut, List.mem_cons] at h
      rcases h with rfl | h
      · rw [List.mem_cons, not_or]
        exact ⟨Ne.symm hb, ih List.mem_cons_self⟩
      · exact ih (List.mem_cons_of_mem _ h)

end Cut

theorem intercalate_append {sep : List α} {xs ys : List (List α)} (hx : xs ≠ []) (hy : ys ≠ []) :
    List.intercalate sep (xs ++ ys) =
      List.intercalate sep xs ++ sep ++ List.intercalate sep ys := by
  induction xs with
  | nil => exact absurd rfl hx
  | cons x xs ih =>
    cases xs with
    | nil =>
      rw [List.singleton_append, List.intercalate_cons_of_ne_nil hy, List.intercalate_singleton]
    | cons x' xs =>
      rw [List.cons_append, List.intercalate_cons_of_ne_nil (by simp), ih (by simp),
        List.intercalate_cons_cons]
      simp

/-- An element with others on both sides. -/
theorem mem_inner_iff {a : α} {l : List α} : a ∈ l.tail.dropLast ↔
    ∃ before after, before ≠ [] ∧ after ≠ [] ∧ l = before ++ a :: after := by
  constructor
  · intro h
    cases l with
    | nil => cases h
    | cons first rest =>
      rcases List.eq_nil_or_concat' rest with rfl | ⟨init, last, rfl⟩
      · cases h
      · rw [List.tail_cons, List.dropLast_concat] at h
        obtain ⟨before, after, rfl⟩ := List.append_of_mem h
        exact ⟨first :: before, after ++ [last], by simp, by simp, by simp⟩
  · rintro ⟨before, after, hbefore, hafter, rfl⟩
    rw [List.tail_append_of_ne_nil hbefore, List.dropLast_append_of_ne_nil (by simp),
      List.dropLast_cons_of_ne_nil hafter]
    simp

theorem dropLast_sublist_dropLast {l m : List α} (h : l.Sublist m) :
    l.dropLast.Sublist m.dropLast := by
  have hreverse := h.reverse.tail
  rwa [List.tail_reverse, List.tail_reverse, List.reverse_sublist] at hreverse

end FacetSearch
