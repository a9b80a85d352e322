import FacetSearch.Order.Runs
import FacetSearch.Proofs.Order.Merge

/-!
# Joining two runs

Two neighbouring runs in order are joined into one, in which entries that are tied stay as they came
(`join_spec`). What is in its place at the front of the first run and at the end of the second one is
found by leaping (`reach_head`, `reach_last`); what is between overlaps (`Overlap`), and merging it from
either end gives the same.
-/

namespace FacetSearch.Order

open Outcome List

variable {α : Type} {lt : α → α → Except Error Bool} {le : α → α → Bool}

theorem not_lt_eq {a b : α} (h : lt b a = .ok (!le a b)) : (!·) <$> lt b a = .ok (le a b) := by
  rw [h]
  simp [Functor.map, Except.map]

/-- Two neighbouring runs in order with nothing in its place at the far ends: the head of the second
run stands before all of the first one, and the last of the first run behind all of the second one. -/
structure Overlap (lt : α → α → Except Error Bool) (le : α → α → Bool) (front back : List α) :
    Prop where
  front_rises : front.Pairwise fun a b => le a b = true
  back_rises : back.Pairwise fun a b => le a b = true
  compare : ∀ a ∈ front, ∀ b ∈ back, lt b a = .ok (!le a b)
  head : ∀ a ∈ front, ∀ b ∈ back.head?, le a b = false
  last : ∀ a ∈ front.getLast?, ∀ b ∈ back, le a b = false

/-- The head of the second list is the first of all if no entry of the first may stand before it. -/
theorem take_one_append_merge {xs ys : List α} (h : ∀ a ∈ xs, ∀ b ∈ ys.head?, le a b = false) :
    ys.take 1 ++ xs.merge (ys.drop 1) le = xs.merge ys le := by
  cases ys with
  | nil => rfl
  | cons y ys =>
    cases xs with
    | nil => simp
    | cons x xs =>
      rw [cons_merge_cons, h x mem_cons_self y rfl]
      rfl

namespace Overlap

variable {front back : List α}

/-- What is left of two runs once the entries in their place are taken off at both ends. -/
theorem of_ends {a b : List α} {n m : Nat} {last : α} (ha : a.Pairwise fun x y => le x y = true)
    (hb : b.Pairwise fun x y => le x y = true) (hlt : ∀ x ∈ a, ∀ y ∈ b, lt y x = .ok (!le x y))
    (hafter : ∀ x ∈ a.drop n, ∀ y ∈ b.head?, le x y = false)
    (hlast : (a.drop n).getLast? = some last) (hback : ∀ y ∈ b.take m, le last y = false) :
    Overlap lt le (a.drop n) (b.take m) := by
  refine ⟨ha.drop, hb.take, fun x hx y hy => ?_, fun x hx y hy => ?_, fun x hx => ?_⟩
  · exact hlt x (mem_of_mem_drop hx) y (mem_of_mem_take hy)
  · rw [head?_take] at hy
    split at hy
    · cases hy
    · exact hafter x hx y hy
  · rw [hlast] at hx
    cases hx
    exact hback

theorem merge_forward (hle : WeakOrder le) (h : Overlap lt le front back) (least : Nat) :
    ∃ merged least', alternate .forward lt least 0 0 ⟨front, back.drop 1⟩ = .ok (merged, least') ∧
      IsStableSort le (front ++ back) (back.take 1 ++ merged) := by
  have hfits : Contest.Fits .forward lt le ⟨front, back.drop 1⟩ :=
    ⟨h.front_rises, h.back_rises.drop, fun s hs l hl => h.compare s hs l (mem_of_mem_drop hl),
      fun s hs l hl => h.last s hs l (mem_of_mem_drop hl)⟩
  obtain ⟨least', hmerged⟩ := alternate_eq hle hfits
  refine ⟨_, least', hmerged, ?_⟩
  rw [Contest.merged, take_one_append_merge h.head]
  exact hle.isStableSort_merge (.of_pairwise h.front_rises) (.of_pairwise h.back_rises)

/-- From the back both runs are turned around, and so is the order. -/
theorem merge_backward (hle : WeakOrder le) (h : Overlap lt le front back) (least : Nat) :
    ∃ merged least', alternate .backward lt least 0 0 ⟨back.reverse, front.reverse.drop 1⟩ =
        .ok (merged, least') ∧
      IsStableSort le (front ++ back) (front.reverse.take 1 ++ merged).reverse := by
  have hfront := pairwise_reverse.2 h.front_rises
  have hback := pairwise_reverse.2 h.back_rises
  have hfits : Contest.Fits .backward lt (fun a b => le b a)
      ⟨back.reverse, front.reverse.drop 1⟩ := by
    refine ⟨hback, hfront.drop, fun s hs l hl => ?_, fun s hs l hl => ?_⟩
    · exact h.compare l (mem_reverse.1 (mem_of_mem_drop hl)) s (mem_reverse.1 hs)
    · rw [getLast?_reverse] at hs
      exact h.head l (mem_reverse.1 (mem_of_mem_drop hl)) s hs
  have hhead : ∀ b ∈ back.reverse, ∀ a ∈ front.reverse.head?, le a b = false := by
    intro b hb a ha
    rw [head?_reverse] at ha
    exact h.last a ha b (mem_reverse.1 hb)
  obtain ⟨least', hmerged⟩ := alternate_eq hle.swap hfits
  refine ⟨_, least', hmerged, IsStableSort.reverse ?_⟩
  rw [Contest.merged, take_one_append_merge hhead, reverse_append]
  exact hle.swap.isStableSort_merge (.of_pairwise hback) (.of_pairwise hfront)

end Overlap

/-- Entries of the first run that may stand before the head of the second are in their place. -/
theorem reach_head (hle : WeakOrder le) {a : List α} {head : α} {tail : List α}
    (ha : a.Pairwise fun x y => le x y = true) (hb : (head :: tail).Pairwise fun x y => le x y = true)
    (hlt : ∀ x ∈ a, lt head x = .ok (!le x head)) :
    ∃ n, reach .forward (fun x => (!·) <$> lt head x) a = .ok n ∧
      (∀ x ∈ a.take n, ∀ y ∈ head :: tail, le x y = true) ∧ ∀ x ∈ a.drop n, le x head = false := by
  have hfirst : a.Pairwise fun x y => le y head = true → le x head = true :=
    ha.imp fun hxy hy => hle.trans _ _ _ hxy hy
  refine ⟨_, reach_eq_findIdx hfirst fun x hx => not_lt_eq (hlt x hx), fun x hx y hy => ?_,
    fun x hx => refused_of_mem_drop hfirst hx⟩
  have hhead : le x head = true := accepted_of_mem_take (p := fun x => le x head) hx
  rcases mem_cons.1 hy with rfl | hy
  · exact hhead
  · exact hle.trans _ _ _ hhead (rel_of_pairwise_cons hb hy)

/-- Entries of the second run that the last of the first may stand before are in their place. -/
theorem reach_last (hle : WeakOrder le) {b : List α} {last : α}
    (hb : b.Pairwise fun x y => le x y = true) (hlt : ∀ y ∈ b, lt y last = .ok (!le last y)) :
    ∃ k, reach .backward (fun y => (!·) <$> lt y last) b.reverse = .ok k ∧
      (∀ y ∈ b.take (b.length - k), le last y = false) ∧
      ∀ y ∈ b.drop (b.length - k), le last y = true := by
  have hfirst : b.reverse.Pairwise fun x y => le last y = true → le last x = true :=
    pairwise_reverse.2 (hb.imp fun hyx hy => hle.trans _ _ _ hy hyx)
  refine ⟨_, reach_eq_findIdx hfirst fun y hy => not_lt_eq (hlt y (mem_reverse.1 hy)),
    fun y hy => ?_, fun y hy => ?_⟩
  · rw [← mem_reverse, ← drop_reverse] at hy
    exact refused_of_mem_drop hfirst hy
  · rw [← mem_reverse, ← take_reverse] at hy
    exact accepted_of_mem_take hy

/-- Two neighbouring runs that are in order are joined into one. -/
theorem join_spec (hle : WeakOrder le) (least : Nat) {a b : List α}
    (ha : a.Pairwise fun x y => le x y = true) (hb : b.Pairwise fun x y => le x y = true)
    (hlt : ∀ x ∈ a, ∀ y ∈ b, lt y x = .ok (!le x y)) :
    ∃ joined least', join lt least a b = .ok (joined, least') ∧ IsStableSort le (a ++ b) joined := by
  unfold join
  extract_lets rest
  suffices hrest : ∀ n, (∀ x ∈ a.take n, ∀ y ∈ b, le x y = true) →
      (∀ x ∈ a.drop n, ∀ y ∈ b.head?, le x y = false) →
      ∃ joined least', rest n = .ok (joined, least') ∧ IsStableSort le (a ++ b) joined by
    split
    · rename_i head tail
      obtain ⟨n, hn, hbefore, hafter⟩ :=
        reach_head hle ha hb fun x hx => hlt x hx head mem_cons_self
      rw [hn, ok_bind]
      refine hrest n hbefore fun x hx y hy => ?_
      cases hy
      exact hafter x hx
    · exact hrest 0 (by simp) (by simp)
  intro n hbefore hafter
  dsimp only [rest]
  split
  · rename_i hnone
    rw [getLast?_eq_none_iff, drop_eq_nil_iff] at hnone
    rw [take_of_length_le hnone] at hbefore
    exact ⟨_, _, rfl, .of_pairwise (pairwise_append.2 ⟨ha, hb, hbefore⟩)⟩
  · rename_i last hlast
    obtain ⟨k, hk, hback, hlater⟩ := reach_last hle hb
      (hlt last (mem_of_mem_drop (mem_of_getLast? hlast)))
    rw [hk, ok_bind]
    generalize b.length - k = m at hback hlater
    have hends : ∀ {middle : List α}, IsStableSort le (a.drop n ++ b.take m) middle →
        IsStableSort le (a ++ b) (a.take n ++ middle ++ b.drop m) := by
      refine hle.isStableSort_of_ends ha hb hbefore fun x hx y hy => ?_
      rw [getLast?_drop] at hlast
      split at hlast
      · cases hlast
      · exact hle.trans x last y (hle.le_getLast ha hlast x hx) (hlater y hy)
    have hoverlap : Overlap lt le (a.drop n) (b.take m) :=
      .of_ends ha hb hlt hafter hlast hback
    split
    · -- nothing of the second run is out of its place
      rename_i hempty
      rw [List.isEmpty_iff] at hempty
      rw [hempty, append_nil] at hends
      have hjoined := hends (.of_pairwise hoverlap.front_rises)
      rw [take_append_drop, ← nil_append (b.drop m), ← hempty, take_append_drop] at hjoined
      exact ⟨_, _, rfl, hjoined⟩
    · split
      · obtain ⟨merged, least', hmerged, hstable⟩ := hoverlap.merge_forward hle least
        rw [hmerged]
        exact ⟨_, _, rfl, hends hstable⟩
      · obtain ⟨merged, least', hmerged, hstable⟩ := hoverlap.merge_backward hle least
        rw [hmerged]
        exact ⟨_, _, rfl, hends hstable⟩

end FacetSearch.Order
