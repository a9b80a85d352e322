import FacetSearch.Order.Merge
import FacetSearch.Proofs.Order.Search
import FacetSearch.Proofs.Order.Stable

/-!
# Merging two runs

Where the entries of two runs are in order and comparing them says how they stand, taking entries one
by one and letting the runs take turns come to the same: the two runs merged (`alternate_eq`). A turn
takes from one run all that stands before the head of the other, which merging would take one by one
(`Contest.Fits.turn`).
-/

namespace FacetSearch.Order

open Outcome List

variable {α : Type} {lt : α → α → Except Error Bool} {le : α → α → Bool}

/-- Merging takes all entries of the second list that stand before the head of the first. -/
theorem cons_merge_eq_takeWhile (x : α) (xs ys : List α) :
    (x :: xs).merge ys le =
      ys.takeWhile (fun y => !le x y) ++ x :: xs.merge (ys.dropWhile fun y => !le x y) le := by
  induction ys with
  | nil => simp
  | cons y ys ih =>
    rw [cons_merge_cons]
    by_cases h : le x y = true
    · rw [if_pos h, takeWhile_cons, dropWhile_cons, h]
      rfl
    · rw [if_neg h, takeWhile_cons, dropWhile_cons, Bool.eq_false_iff.2 h, ih]
      rfl

/-- Merging takes all entries of the first list that may stand before the head of the second. -/
theorem merge_cons_eq_takeWhile (y : α) (xs ys : List α) :
    xs.merge (y :: ys) le =
      xs.takeWhile (fun x => le x y) ++ y :: (xs.dropWhile fun x => le x y).merge ys le := by
  induction xs with
  | nil => simp
  | cons x xs ih =>
    rw [cons_merge_cons]
    by_cases h : le x y = true
    · rw [if_pos h, takeWhile_cons, if_pos h, dropWhile_cons, if_pos h, ih]
      rfl
    · rw [if_neg h, takeWhile_cons, if_neg h, dropWhile_cons, if_neg h]
      rfl

namespace Contest

variable {c : Contest α} {d : Direction}

/-- The entries left of both runs in order, those of the short run first. -/
def merged (le : α → α → Bool) (c : Contest α) : List α := c.short.merge c.long le

/-- Both runs are in order, comparing two entries says how they stand, and the last entry of the short
run is the last of all. -/
structure Fits (d : Direction) (lt : α → α → Except Error Bool) (le : α → α → Bool)
    (c : Contest α) : Prop where
  short : c.short.Pairwise fun a b => le a b = true
  long : c.long.Pairwise fun a b => le a b = true
  compare : ∀ s ∈ c.short, ∀ l ∈ c.long, d.precedes lt l s = .ok (!le s l)
  last : ∀ s ∈ c.short.getLast?, ∀ l ∈ c.long, le s l = false

namespace Fits

theorem of_drop (h : c.Fits d lt le) (m n : Nat) :
    Fits d lt le ⟨c.short.drop m, c.long.drop n⟩ where
  short := h.short.drop
  long := h.long.drop
  compare s hs l hl := h.compare s (mem_of_mem_drop hs) l (mem_of_mem_drop hl)
  last s hs l hl := by
    refine h.last s ?_ l (mem_of_mem_drop hl)
    rw [← take_append_drop m c.short]
    exact mem_getLast?_append_of_mem_getLast? hs

theorem advance (h : c.Fits d lt le) (side : Side) (n : Nat) : (c.advance side n).Fits d lt le := by
  cases side with
  | short => exact h.of_drop n 1
  | long => exact h.of_drop 1 n

theorem settle_eq (h : c.Fits d lt le) (hdecided : c.isDecided = true) :
    c.settle = c.merged le := by
  obtain ⟨short, long⟩ := c
  match short, hdecided with
  | [], _ => exact (nil_merge long).symm
  | [s], _ =>
    have hlast : ∀ l ∈ long, (!le s l) = true := fun l hl => by
      rw [h.last s rfl l hl]
      rfl
    rw [merged, cons_merge_eq_takeWhile, takeWhile_eq_self_iff.2 hlast, dropWhile_eq_nil_iff.2 hlast]
    simp [settle]
  | s :: s' :: short, hdecided =>
    obtain rfl : long = [] := isEmpty_iff.1 hdecided
    simp [merged, settle]

/-- A turn takes from a run what merging takes before the head of the other, and that head. -/
theorem turn (hle : WeakOrder le) (h : c.Fits d lt le) (hopen : ¬c.isDecided = true) (side : Side) :
    ∃ n, c.wins d lt side = .ok n ∧
      c.merged le = c.taken side n ++ (c.advance side n).merged le := by
  obtain ⟨short, long⟩ := c
  match short, long, hopen with
  | [], _, hopen | [_], _, hopen | _ :: _ :: _, [], hopen => exact absurd rfl hopen
  | s :: s' :: short, l :: long, _ =>
    cases side with
    | short =>
      have hp : ∀ a ∈ s :: s' :: short, (!·) <$> d.precedes lt l a = .ok (le a l) := fun a ha => by
        rw [h.compare a ha l mem_cons_self]
        simp [Functor.map, Except.map]
      have hfirst : (s :: s' :: short).Pairwise fun a b => le b l = true → le a l = true :=
        h.short.imp fun hab hbl => hle.trans _ _ _ hab hbl
      refine ⟨_, reach_eq_findIdx hfirst hp, ?_⟩
      rw [merged, merge_cons_eq_takeWhile, takeWhile_eq_take_findIdx_not,
        dropWhile_eq_drop_findIdx_not]
      exact (append_assoc _ [l] _).symm
    | long =>
      have hp : ∀ b ∈ l :: long, d.precedes lt b s = .ok (!le s b) :=
        fun b hb => h.compare s mem_cons_self b hb
      have hfirst : (l :: long).Pairwise fun a b => (!le s b) = true → (!le s a) = true := by
        refine h.long.imp fun {a b} hab hsb => ?_
        rw [Bool.not_eq_true'] at hsb ⊢
        refine Bool.eq_false_iff.2 fun hsa => ?_
        rw [hle.trans s a b hsa hab] at hsb
        cases hsb
      refine ⟨_, reach_eq_findIdx hfirst hp, ?_⟩
      rw [merged, cons_merge_eq_takeWhile, takeWhile_eq_take_findIdx_not,
        dropWhile_eq_drop_findIdx_not]
      exact (append_assoc _ [s] _).symm

/-- Taking one entry takes the one that merging takes. -/
theorem lead (h : c.Fits d lt le) (hopen : ¬c.isDecided = true) :
    ∃ leads, c.longLeads d lt = .ok leads ∧
      c.merged le = c.taken (if leads then .short else .long) 0 ++
        (c.advance (if leads then .short else .long) 0).merged le := by
  obtain ⟨short, long⟩ := c
  match short, long, hopen with
  | [], _, hopen | [_], _, hopen | _ :: _ :: _, [], hopen => exact absurd rfl hopen
  | s :: s' :: short, l :: long, _ =>
    refine ⟨_, h.compare s mem_cons_self l mem_cons_self, ?_⟩
    rw [merged, cons_merge_cons]
    cases le s l <;> rfl

end Fits

end Contest

/-- A turn is one of merging if what comes after it is. -/
theorem turn_eq {c : Contest α} {side : Side} {n : Nat} {later : Except Error (List α × Nat)}
    (hturn : c.merged le = c.taken side n ++ (c.advance side n).merged le)
    (hlater : ∃ least', later = .ok ((c.advance side n).merged le, least')) :
    ∃ least', (later >>= fun r => .ok (c.taken side n ++ r.1, r.2)) = .ok (c.merged le, least') := by
  obtain ⟨least', hlater⟩ := hlater
  rw [hlater, hturn]
  exact ⟨least', rfl⟩

-- By recursion like that of the two functions: every turn leaves a smaller contest.
mutual

theorem alternate_eq {d : Direction} {least shortWins longWins : Nat} {c : Contest α}
    (hle : WeakOrder le) (h : c.Fits d lt le) :
    ∃ least', alternate d lt least shortWins longWins c = .ok (c.merged le, least') := by
  unfold alternate
  split
  · rename_i hdecided
    rw [h.settle_eq hdecided]
    exact ⟨least, rfl⟩
  · rename_i hopen
    obtain ⟨leads, hleads, hturn⟩ := h.lead hopen
    rw [hleads, ok_bind]
    cases leads with
    | true =>
      have := c.size_advance_lt .short 0 hopen
      simp only [↓reduceIte]
      split
      · exact turn_eq hturn (takeTurns_eq hle (h.advance .short 0))
      · exact turn_eq hturn (alternate_eq hle (h.advance .short 0))
    | false =>
      have := c.size_advance_lt .long 0 hopen
      simp only [↓reduceIte, Bool.false_eq_true]
      split
      · exact turn_eq hturn (takeTurns_eq hle (h.advance .long 0))
      · exact turn_eq hturn (alternate_eq hle (h.advance .long 0))
termination_by c.size

theorem takeTurns_eq {d : Direction} {least : Nat} {side : Side} {won : Option Nat}
    {c : Contest α} (hle : WeakOrder le) (h : c.Fits d lt le) :
    ∃ least', takeTurns d lt least side won c = .ok (c.merged le, least') := by
  unfold takeTurns
  split
  · rename_i hdecided
    rw [h.settle_eq hdecided]
    exact ⟨least, rfl⟩
  · rename_i hopen
    obtain ⟨n, hn, hturn⟩ := h.turn hle hopen side
    have hrest := h.advance side n
    have := c.size_advance_lt side n hopen
    rw [hn, ok_bind]
    split
    · rename_i hdecided
      rw [hrest.settle_eq hdecided, hturn]
      exact ⟨least, rfl⟩
    · cases won with
      | none => exact turn_eq hturn (takeTurns_eq hle hrest)
      | some m =>
        dsimp only
        split
        · exact turn_eq hturn (takeTurns_eq hle hrest)
        · exact turn_eq hturn (alternate_eq hle hrest)
termination_by c.size

end

end FacetSearch.Order
