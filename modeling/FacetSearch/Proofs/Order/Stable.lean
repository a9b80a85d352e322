import Mathlib.Data.List.TakeWhile

/-!
# Stable arrangements

An order says of two entries whether the first may stand before the second. Entries that may stand
either way round are tied. A list is sorted stably if its entries are brought into the order and those
that are tied stay as they came (`IsStableSort`). Only one arrangement of a list is like that
(`IsStableSort.eq`), and core's `List.mergeSort` makes it (`WeakOrder.isStableSort_mergeSort`). A list can
also be sorted in parts that are then merged (`WeakOrder.isStableSort_merge`), or turned around and
sorted in the opposite order (`IsStableSort.reverse`).
-/

namespace FacetSearch.Order

open List

variable {α : Type} {le : α → α → Bool} {xs ys sorted sorted' : List α}

/-- Any two entries can be compared, and may be tied. -/
structure WeakOrder (le : α → α → Bool) : Prop where
  trans : ∀ a b c, le a b = true → le b c = true → le a c = true
  total : ∀ a b, (le a b || le b a) = true

/-- Two entries may stand either way round. -/
def tied (le : α → α → Bool) (a b : α) : Bool := le a b && le b a

/-- The entries moved about, but for tied ones, which stay in their order. -/
structure Keeps (le : α → α → Bool) (xs ys : List α) : Prop where
  perm : ys.Perm xs
  ties : ∀ a ∈ xs, ys.filter (tied le a) = xs.filter (tied le a)

/-- The entries in order, and tied ones in the order in which they came. -/
structure IsStableSort (le : α → α → Bool) (xs sorted : List α) : Prop
    extends Keeps le xs sorted where
  rises : sorted.Pairwise fun a b => le a b = true

theorem tied_iff {a b : α} : tied le a b = true ↔ le a b = true ∧ le b a = true :=
  Bool.and_eq_true_iff

namespace Keeps

variable {zs : List α}

theorem refl (xs : List α) : Keeps le xs xs := ⟨.refl xs, fun _ _ => rfl⟩

theorem symm (h : Keeps le xs ys) : Keeps le ys xs :=
  ⟨h.perm.symm, fun a ha => (h.ties a (h.perm.subset ha)).symm⟩

theorem trans (h : Keeps le xs ys) (h' : Keeps le ys zs) : Keeps le xs zs :=
  ⟨h'.perm.trans h.perm, fun a ha =>
    (h'.ties a (h.perm.symm.subset ha)).trans (h.ties a ha)⟩

theorem of_cons {x : α} (h : Keeps le (x :: xs) (x :: ys)) : Keeps le xs ys := by
  refine ⟨(perm_cons x).1 h.perm, fun a ha => ?_⟩
  have htie := h.ties a (mem_cons_of_mem x ha)
  rw [filter_cons, filter_cons] at htie
  split at htie
  · exact (cons.inj htie).2
  · exact htie

/-- In order there is only one way to arrange a list. -/
theorem eq_of_pairwise (hrefl : ∀ a ∈ xs, le a a = true) (h : Keeps le xs ys)
    (hxs : xs.Pairwise fun a b => le a b = true) (hys : ys.Pairwise fun a b => le a b = true) :
    ys = xs := by
  induction xs generalizing ys with
  | nil => exact perm_nil.1 h.perm
  | cons x xs ih =>
    cases ys with
    | nil => cases h.perm.symm.subset mem_cons_self
    | cons y ys =>
      -- each of the two heads may stand before the other, so that they are tied
      have hxx := hrefl x mem_cons_self
      have hxy : le x y = true := by
        rcases mem_cons.1 (h.perm.subset mem_cons_self) with rfl | hy
        · exact hxx
        · exact rel_of_pairwise_cons hxs hy
      have hyx : le y x = true := by
        rcases mem_cons.1 (h.perm.symm.subset mem_cons_self) with rfl | hx
        · exact hxx
        · exact rel_of_pairwise_cons hys hx
      have hheads := h.ties x mem_cons_self
      rw [filter_cons_of_pos (tied_iff.2 ⟨hxy, hyx⟩), filter_cons_of_pos (tied_iff.2 ⟨hxx, hxx⟩)]
        at hheads
      obtain ⟨rfl, -⟩ := cons.inj hheads
      rw [ih (fun a ha => hrefl a (mem_cons_of_mem _ ha)) h.of_cons hxs.tail hys.tail]

end Keeps

namespace IsStableSort

theorem eq (hrefl : ∀ a ∈ xs, le a a = true) (h : IsStableSort le xs sorted)
    (h' : IsStableSort le xs sorted') : sorted = sorted' :=
  (h'.toKeeps.symm.trans h.toKeeps).eq_of_pairwise
    (fun a ha => hrefl a (h'.perm.subset ha)) h'.rises h.rises

/-- What is in order already is sorted as it is. -/
theorem of_pairwise (h : xs.Pairwise fun a b => le a b = true) : IsStableSort le xs xs :=
  ⟨.refl xs, h⟩

theorem of_keeps (h : Keeps le xs ys) (h' : IsStableSort le ys sorted) :
    IsStableSort le xs sorted := ⟨h.trans h'.toKeeps, h'.rises⟩

theorem congr {le' : α → α → Bool} (hle : ∀ a ∈ xs, ∀ b ∈ xs, le a b = le' a b)
    (h : IsStableSort le xs sorted) : IsStableSort le' xs sorted := by
  have htied : ∀ a ∈ xs, ∀ b ∈ xs, tied le a b = tied le' a b := fun a ha b hb => by
    rw [tied, tied, hle a ha b hb, hle b hb a ha]
  have hmem : ∀ {a}, a ∈ sorted → a ∈ xs := fun ha => h.perm.subset ha
  refine ⟨⟨h.perm, fun a ha => ?_⟩, h.rises.imp_of_mem fun ha hb hab => ?_⟩
  · rw [← filter_congr (htied a ha), ← filter_congr fun b hb => htied a ha b (hmem hb)]
    exact h.ties a ha
  · rw [← hle _ (hmem ha) _ (hmem hb)]
    exact hab

/-- Sorted in the opposite order, the reversed list is the reverse of the sorted one. -/
theorem reverse (h : IsStableSort (fun a b => le b a) xs.reverse sorted) :
    IsStableSort le xs sorted.reverse := by
  refine ⟨⟨?_, fun a ha => ?_⟩, pairwise_reverse.2 h.rises⟩
  · exact (reverse_perm sorted).trans (h.perm.trans (reverse_perm xs))
  · have hties := h.ties a (mem_reverse.2 ha)
    have hswap : tied (fun a b => le b a) a = tied le a := funext fun b => Bool.and_comm _ _
    rw [hswap, filter_reverse] at hties
    rw [filter_reverse, hties, reverse_reverse]

end IsStableSort

namespace WeakOrder

theorem refl (hle : WeakOrder le) (a : α) : le a a = true := by simpa using hle.total a a

theorem le_of_not_le (hle : WeakOrder le) {a b : α} (h : le a b = false) : le b a = true := by
  simpa [h] using hle.total a b

theorem not_le_trans (hle : WeakOrder le) (a b c : α) (hab : le a b = false)
    (hbc : le b c = false) : le a c = false := by
  refine Bool.eq_false_iff.2 fun hac => ?_
  rw [hle.trans a c b hac (hle.le_of_not_le hbc)] at hab
  cases hab

/-- In order no entry stands behind the last one. -/
theorem le_getLast (hle : WeakOrder le) (hxs : xs.Pairwise fun a b => le a b = true) {last : α}
    (h : xs.getLast? = some last) : ∀ a ∈ xs, le a last = true := by
  obtain ⟨init, rfl⟩ := getLast?_eq_some_iff.1 h
  intro a ha
  rcases mem_append.1 ha with ha | ha
  · exact (pairwise_append.1 hxs).2.2 a ha last (mem_singleton_self last)
  · rw [mem_singleton.1 ha]
    exact hle.refl last

theorem swap (hle : WeakOrder le) : WeakOrder fun a b => le b a :=
  ⟨fun a b c hab hbc => hle.trans c b a hbc hab, fun a b => hle.total b a⟩

theorem tied_congr (hle : WeakOrder le) {a b : α} (h : tied le a b = true) :
    tied le a = tied le b := by
  obtain ⟨hab, hba⟩ := tied_iff.1 h
  funext c
  rw [Bool.eq_iff_iff, tied_iff, tied_iff]
  constructor
  · rintro ⟨hac, hca⟩
    exact ⟨hle.trans b a c hba hac, hle.trans c a b hca hab⟩
  · rintro ⟨hbc, hcb⟩
    exact ⟨hle.trans a b c hab hbc, hle.trans c b a hcb hba⟩

/-- Entries that are tied with another one are tied with each other. -/
theorem pairwise_filter_tied (hle : WeakOrder le) (a : α) (xs : List α) :
    (xs.filter (tied le a)).Pairwise fun b c => le b c = true := by
  refine pairwise_of_forall_mem_list fun b hb c hc => ?_
  exact hle.trans b a c (tied_iff.1 (mem_filter.1 hb).2).2 (tied_iff.1 (mem_filter.1 hc).2).1

theorem isStableSort_mergeSort (hle : WeakOrder le) (xs : List α) :
    IsStableSort le xs (xs.mergeSort le) := by
  refine ⟨⟨mergeSort_perm xs le, fun a _ => ?_⟩, pairwise_mergeSort hle.trans hle.total xs⟩
  have hsub := (sublist_mergeSort hle.trans hle.total (hle.pairwise_filter_tied a xs)
    filter_sublist).filter (tied le a)
  rw [filter_filter] at hsub
  simp only [Bool.and_self] at hsub
  exact (hsub.eq_of_length ((mergeSort_perm xs le).filter _).length_eq.symm).symm

/-- A list that falls all along, so that no two entries are tied, is sorted by turning it around. -/
theorem isStableSort_reverse (hle : WeakOrder le) (h : xs.Pairwise fun a b => le a b = false) :
    IsStableSort le xs xs.reverse := by
  refine ⟨⟨reverse_perm xs, fun a _ => ?_⟩, pairwise_reverse.2 (h.imp hle.le_of_not_le)⟩
  rw [filter_reverse]
  match xs.filter (tied le a), h.filter (tied le a), hle.pairwise_filter_tied a xs with
  | [], _, _ | [b], _, _ => rfl
  | b :: c :: _, hfalls, hties =>
    have hbc := rel_of_pairwise_cons hfalls mem_cons_self
    rw [rel_of_pairwise_cons hties mem_cons_self] at hbc
    cases hbc

/-! ## Parts of a list -/

/-- What is tied with any entry stays in its order, be it in the list or not. -/
theorem filter_tied (hle : WeakOrder le) (h : Keeps le xs ys) (a : α) :
    ys.filter (tied le a) = xs.filter (tied le a) := by
  by_cases hex : ∃ b ∈ xs, tied le a b = true
  · obtain ⟨b, hb, htied⟩ := hex
    rw [hle.tied_congr htied]
    exact h.ties b hb
  · have hnone : ∀ b ∈ xs, ¬tied le a b = true := fun b hb htied => hex ⟨b, hb, htied⟩
    rw [filter_eq_nil_iff.2 hnone, filter_eq_nil_iff.2 fun b hb => hnone b (h.perm.subset hb)]

theorem keeps_append (hle : WeakOrder le) {xs' ys' : List α} (h : Keeps le xs ys)
    (h' : Keeps le xs' ys') : Keeps le (xs ++ xs') (ys ++ ys') := by
  refine ⟨h.perm.append h'.perm, fun a _ => ?_⟩
  rw [filter_append, filter_append, hle.filter_tied h, hle.filter_tied h']

/-- Of two sorted lists that are merged, all entries of the first one that are tied with an entry come
before those of the second one. -/
theorem filter_merge (hle : WeakOrder le) (a : α) (hxs : xs.Pairwise fun a b => le a b = true)
    (hys : ys.Pairwise fun a b => le a b = true) :
    (xs.merge ys le).filter (tied le a) = xs.filter (tied le a) ++ ys.filter (tied le a) := by
  induction xs generalizing ys with
  | nil => simp
  | cons x xs ihx =>
    induction ys with
    | nil => simp
    | cons y ys ihy =>
      rw [cons_merge_cons]
      by_cases hxy : le x y = true
      · rw [if_pos hxy, filter_cons, ihx hxs.tail hys, filter_cons (x := x)]
        split <;> rfl
      · rw [if_neg hxy, filter_cons, ihy hys.tail, filter_cons (x := y)]
        split
        · -- no entry of the first list is tied with one that comes before its head
          rename_i hay
          have hnone : ∀ b ∈ x :: xs, ¬tied le a b = true := by
            intro b hb hab
            have hby := hle.trans b a y (tied_iff.1 hab).2 (tied_iff.1 hay).1
            rcases mem_cons.1 hb with rfl | hb
            · exact hxy hby
            · exact hxy (hle.trans x b y (rel_of_pairwise_cons hxs hb) hby)
          rw [filter_eq_nil_iff.2 hnone]
          rfl
        · rfl

/-- Two neighbouring parts of a list can be sorted and merged. -/
theorem isStableSort_merge (hle : WeakOrder le) (h : IsStableSort le xs sorted)
    (h' : IsStableSort le ys sorted') : IsStableSort le (xs ++ ys) (sorted.merge sorted' le) := by
  have hmerge : Keeps le (sorted ++ sorted') (sorted.merge sorted' le) := by
    refine ⟨merge_perm_append le, fun a _ => ?_⟩
    rw [hle.filter_merge a h.rises h'.rises, filter_append]
  exact ⟨(hle.keeps_append h.toKeeps h'.toKeeps).trans hmerge,
    pairwise_merge hle.trans hle.total _ _ h.rises h'.rises⟩

/-- Entries at either end that stand in their place already need not be sorted with those between. -/
theorem isStableSort_of_ends (hle : WeakOrder le) {m n : Nat} {middle : List α}
    (hxs : xs.Pairwise fun a b => le a b = true) (hys : ys.Pairwise fun a b => le a b = true)
    (hfirst : ∀ a ∈ xs.take m, ∀ b ∈ ys, le a b = true)
    (hlast : ∀ a ∈ xs, ∀ b ∈ ys.drop n, le a b = true)
    (h : IsStableSort le (xs.drop m ++ ys.take n) middle) :
    IsStableSort le (xs ++ ys) (xs.take m ++ middle ++ ys.drop n) := by
  have hkeeps := hle.keeps_append (hle.keeps_append (.refl (xs.take m)) h.toKeeps)
    (.refl (ys.drop n))
  rw [← append_assoc, append_assoc _ _ (ys.drop n), take_append_drop, take_append_drop] at hkeeps
  have hmiddle : ∀ {a}, a ∈ middle → a ∈ xs.drop m ∨ a ∈ ys.take n :=
    fun ha => mem_append.1 (h.perm.subset ha)
  have hparts := hxs
  rw [← take_append_drop m xs, pairwise_append] at hparts
  have hparts' := hys
  rw [← take_append_drop n ys, pairwise_append] at hparts'
  refine ⟨hkeeps, pairwise_append.2 ⟨pairwise_append.2 ⟨hparts.1, h.rises, ?_⟩, hparts'.2.1, ?_⟩⟩
  · intro a ha b hb
    rcases hmiddle hb with hb | hb
    · exact hparts.2.2 a ha b hb
    · exact hfirst a ha b (mem_of_mem_take hb)
  · intro a ha b hb
    rcases mem_append.1 ha with ha | ha
    · exact hlast a (mem_of_mem_take ha) b hb
    · rcases hmiddle ha with ha | ha
      · exact hlast a (mem_of_mem_drop ha) b hb
      · exact hparts'.2.2 a ha b hb

end WeakOrder

end FacetSearch.Order
