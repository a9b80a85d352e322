import FacetSearch.Proofs.Heaviest
import FacetSearch.Proofs.Order.Runs

/-!
# The top of a list of weights

Weights that are numbers can be sorted stably: heavy ones first, and those that weigh the same in the
order in which they came. There is one such arrangement of them, and a limit cuts it in two
(`topTerms_stable`). It does not matter how numbers are sorted: the reversed list sorted by its runs,
lightest first, and turned around is the same (`TermWeight.heaviestFirst_eq`).
-/

namespace FacetSearch

open List FacetSearch.Order

namespace TermWeight

/-- The first may stand before the second where weights fall, those that are no numbers last. -/
def notBelow (a b : TermWeight) : Bool := !b.isNumeric || (a.isNumeric && a.notLighter b)

theorem notBelow_eq {a b : TermWeight} (ha : a.isNumeric = true) (hb : b.isNumeric = true) :
    a.notBelow b = a.notLighter b := by
  rw [notBelow, ha, hb]
  rfl

theorem weakOrder_notBelow : WeakOrder notBelow where
  trans a b c hab hbc := by
    by_cases hc : c.isNumeric = true
    · simp only [notBelow, hc, Bool.not_true, Bool.false_or, Bool.and_eq_true] at hbc ⊢
      simp only [notBelow, hbc.1, Bool.not_true, Bool.false_or, Bool.and_eq_true] at hab
      exact ⟨hab.1, Numeric.notLighter_trans ⟨a, hab.1⟩ ⟨b, hbc.1⟩ ⟨c, hc⟩ hab.2 hbc.2⟩
    · rw [notBelow, Bool.eq_false_iff.2 hc]
      rfl
  total a b := by
    by_cases ha : a.isNumeric = true
    · by_cases hb : b.isNumeric = true
      · rw [notBelow_eq ha hb, notBelow_eq hb ha]
        exact Numeric.notLighter_total ⟨a, ha⟩ ⟨b, hb⟩
      · simp [notBelow, hb]
    · simp [notBelow, ha]

section Numbers

variable {weights : List TermWeight} (h : ∀ w ∈ weights, w.isNumeric = true)

include h

theorem isStableSort_mergeSort_notLighter :
    IsStableSort notLighter weights (weights.mergeSort notLighter) := by
  have hle : ∀ a ∈ weights, ∀ b ∈ weights, a.notBelow b = a.notLighter b :=
    fun a ha b hb => notBelow_eq (h a ha) (h b hb)
  have hsorted : weights.mergeSort notBelow = weights.mergeSort notLighter := by
    simpa using map_mergeSort (f := id) hle
  rw [← hsorted]
  exact (weakOrder_notBelow.isStableSort_mergeSort weights).congr hle

/-- There is one stable sort of numbers, heaviest first. -/
theorem isStableSort_iff {sorted : List TermWeight} :
    IsStableSort notLighter weights sorted ↔ sorted = weights.mergeSort notLighter := by
  have hstable := isStableSort_mergeSort_notLighter h
  constructor
  · refine fun hsorted => hsorted.eq (fun w hw => ?_) hstable
    rw [← notBelow_eq (h w hw) (h w hw)]
    exact weakOrder_notBelow.refl w
  · rintro rfl
    exact hstable

/-- Sorting the reversed list by its runs gives the numbers by rising weight. -/
theorem sort_reverse_eq :
    Order.sort (fun a b : TermWeight => a.weight.lt b.weight) weights.reverse =
      .ok (weights.mergeSort notLighter).reverse := by
  have hdecides : Decides (fun a b : TermWeight => a.weight.lt b.weight)
      (fun a b => b.notBelow a) weights.reverse := by
    intro a ha b hb
    have ha := h a (mem_reverse.1 ha)
    have hb := h b (mem_reverse.1 hb)
    change a.weight.lt b.weight = .ok (!a.notBelow b)
    rw [lt_weight_eq ha hb, notBelow_eq ha hb, notLighter, Bool.not_not, lighter_eq ha hb]
  have hrising := weakOrder_notBelow.swap.isStableSort_mergeSort weights.reverse
  have hfalling := hrising.reverse.congr fun a ha b hb => notBelow_eq (h a ha) (h b hb)
  rw [sort_eq_mergeSort weakOrder_notBelow.swap hdecides, ← (isStableSort_iff h).1 hfalling,
    reverse_reverse]

end Numbers

/-- Whatever the weights are, they are sorted as their runs are. -/
theorem heaviestFirst_eq (weights : List TermWeight) :
    heaviestFirst weights =
      List.reverse <$> Order.sort (fun a b => a.weight.lt b.weight) weights.reverse := by
  unfold heaviestFirst
  split
  · rename_i hnumeric
    rw [sort_reverse_eq (all_eq_true.1 hnumeric)]
    exact congrArg Except.ok (reverse_reverse _).symm
  · rfl

end TermWeight

theorem takeLimit_ofInt {α : Type} (limit : Int) (xs : List α) :
    takeLimit (.ofInt limit) xs = .ok
      (xs.take (if 0 ≤ limit then limit.toNat else xs.length - (-limit).toNat)) := by
  rw [apply_ite (xs.take ·)]
  rfl

/-- Numbers have one stable order, the heaviest first, and sorting the reversed list by its runs and
turning it around gives the same. With a limit that is not negative the terms in front are taken, so
many of them as there are; a negative limit leaves as many out at the end. No term left out weighs more
than one that is taken, and of those that weigh the same the first are taken. -/
theorem topTerms_stable {weights : List TermWeight} (h : ∀ w ∈ weights, w.isNumeric = true) :
    ∃ sorted, TermWeight.heaviestFirst weights = .ok sorted ∧
      Order.sort (fun a b => a.weight.lt b.weight) weights.reverse = .ok sorted.reverse ∧
      (∀ other, IsStableSort TermWeight.notLighter weights other ↔ other = sorted) ∧
      ∀ limit : Int, ∃ kept left,
        topTerms weights (.ofInt limit) = .ok kept ∧ kept ++ left = sorted ∧
        (0 ≤ limit → kept.length = min limit.toNat weights.length) ∧
        (limit < 0 → left.length = min limit.natAbs weights.length) ∧
        (∀ k ∈ kept, ∀ l ∈ left, k.lighter l = false) ∧
        ∀ w ∈ weights, kept.filter (tied TermWeight.notLighter w) <+:
          weights.filter (tied TermWeight.notLighter w) := by
  let sorted := weights.mergeSort TermWeight.notLighter
  have hsorted : TermWeight.heaviestFirst weights = .ok sorted := if_pos (all_eq_true.2 h)
  have hstable : IsStableSort TermWeight.notLighter weights sorted :=
    TermWeight.isStableSort_mergeSort_notLighter h
  refine ⟨sorted, hsorted, TermWeight.sort_reverse_eq h,
    fun other => TermWeight.isStableSort_iff h, fun limit => ?_⟩
  have hlength : sorted.length = weights.length := hstable.perm.length_eq
  let n := if 0 ≤ limit then limit.toNat else sorted.length - (-limit).toNat
  have hfalls : (sorted.take n ++ sorted.drop n).Pairwise fun a b => a.notLighter b = true := by
    rw [take_append_drop]
    exact hstable.rises
  refine ⟨sorted.take n, sorted.drop n, ?_, take_append_drop n sorted, fun hlimit => ?_,
    fun hlimit => ?_, fun k hk l hl => ?_, fun w hw => ?_⟩
  · rw [topTerms, hsorted]
    exact takeLimit_ofInt limit sorted
  · rw [length_take, hlength]
    simp only [n, if_pos hlimit]
  · rw [length_drop]
    simp only [n, if_neg (Int.not_le.2 hlimit)]
    omega
  · have hkl := (pairwise_append.1 hfalls).2.2 k hk l hl
    rwa [TermWeight.notLighter, Bool.not_eq_true'] at hkl
  · have hfront : sorted.take n <+: sorted := take_prefix n sorted
    rw [← hstable.ties w hw]
    exact hfront.filter _

/-- A kind of wood with its weight. -/
def wood (name : String) (weight : Float) : TermWeight :=
  ⟨.str "wood", .str name, .num (.float weight)⟩

def oak : TermWeight := wood "oak" 1.5

def elm : TermWeight := wood "elm" 2.5

def ash : TermWeight := wood "ash" 2.5

/-- Elm and ash weigh the same, and elm came in first. -/
theorem topTerms_stable_wood :
    (∀ w ∈ [oak, elm, ash], w.isNumeric = true) ∧
      TermWeight.heaviestFirst [oak, elm, ash] = .ok [elm, ash, oak] ∧
      Order.sort (fun a b => a.weight.lt b.weight) [ash, elm, oak] = .ok [oak, ash, elm] ∧
      topTerms [oak, elm, ash] (.ofInt 1) = .ok [elm] ∧
      topTerms [oak, elm, ash] (.ofInt (-1)) = .ok [elm, ash] := by
  have hnumeric : ∀ w ∈ [oak, elm, ash], w.isNumeric = true := all_eq_true.1 (by decide)
  obtain ⟨sorted, hsorted, hruns, hstable, hlimit⟩ := topTerms_stable hnumeric
  have hwood : IsStableSort TermWeight.notLighter [oak, elm, ash] [elm, ash, oak] := by
    refine ⟨⟨?_, ?_⟩, by decide⟩
    · exact (perm_middle : [elm, ash] ++ [oak] ~ [oak, elm, ash])
    · exact forall_mem_cons.2 ⟨rfl, forall_mem_cons.2 ⟨rfl, forall_mem_cons.2 ⟨rfl,
        forall_mem_nil _⟩⟩⟩
  obtain rfl := (hstable _).1 hwood
  obtain ⟨one, rest, htop, hparts, hone, -⟩ := hlimit 1
  obtain ⟨two, last, htop', hparts', -, hlast, -⟩ := hlimit (-1)
  have hparts : one ++ rest = [elm] ++ [ash, oak] := hparts
  have hparts' : two ++ last = [elm, ash] ++ [oak] := hparts'
  refine ⟨hnumeric, hsorted, hruns, ?_, ?_⟩
  · rw [htop, (append_inj hparts (hone (by decide))).1]
  · rw [htop', (append_inj' hparts' (hlast (by decide))).1]

end FacetSearch
