import FacetSearch.Proofs.Order.Join
import FacetSearch.Proofs.Sorting

/-!
# Sorting by runs is stable

Where comparing entries decides how they stand in a weak order, sorting a list by its runs succeeds and
is the stable sort (`sort_eq_mergeSort`).
-/

namespace FacetSearch.Order

open Outcome List

variable {α : Type} {lt : α → α → Except Error Bool} {le : α → α → Bool}

/-- Comparing two entries of a list says whether the first has to stand before the second. -/
def Decides (lt : α → α → Except Error Bool) (le : α → α → Bool) (xs : List α) : Prop :=
  ∀ a ∈ xs, ∀ b ∈ xs, lt a b = .ok (!le b a)

theorem Decides.of_subset {xs ys : List α} (h : Decides lt le xs) (hys : ys ⊆ xs) :
    Decides lt le ys := fun a ha b hb => h a (hys ha) b (hys hb)

/-! ## The run at the front -/

theorem pairwise_cons_cons {r : α → α → Prop} (htrans : ∀ a b c, r a b → r b c → r a c) {x y : α}
    {xs : List α} (hxy : r x y) (h : (y :: xs).Pairwise r) : (x :: y :: xs).Pairwise r :=
  pairwise_cons.2 ⟨forall_mem_cons.2
    ⟨hxy, fun b hb => htrans x y b hxy (rel_of_pairwise_cons h hb)⟩, h⟩

theorem stretch_spec {goesOn : α → α → Except Error Bool} {q : α → α → Bool} {last : α}
    {xs : List α} (htrans : ∀ a b c, q a b = true → q b c = true → q a c = true)
    (h : ∀ a ∈ last :: xs, ∀ b ∈ last :: xs, goesOn a b = .ok (q a b)) :
    ∃ run, stretch goesOn last xs = .ok run ∧ run <+: xs ∧
      (last :: run).Pairwise fun a b => q a b = true := by
  induction xs generalizing last with
  | nil => exact ⟨[], rfl, prefix_rfl, pairwise_singleton _ _⟩
  | cons x xs ih =>
    rw [stretch, h last mem_cons_self x (mem_cons_of_mem _ mem_cons_self), ok_bind]
    cases hq : q last x with
    | false => exact ⟨[], rfl, nil_prefix, pairwise_singleton _ _⟩
    | true =>
      obtain ⟨run, hrun, hfront, hpair⟩ := ih fun a ha b hb =>
        h a (mem_cons_of_mem _ ha) b (mem_cons_of_mem _ hb)
      rw [hrun]
      exact ⟨x :: run, rfl, (prefix_cons_inj x).2 hfront, pairwise_cons_cons htrans hq hpair⟩

/-- The list begins with a run that rises, or with one that falls and is turned around. -/
theorem firstRun_spec (hle : WeakOrder le) {x : α} {xs : List α} (h : Decides lt le (x :: xs)) :
    ∃ run taken, firstRun lt x xs = .ok run ∧ taken <+: xs ∧ IsStableSort le (x :: taken) run := by
  cases xs with
  | nil => exact ⟨[x], [], rfl, prefix_rfl, .of_pairwise (pairwise_singleton _ _)⟩
  | cons y xs =>
    have h' : Decides lt le (y :: xs) := h.of_subset (subset_cons_self x (y :: xs))
    rw [firstRun, h y (mem_cons_of_mem _ mem_cons_self) x mem_cons_self, ok_bind]
    cases hxy : le x y with
    | false =>
      obtain ⟨more, hmore, hfront, hpair⟩ := stretch_spec (q := fun a b => !le a b)
        (by simpa using hle.not_le_trans) fun a ha b hb => h' b hb a ha
      have hfalls : (x :: y :: more).Pairwise fun a b => le a b = false :=
        pairwise_cons_cons hle.not_le_trans hxy (hpair.imp (by simp))
      rw [hmore]
      exact ⟨_, y :: more, rfl, (prefix_cons_inj y).2 hfront, hle.isStableSort_reverse hfalls⟩
    | true =>
      obtain ⟨more, hmore, hfront, hrises⟩ := stretch_spec hle.trans
        fun a ha b hb => not_lt_eq (h' b hb a ha)
      rw [hmore]
      exact ⟨_, y :: more, rfl, (prefix_cons_inj y).2 hfront,
        .of_pairwise (pairwise_cons_cons hle.trans hxy hrises)⟩

/-- Inserting an entry merges it with what is sorted. -/
theorem insert_eq (hle : WeakOrder le) {sorted : List α} {x : α}
    (hsorted : sorted.Pairwise fun a b => le a b = true)
    (h : ∀ y ∈ sorted, lt x y = .ok (!le y x)) : insert lt sorted x = .ok (sorted.merge [x] le) := by
  have hfirst : sorted.Pairwise fun a b => le b x = true → le a x = true :=
    hsorted.imp fun hab hb => hle.trans _ _ _ hab hb
  have haccepts := acceptsFirst_findIdx hfirst fun y hy => not_lt_eq (h y hy)
  rw [insert, bisect_eq haccepts (Nat.zero_le _) haccepts.le_length le_rfl, ok_bind,
    merge_cons_eq_takeWhile, merge_right, takeWhile_eq_take_findIdx_not,
    dropWhile_eq_drop_findIdx_not]
  rfl

theorem foldlM_insert_spec (hle : WeakOrder le) {before sorted xs : List α}
    (hsorted : IsStableSort le before sorted) (h : Decides lt le (before ++ xs)) :
    ∃ result, xs.foldlM (insert lt) sorted = .ok result ∧ IsStableSort le (before ++ xs) result := by
  induction xs generalizing before sorted with
  | nil =>
    rw [append_nil]
    exact ⟨sorted, rfl, hsorted⟩
  | cons x xs ih =>
    have hx : ∀ y ∈ sorted, lt x y = .ok (!le y x) := fun y hy =>
      h x (by simp) y (mem_append_left _ (hsorted.perm.subset hy))
    rw [← singleton_append, ← append_assoc] at h ⊢
    rw [singleton_append, foldlM_cons, insert_eq hle hsorted.rises hx, ok_bind]
    exact ih (hle.isStableSort_merge hsorted (.of_pairwise (pairwise_singleton _ _))) h

/-- So is the run when it has been made longer. -/
theorem longRun_spec (hle : WeakOrder le) {x : α} {xs : List α} (h : Decides lt le (x :: xs))
    (atLeast : Nat) :
    ∃ run taken, longRun lt atLeast x xs = .ok run ∧ taken <+: xs ∧
      IsStableSort le (x :: taken) run := by
  obtain ⟨first, taken, hfirst, ⟨later, rfl⟩, hstable⟩ := firstRun_spec hle h
  have hmore : later.take (atLeast - first.length) <+: later := take_prefix _ _
  obtain ⟨run, hrun, hrun'⟩ := foldlM_insert_spec hle hstable
    (h.of_subset ((cons_subset_cons x ((prefix_append_right_inj taken).2 hmore).subset)))
  refine ⟨run, _, ?_, (prefix_append_right_inj taken).2 hmore, hrun'⟩
  rw [longRun, hfirst, ok_bind, drop_run hstable.perm]
  exact hrun

/-! ## All runs -/

/-- The entries of the runs found so far, in the order of the list. -/
def entriesOf (runs : List (Run α)) : List α := runs.reverse.flatMap Run.entries

theorem entriesOf_cons (r : Run α) (runs : List (Run α)) :
    entriesOf (r :: runs) = entriesOf runs ++ r.entries := by
  rw [entriesOf, reverse_cons, flatMap_append, flatMap_singleton]
  rfl

theorem entriesOf_append (later earlier : List (Run α)) :
    entriesOf (later ++ earlier) = entriesOf earlier ++ entriesOf later := by
  rw [entriesOf, reverse_append, flatMap_append]
  rfl

/-- Each run is in order, and comparing decides how entries of the same or of two runs stand. -/
structure Joinable (lt : α → α → Except Error Bool) (le : α → α → Bool) (runs : List (Run α)) :
    Prop where
  rises : ∀ r ∈ runs, r.entries.Pairwise fun a b => le a b = true
  decides : Decides lt le (entriesOf runs)

/-- Two neighbouring runs can be joined, and the new run takes their place. -/
theorem Joinable.join (hle : WeakOrder le) (later : List (Run α)) {earlier : List (Run α)}
    {a b : Run α} (h : Joinable lt le (later ++ b :: a :: earlier)) (least : Nat) :
    ∃ entries least', Order.join lt least a.entries b.entries = .ok (entries, least') ∧
      IsStableSort le (a.entries ++ b.entries) entries ∧
      ∀ r : Run α, r.entries = entries → Joinable lt le (later ++ r :: earlier) ∧
        Keeps le (entriesOf (later ++ b :: a :: earlier)) (entriesOf (later ++ r :: earlier)) := by
  have hparts : entriesOf (later ++ b :: a :: earlier) =
      entriesOf earlier ++ (a.entries ++ b.entries) ++ entriesOf later := by
    rw [entriesOf_append, entriesOf_cons, entriesOf_cons, append_assoc (entriesOf earlier)]
  obtain ⟨hlater, hb, ha, hearlier⟩ : (∀ r ∈ later, r.entries.Pairwise fun x y => le x y = true) ∧
      (b.entries.Pairwise fun x y => le x y = true) ∧
      (a.entries.Pairwise fun x y => le x y = true) ∧
      ∀ r ∈ earlier, r.entries.Pairwise fun x y => le x y = true := by
    simpa only [forall_mem_append, forall_mem_cons] using h.rises
  have hdecides := h.decides
  rw [hparts] at hdecides
  obtain ⟨entries, least', hentries, hstable⟩ := join_spec hle least ha hb
    fun x hx y hy => hdecides y (by simp [hy]) x (by simp [hx])
  refine ⟨entries, least', hentries, hstable, fun r hr => ?_⟩
  have hkeeps : Keeps le (entriesOf (later ++ b :: a :: earlier))
      (entriesOf (later ++ r :: earlier)) := by
    rw [hparts, entriesOf_append, entriesOf_cons, hr]
    exact hle.keeps_append (hle.keeps_append (.refl _) hstable.toKeeps) (.refl _)
  refine ⟨⟨?_, h.decides.of_subset hkeeps.perm.subset⟩, hkeeps⟩
  rw [forall_mem_append, forall_mem_cons, hr]
  exact ⟨hlater, hstable.rises, hearlier⟩

theorem joinBelow_spec (hle : WeakOrder le) (depth least : Nat) {runs : List (Run α)}
    (h : Joinable lt le runs) :
    ∃ joined least', joinBelow lt depth least runs = .ok (joined, least') ∧
      Joinable lt le joined ∧ Keeps le (entriesOf runs) (entriesOf joined) := by
  unfold joinBelow
  split
  · rename_i b a runs
    split
    · obtain ⟨entries, least', hentries, -, hjoined⟩ := Joinable.join hle [] h least
      obtain ⟨hjoinable, hkeeps⟩ := hjoined ⟨a.start, entries, a.depth⟩ rfl
      obtain ⟨joined, least'', hbelow, hjoinable', hkeeps'⟩ := joinBelow_spec hle depth least' hjoinable
      rw [hentries]
      exact ⟨joined, least'', hbelow, hjoinable', hkeeps.trans hkeeps'⟩
    · exact ⟨_, _, rfl, h, .refl _⟩
  · exact ⟨_, _, rfl, h, .refl _⟩
termination_by runs.length

theorem joinAll_spec (hle : WeakOrder le) {least : Nat} {runs : List (Run α)}
    (h : Joinable lt le runs) :
    ∃ joined, joinAll lt least runs = .ok joined ∧ IsStableSort le (entriesOf runs) joined := by
  unfold joinAll
  split
  · rename_i c b a runs
    split
    · obtain ⟨entries, least', hentries, -, hjoined⟩ := Joinable.join hle [c] h least
      obtain ⟨hjoinable, hkeeps⟩ := hjoined ⟨a.start, entries, b.depth⟩ rfl
      obtain ⟨joined, hall, hstable⟩ := joinAll_spec hle hjoinable
      rw [hentries]
      exact ⟨joined, hall, .of_keeps hkeeps hstable⟩
    · obtain ⟨entries, least', hentries, -, hjoined⟩ := Joinable.join hle [] h least
      obtain ⟨hjoinable, hkeeps⟩ := hjoined ⟨b.start, entries, c.depth⟩ rfl
      obtain ⟨joined, hall, hstable⟩ := joinAll_spec hle hjoinable
      rw [hentries]
      exact ⟨joined, hall, .of_keeps hkeeps hstable⟩
  · rename_i b a
    obtain ⟨entries, least', hentries, hstable, -⟩ := Joinable.join hle [] h least
    rw [hentries, entriesOf_cons, entriesOf_cons]
    exact ⟨entries, rfl, hstable⟩
  · rename_i a
    rw [entriesOf_cons]
    exact ⟨a.entries, rfl, .of_pairwise (h.rises a mem_cons_self)⟩
  · exact ⟨[], rfl, .of_pairwise .nil⟩
termination_by runs.length

theorem entriesOf_modifyHead (d : Nat) (runs : List (Run α)) :
    entriesOf (runs.modifyHead ({ · with depth := d })) = entriesOf runs := by
  cases runs with
  | nil => rfl
  | cons r runs => rw [modifyHead_cons, entriesOf_cons, entriesOf_cons]

theorem Joinable.modifyHead {runs : List (Run α)} (h : Joinable lt le runs) (d : Nat) :
    Joinable lt le (runs.modifyHead ({ · with depth := d })) := by
  refine ⟨?_, ?_⟩
  · cases runs with
    | nil => exact h.rises
    | cons r runs => exact forall_mem_cons.2 (forall_mem_cons.1 h.rises)
  · rw [entriesOf_modifyHead]
    exact h.decides

theorem sortFrom_spec (hle : WeakOrder le) {n start least : Nat} {runs : List (Run α)}
    {xs : List α} (h : Joinable lt le runs) (hdecides : Decides lt le (entriesOf runs ++ xs)) :
    ∃ sorted, sortFrom lt n start least runs xs = .ok sorted ∧
      IsStableSort le (entriesOf runs ++ xs) sorted := by
  match xs with
  | [] =>
    unfold sortFrom
    rw [append_nil]
    exact joinAll_spec hle h
  | x :: rest =>
    unfold sortFrom
    obtain ⟨run, taken, hrun, ⟨later, hlater⟩, hstable⟩ :=
      longRun_spec hle (hdecides.of_subset (subset_append_right _ _)) (runLength n)
    have hshorter : later.length < (x :: rest).length := by
      simp only [← hlater, length_cons, length_append]
      omega
    rw [hrun, ok_bind]
    extract_lets next
    suffices hnext : ∀ earlier least', Joinable lt le earlier →
        Keeps le (entriesOf runs) (entriesOf earlier) →
        ∃ sorted, next (earlier, least') = .ok sorted ∧
          IsStableSort le (entriesOf runs ++ x :: rest) sorted by
      split
      · exact hnext [] least h (.refl _)
      · rename_i last others
        extract_lets d
        obtain ⟨joined, least', hbelow, hjoinable, hkeeps⟩ := joinBelow_spec hle d least h
        rw [hbelow]
        refine hnext _ least' (hjoinable.modifyHead d) ?_
        rw [entriesOf_modifyHead]
        exact hkeeps
    intro earlier least' hearlier hkeeps
    have hrest : rest.drop (run.length - 1) = later := by rw [← hlater, drop_run hstable.perm]
    dsimp only [next]
    rw [hrest]
    have hall : Keeps le (entriesOf runs ++ x :: rest)
        (entriesOf (⟨start, run, 0⟩ :: earlier) ++ later) := by
      rw [← hlater, entriesOf_cons, ← cons_append, ← append_assoc]
      exact hle.keeps_append (hle.keeps_append hkeeps hstable.toKeeps) (.refl later)
    have hdecides := hdecides.of_subset hall.perm.subset
    have hjoinable : Joinable lt le (⟨start, run, 0⟩ :: earlier) :=
      ⟨forall_mem_cons.2 ⟨hstable.rises, hearlier.rises⟩,
        hdecides.of_subset (subset_append_left _ _)⟩
    obtain ⟨sorted, hsorted, hstable⟩ := sortFrom_spec hle hjoinable hdecides
    exact ⟨sorted, hsorted, .of_keeps hall hstable⟩
termination_by xs.length

/-- In a weak order sorting by runs gives what sorting by halves does. -/
theorem sort_eq_mergeSort (hle : WeakOrder le) {xs : List α} (h : Decides lt le xs) :
    sort lt xs = .ok (xs.mergeSort le) := by
  have hempty : Joinable lt le ([] : List (Run α)) := by
    constructor
    · exact forall_mem_nil _
    · exact forall_mem_nil _
  obtain ⟨sorted, hsorted, hstable⟩ := sortFrom_spec hle hempty h
  rw [sort, hsorted, hstable.eq (fun a _ => hle.refl a) (hle.isStableSort_mergeSort xs)]

end FacetSearch.Order
