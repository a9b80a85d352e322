import FacetSearch.Order.Runs
import FacetSearch.Proofs.Outcome
import FacetSearch.TermWeight

/-!
# Sorting loses nothing

Whatever the comparison says, sorting by runs only moves the entries of a list about: every step that
succeeds leaves a permutation of what it was given, from the run at the front (`longRun_perm`) over
the merging of two runs (`join_perm`) to the whole (`sort_perm`). So the heaviest of some terms are
some of them (`topTerms_subset`), even where weights have no order.
-/

namespace FacetSearch.Order

open Outcome List

variable {α : Type} {lt : α → α → Except Error Bool}

/-! ## Runs -/

theorem isPrefix_of_stretch {goesOn : α → α → Except Error Bool} {last : α} {xs run : List α}
    (h : stretch goesOn last xs = .ok run) : run <+: xs := by
  induction xs generalizing last run with
  | nil =>
    cases h
    exact prefix_rfl
  | cons x xs ih =>
    obtain ⟨on, -, h⟩ := bind_eq_ok.1 h
    cases on with
    | false =>
      cases h
      exact nil_prefix
    | true =>
      obtain ⟨more, hmore, h⟩ := bind_eq_ok.1 h
      cases h
      exact (prefix_cons_inj x).2 (ih hmore)

/-- The run at the front of a list is made of the entries there. -/
theorem firstRun_perm {x : α} {xs run : List α} (h : firstRun lt x xs = .ok run) :
    ∃ taken, taken <+: xs ∧ run.Perm (x :: taken) := by
  cases xs with
  | nil =>
    cases h
    exact ⟨[], prefix_rfl, .refl _⟩
  | cons y xs =>
    obtain ⟨falls, -, h⟩ := bind_eq_ok.1 h
    cases falls with
    | true =>
      obtain ⟨more, hmore, h⟩ := bind_eq_ok.1 h
      cases h
      exact ⟨y :: more, (prefix_cons_inj y).2 (isPrefix_of_stretch hmore), reverse_perm _⟩
    | false =>
      obtain ⟨more, hmore, h⟩ := bind_eq_ok.1 h
      cases h
      exact ⟨y :: more, (prefix_cons_inj y).2 (isPrefix_of_stretch hmore), .refl _⟩

theorem insert_perm {sorted inserted : List α} {x : α} (h : insert lt sorted x = .ok inserted) :
    inserted.Perm (x :: sorted) := by
  obtain ⟨n, -, h⟩ := bind_eq_ok.1 h
  cases h
  calc sorted.take n ++ x :: sorted.drop n
    _ ~ x :: (sorted.take n ++ sorted.drop n) := perm_middle
    _ ~ x :: sorted := by rw [take_append_drop]

theorem foldlM_insert_perm {sorted xs result : List α}
    (h : xs.foldlM (insert lt) sorted = .ok result) : result.Perm (sorted ++ xs) := by
  induction xs generalizing sorted with
  | nil =>
    cases h
    rw [append_nil]
  | cons x xs ih =>
    rw [foldlM_cons] at h
    obtain ⟨inserted, hinserted, h⟩ := bind_eq_ok.1 h
    calc result
      _ ~ inserted ++ xs := ih h
      _ ~ x :: sorted ++ xs := (insert_perm hinserted).append_right xs
      _ ~ sorted ++ x :: xs := perm_middle.symm

/-- What is behind a run at the front of a list. -/
theorem drop_run {x : α} {taken later run : List α} (h : run ~ x :: taken) :
    (taken ++ later).drop (run.length - 1) = later := by
  rw [h.length_eq, length_cons, Nat.add_sub_cancel, drop_left]

/-- So is the run when it has been made longer. -/
theorem longRun_perm {atLeast : Nat} {x : α} {xs run : List α}
    (h : longRun lt atLeast x xs = .ok run) : ∃ taken, taken <+: xs ∧ run.Perm (x :: taken) := by
  obtain ⟨first, hfirst, h⟩ := bind_eq_ok.1 h
  obtain ⟨taken, ⟨later, rfl⟩, hperm⟩ := firstRun_perm hfirst
  rw [drop_run hperm] at h
  refine ⟨taken ++ later.take (atLeast - first.length), ?_, ?_⟩
  · exact (prefix_append_right_inj taken).2 ⟨_, take_append_drop _ later⟩
  · exact (foldlM_insert_perm h).trans (hperm.append_right _)

/-! ## Merging -/

/-- What is taken in a turn and what becomes of the rest. -/
theorem taken_append_perm {c : Contest α} (side : Side) (n : Nat) {rest : List α}
    (h : rest ~ (c.advance side n).short ++ (c.advance side n).long) :
    c.taken side n ++ rest ~ c.short ++ c.long :=
  (h.append_left _).trans (c.taken_perm side n)

/-- A turn loses nothing if what comes after it does not. -/
theorem turn_perm {c : Contest α} {side : Side} {n least : Nat} {merged : List α}
    {later : Except Error (List α × Nat)}
    (h : (later >>= fun r => .ok (c.taken side n ++ r.1, r.2)) = .ok (merged, least))
    (hlater : ∀ rest least', later = .ok (rest, least') →
      rest ~ (c.advance side n).short ++ (c.advance side n).long) :
    merged ~ c.short ++ c.long := by
  obtain ⟨⟨rest, least'⟩, hrest, h⟩ := bind_eq_ok.1 h
  cases h
  exact taken_append_perm side n (hlater rest least' hrest)

-- By recursion like that of the two functions: every turn leaves a smaller contest.
mutual

theorem alternate_perm {d : Direction} {least shortWins longWins least' : Nat} {c : Contest α}
    {merged : List α}
    (h : alternate d lt least shortWins longWins c = .ok (merged, least')) :
    merged ~ c.short ++ c.long := by
  unfold alternate at h
  split at h
  · cases h
    exact c.settle_perm
  · rename_i hopen
    obtain ⟨leads, -, h⟩ := bind_eq_ok.1 h
    cases leads with
    | true =>
      have := c.size_advance_lt .short 0 hopen
      simp only [↓reduceIte] at h
      split at h
      · exact turn_perm h fun _ _ => takeTurns_perm
      · exact turn_perm h fun _ _ => alternate_perm
    | false =>
      have := c.size_advance_lt .long 0 hopen
      simp only [↓reduceIte, Bool.false_eq_true] at h
      split at h
      · exact turn_perm h fun _ _ => takeTurns_perm
      · exact turn_perm h fun _ _ => alternate_perm
termination_by c.size

theorem takeTurns_perm {d : Direction} {least least' : Nat} {side : Side} {won : Option Nat}
    {c : Contest α} {merged : List α}
    (h : takeTurns d lt least side won c = .ok (merged, least')) :
    merged ~ c.short ++ c.long := by
  unfold takeTurns at h
  split at h
  · cases h
    exact c.settle_perm
  · rename_i hopen
    obtain ⟨n, -, h⟩ := bind_eq_ok.1 h
    have := c.size_advance_lt side n hopen
    split at h
    · cases h
      exact taken_append_perm side n (c.advance side n).settle_perm
    · cases won with
      | none => exact turn_perm h fun _ _ => takeTurns_perm
      | some m =>
        change (if _ then _ else _) = _ at h
        split at h
        · exact turn_perm h fun _ _ => takeTurns_perm
        · exact turn_perm h fun _ _ => alternate_perm
termination_by c.size

end

/-- The head of a list, which is known to be the next, with the rest of it merged with another. -/
theorem take_append_perm {xs ys merged : List α} (n : Nat) (h : merged ~ xs ++ ys.drop n) :
    ys.take n ++ merged ~ xs ++ ys := by
  calc ys.take n ++ merged
    _ ~ ys.take n ++ (xs ++ ys.drop n) := h.append_left _
    _ ~ xs ++ (ys.take n ++ ys.drop n) := by
      rw [← append_assoc, ← append_assoc]
      exact perm_append_comm.append_right _
    _ ~ xs ++ ys := by rw [take_append_drop]

theorem join_perm {least least' : Nat} {a b joined : List α}
    (h : join lt least a b = .ok (joined, least')) : joined ~ a ++ b := by
  unfold join at h
  extract_lets rest at h
  obtain ⟨n, h⟩ : ∃ n, rest n = .ok (joined, least') := by
    split at h
    · obtain ⟨n, -, h⟩ := bind_eq_ok.1 h
      exact ⟨n, h⟩
    · exact ⟨0, h⟩
  dsimp only [rest] at h
  split at h
  · cases h
    exact .refl _
  · obtain ⟨k, -, h⟩ := bind_eq_ok.1 h
    -- what is merged are the entries behind those in their place, and before those in theirs
    have hparts : ∀ {m : Nat} {middle : List α}, middle ~ a.drop n ++ b.take m →
        a.take n ++ middle ++ b.drop m ~ a ++ b := by
      intro m middle hmiddle
      calc a.take n ++ middle ++ b.drop m
        _ ~ a.take n ++ (a.drop n ++ b.take m) ++ b.drop m :=
          (hmiddle.append_left _).append_right _
        _ ~ a ++ b := by
          rw [← append_assoc, take_append_drop, append_assoc, take_append_drop]
    split at h
    · cases h
      exact .refl _
    · split at h
      · obtain ⟨⟨merged, least''⟩, hmerged, h⟩ := bind_eq_ok.1 h
        cases h
        exact hparts (take_append_perm 1 (alternate_perm hmerged))
      · obtain ⟨⟨merged, least''⟩, hmerged, h⟩ := bind_eq_ok.1 h
        cases h
        refine hparts ?_
        calc ((a.drop n).reverse.take 1 ++ merged).reverse
          _ ~ (a.drop n).reverse.take 1 ++ merged := reverse_perm _
          _ ~ (b.take (b.length - k)).reverse ++ (a.drop n).reverse :=
            take_append_perm 1 (alternate_perm hmerged)
          _ ~ a.drop n ++ b.take (b.length - k) :=
            ((reverse_perm _).append (reverse_perm _)).trans perm_append_comm

/-! ## The whole list -/

theorem joinBelow_perm {depth least least' : Nat} {runs joined : List (Run α)}
    (h : joinBelow lt depth least runs = .ok (joined, least')) :
    joined.flatMap Run.entries ~ runs.flatMap Run.entries := by
  unfold joinBelow at h
  split at h
  · rename_i b a runs
    split at h
    · obtain ⟨⟨entries, least''⟩, hentries, h⟩ := bind_eq_ok.1 h
      have hjoined : entries ~ b.entries ++ a.entries :=
        (join_perm hentries).trans perm_append_comm
      calc joined.flatMap Run.entries
        _ ~ entries ++ runs.flatMap Run.entries := joinBelow_perm h
        _ ~ b.entries ++ a.entries ++ runs.flatMap Run.entries := hjoined.append_right _
        _ ~ (b :: a :: runs).flatMap Run.entries := by rw [flatMap_cons, flatMap_cons, append_assoc]
    · cases h
      exact .refl _
  · cases h
    exact .refl _
termination_by runs.length

theorem joinAll_perm {least : Nat} {runs : List (Run α)} {joined : List α}
    (h : joinAll lt least runs = .ok joined) : joined ~ runs.flatMap Run.entries := by
  unfold joinAll at h
  split at h
  · rename_i c b a runs
    split at h
    · obtain ⟨⟨entries, least'⟩, hentries, h⟩ := bind_eq_ok.1 h
      have hjoined : entries ~ b.entries ++ a.entries :=
        (join_perm hentries).trans perm_append_comm
      calc joined
        _ ~ c.entries ++ (entries ++ runs.flatMap Run.entries) := joinAll_perm h
        _ ~ c.entries ++ (b.entries ++ a.entries ++ runs.flatMap Run.entries) :=
          (hjoined.append_right _).append_left _
        _ ~ (c :: b :: a :: runs).flatMap Run.entries := by simp [flatMap_cons]
    · obtain ⟨⟨entries, least'⟩, hentries, h⟩ := bind_eq_ok.1 h
      have hjoined : entries ~ c.entries ++ b.entries :=
        (join_perm hentries).trans perm_append_comm
      calc joined
        _ ~ entries ++ (a.entries ++ runs.flatMap Run.entries) := joinAll_perm h
        _ ~ c.entries ++ b.entries ++ (a.entries ++ runs.flatMap Run.entries) :=
          hjoined.append_right _
        _ ~ (c :: b :: a :: runs).flatMap Run.entries := by simp [flatMap_cons]
  · obtain ⟨⟨entries, least'⟩, hentries, h⟩ := bind_eq_ok.1 h
    cases h
    simpa using (join_perm hentries).trans perm_append_comm
  · cases h
    simp
  · cases h
    simp
termination_by runs.length

theorem flatMap_entries_modifyHead (d : Nat) (runs : List (Run α)) :
    (runs.modifyHead ({ · with depth := d })).flatMap Run.entries = runs.flatMap Run.entries := by
  cases runs <;> rfl

theorem sortFrom_perm {n start least : Nat} {runs : List (Run α)} {xs sorted : List α}
    (h : sortFrom lt n start least runs xs = .ok sorted) :
    sorted ~ runs.flatMap Run.entries ++ xs := by
  match xs with
  | [] =>
    unfold sortFrom at h
    simpa using joinAll_perm h
  | x :: rest =>
    unfold sortFrom at h
    obtain ⟨run, hrun, h⟩ := bind_eq_ok.1 h
    extract_lets next at h
    obtain ⟨earlier, least', hearlier, h⟩ : ∃ earlier least',
        earlier.flatMap Run.entries ~ runs.flatMap Run.entries ∧
          next (earlier, least') = .ok sorted := by
      split at h
      · exact ⟨[], least, .refl _, h⟩
      · obtain ⟨⟨below, least'⟩, hbelow, h⟩ := bind_eq_ok.1 h
        refine ⟨_, least', ?_, h⟩
        rw [flatMap_entries_modifyHead]
        exact joinBelow_perm hbelow
    have hrest := sortFrom_perm h
    obtain ⟨taken, ⟨later, rfl⟩, hperm⟩ := longRun_perm hrun
    rw [drop_run hperm, flatMap_cons] at hrest
    calc sorted
      _ ~ run ++ earlier.flatMap Run.entries ++ later := hrest
      _ ~ x :: taken ++ runs.flatMap Run.entries ++ later := (hperm.append hearlier).append_right _
      _ ~ runs.flatMap Run.entries ++ x :: taken ++ later := perm_append_comm.append_right _
      _ ~ runs.flatMap Run.entries ++ x :: (taken ++ later) := by simp
termination_by xs.length
decreasing_by simp only [length_drop, length_cons]; omega

/-- Sorting loses no entry and makes none up. -/
theorem sort_perm {xs sorted : List α} (h : sort lt xs = .ok sorted) : sorted ~ xs :=
  sortFrom_perm h

end FacetSearch.Order

namespace FacetSearch

open Outcome

theorem TermWeight.heaviestFirst_perm {weights sorted : List TermWeight}
    (h : heaviestFirst weights = .ok sorted) : sorted.Perm weights := by
  unfold heaviestFirst at h
  split at h
  · cases h
    exact List.mergeSort_perm weights _
  · obtain ⟨rising, hrising, rfl⟩ := map_eq_ok.1 h
    exact (List.reverse_perm rising).trans
      ((Order.sort_perm hrising).trans (List.reverse_perm weights))

theorem takeLimit_subset {α : Type} {limit : Value} {xs taken : List α}
    (h : takeLimit limit xs = .ok taken) : taken ⊆ xs := by
  unfold takeLimit at h
  split at h
  · cases h
    exact List.Subset.refl _
  · cases h
    split
    · exact List.take_subset _ _
    · exact List.take_subset _ _
  · cases h

/-- The heaviest terms are some of the terms. -/
theorem topTerms_subset {weights terms : List TermWeight} {limit : Value}
    (h : topTerms weights limit = .ok terms) : terms ⊆ weights := by
  obtain ⟨sorted, hsorted, h⟩ := bind_eq_ok.1 h
  exact List.Subset.trans (takeLimit_subset h) (TermWeight.heaviestFirst_perm hsorted).subset

end FacetSearch
