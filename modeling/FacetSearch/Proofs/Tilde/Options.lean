import FacetSearch.Proofs.Tilde.Pieces

/-!
# Options of a text

What stands at the end of a text beside its values: a run closed by one more tilde
(`optionsSlot?_eq_some_iff`), or the word `unknown` behind a lone tilde
(`unknownSuffix?_eq_some_iff`). Both are read off the last run of characters without tildes, which
`splitLastRun_eq_iff` pins down.
-/

namespace FacetSearch.Tilde

/-- The text is empty or ends in a tilde: a run behind it is the last one. -/
def ClosesRun (text : List Char) : Prop := text = [] ∨ Ends text

theorem splitLastRun_of_closesRun {front run : List Char} (hr : '~' ∉ run)
    (hf : ClosesRun front) : splitLastRun (front ++ run) = (front, run) := by
  have hrun : ∀ c ∈ run.reverse, decide (c ≠ '~') = true := by
    intro c hc
    rw [List.mem_reverse] at hc
    rw [decide_eq_true_eq]
    exact fun h => hr (h ▸ hc)
  have hstop : front.reverse.takeWhile (· ≠ '~') = [] ∧
      front.reverse.dropWhile (· ≠ '~') = front.reverse := by
    rcases hf with rfl | hends
    · exact ⟨rfl, rfl⟩
    · obtain ⟨init, rfl⟩ := List.getLast?_eq_some_iff.1 hends
      simp
  rw [splitLastRun, List.reverse_append, List.takeWhile_append_of_pos hrun,
    List.dropWhile_append_of_pos hrun, hstop.1, hstop.2]
  simp

theorem splitLastRun_eq_iff {text front run : List Char} :
    splitLastRun text = (front, run) ↔ text = front ++ run ∧ '~' ∉ run ∧ ClosesRun front := by
  constructor
  · intro h
    have happend := splitLastRun_append text
    rw [h] at happend
    simp only [splitLastRun, Prod.mk.injEq] at h
    refine ⟨happend.symm, ?_, ?_⟩
    · intro hmem
      rw [← h.2, List.mem_reverse] at hmem
      simpa using List.all_eq_true.1 List.all_takeWhile _ hmem
    · rw [← h.1]
      cases hrest : text.reverse.dropWhile (· ≠ '~') with
      | nil => exact .inl rfl
      | cons c rest =>
        have hc := List.head_dropWhile_not (· ≠ '~') (hrest ▸ List.cons_ne_nil c rest)
        simp only [hrest, List.head_cons] at hc
        right
        simpa [Ends] using hc
  · rintro ⟨rfl, hr, hf⟩
    exact splitLastRun_of_closesRun hr hf

/-- The options slot is the last run, closed by one tilde. -/
theorem optionsSlot?_eq_some_iff {text rest : List Char} {b : Bool} :
    optionsSlot? text = some (b, rest) ↔
      ∃ options, text = rest ++ options ++ ['~'] ∧ options ≠ [] ∧ '~' ∉ options ∧
        ClosesRun rest ∧ b = decide (options = unknownWord) := by
  constructor
  · intro h
    unfold optionsSlot? at h
    split at h
    · rename_i hends
      obtain ⟨init, rfl⟩ := List.getLast?_eq_some_iff.1 hends
      obtain ⟨front, run, hsplit⟩ : ∃ front run, splitLastRun init = (front, run) := ⟨_, _, rfl⟩
      simp only [List.dropLast_concat, hsplit] at h
      split at h
      · cases h
      · rename_i hrun
        simp only [Option.some.injEq, Prod.mk.injEq] at h
        obtain ⟨rfl, rfl⟩ := h
        obtain ⟨rfl, hr, hf⟩ := splitLastRun_eq_iff.1 hsplit
        exact ⟨run, rfl, by simpa using hrun, hr, hf, rfl⟩
    · cases h
  · rintro ⟨options, rfl, hne, hr, hf, rfl⟩
    simp only [optionsSlot?, List.getLast?_concat, if_true, List.dropLast_concat,
      splitLastRun_of_closesRun hr hf]
    simp [hne]

/-- The suffix is the word `unknown` behind a tilde that no other one stands before. -/
theorem unknownSuffix?_eq_some_iff {text rest : List Char} :
    unknownSuffix? text = some rest ↔ text = rest ++ '~' :: unknownWord ∧ ¬ Ends rest := by
  constructor
  · intro h
    obtain ⟨front, run, hsplit⟩ : ∃ front run, splitLastRun text = (front, run) := ⟨_, _, rfl⟩
    simp only [unknownSuffix?, hsplit] at h
    split at h
    · rename_i hsuffix
      obtain ⟨hword, hends, hlone⟩ := hsuffix
      obtain ⟨init, rfl⟩ := List.getLast?_eq_some_iff.1 hends
      rw [List.dropLast_concat] at h hlone
      cases h
      obtain ⟨rfl, -, -⟩ := splitLastRun_eq_iff.1 hsplit
      exact ⟨by simp [hword], hlone⟩
    · cases h
  · rintro ⟨rfl, hlone⟩
    have hsplit : splitLastRun ((rest ++ ['~']) ++ unknownWord) = (rest ++ ['~'], unknownWord) :=
      splitLastRun_of_closesRun tilde_not_mem_unknownWord (.inr (by simp [Ends]))
    rw [List.append_assoc, List.singleton_append] at hsplit
    simp only [unknownSuffix?, hsplit, List.getLast?_concat, List.dropLast_concat, true_and]
    rw [if_pos hlone]

end FacetSearch.Tilde
