import FacetSearch.Proofs.Cutting
import FacetSearch.Proofs.Relink
import FacetSearch.Proofs.Tilde.Runs

/-!
# Reading runs

What a text of joined values says can be read off its runs alone (`readRuns`). A last run closed by
one tilde holds the options, as does a last run `unknown` behind one tilde; of the runs in front of
them, one tilde alone separates values, and more tildes stand for half as many, rounded up. This is
what reading a string filter comes to, for every text (`decode_eq_readRuns`).
-/

namespace FacetSearch

namespace Tilde

/-- What a run within a value stands for. -/
def Run.reading : Run → List Char
  | tildes count => List.replicate ((count + 1) / 2) '~'
  | plain text => text

/-- The values of runs without options. -/
def valuesOfRuns (rs : List Run) : List (List Char) :=
  ((rs.splitOn (.tildes 1)).map (·.flatMap Run.reading)).filter (!·.isEmpty)

/-- Whether documents without a value pass, and the runs of the values. -/
def splitOptionRuns (rs : List Run) : Bool × List Run :=
  match rs.reverse with
  | .tildes 1 :: .plain options :: front => (options = unknownWord, front.reverse)
  | .plain suffix :: .tildes 1 :: front =>
    if suffix = unknownWord then (true, front.reverse) else (false, rs)
  | _ => (false, rs)

/-- The values and the flag of a row of runs. -/
def readRuns (rs : List Run) : List (List Char) × Bool :=
  (valuesOfRuns (splitOptionRuns rs).2, (splitOptionRuns rs).1)

/-! ## Options -/

theorem splitOptionRuns_of_slot (rs : List Run) (options : List Char) :
    splitOptionRuns (rs ++ [.plain options, .tildes 1]) = (decide (options = unknownWord), rs) := by
  simp [splitOptionRuns]

theorem splitOptionRuns_of_suffix (rs : List Run) :
    splitOptionRuns (rs ++ [.tildes 1, .plain unknownWord]) = (true, rs) := by
  simp [splitOptionRuns]

theorem splitOptionRuns_of_none {rs : List Run}
    (hslot : ∀ front options, rs ≠ front ++ [.plain options, .tildes 1])
    (hsuffix : ∀ front, rs ≠ front ++ [.tildes 1, .plain unknownWord]) :
    splitOptionRuns rs = (false, rs) := by
  unfold splitOptionRuns
  split
  · rename_i options front h
    exact absurd (List.reverse_eq_iff.1 h) (by simpa using hslot front.reverse options)
  · rename_i suffix front h
    rw [if_neg]
    rintro rfl
    exact absurd (List.reverse_eq_iff.1 h) (by simpa using hsuffix front.reverse)
  · rfl

theorem splitOptions_eq (text : List Char) :
    (splitOptions text).1 = (splitOptionRuns (runs text)).1 ∧
      runs (splitOptions text).2 = (splitOptionRuns (runs text)).2 := by
  cases hslot : optionsSlot? text with
  | some found =>
    obtain ⟨b, rest⟩ := found
    obtain ⟨options, hruns, rfl⟩ := optionsSlot?_eq_some_iff_runs.1 hslot
    rw [hruns, splitOptionRuns_of_slot]
    simp only [splitOptions, hslot, and_self]
  | none =>
    cases hsuffix : unknownSuffix? text with
    | some rest =>
      rw [unknownSuffix?_eq_some_iff_runs.1 hsuffix, splitOptionRuns_of_suffix]
      simp only [splitOptions, hslot, hsuffix, and_self]
    | none =>
      have hnone : splitOptionRuns (runs text) = (false, runs text) := by
        -- Runs that end like options would be those of a text that has them.
        have hfront : ∀ front back, runs text = front ++ back → front = runs (textOf front) :=
          fun front back h =>
            (runs_textOf (maximal_append_iff.1 (h ▸ maximal_runs text)).1).symm
        refine splitOptionRuns_of_none (fun front options h => ?_) fun front h => ?_
        · rw [hfront _ _ h] at h
          rw [optionsSlot?_eq_some_iff_runs.2 ⟨options, h, rfl⟩] at hslot
          cases hslot
        · rw [hfront _ _ h] at h
          rw [unknownSuffix?_eq_some_iff_runs.2 h] at hsuffix
          cases hsuffix
      rw [hnone]
      simp only [splitOptions, hslot, hsuffix, and_self]

/-! ## Values -/

theorem unescape_replicate_append (count : Nat) {rest : List Char} (h : ¬ Begins rest) :
    unescape (List.replicate count '~' ++ rest) =
      List.replicate ((count + 1) / 2) '~' ++ unescape rest := by
  induction count using Nat.twoStepInduction with
  | zero => rfl
  | one =>
    rw [List.replicate_one, List.singleton_append, unescape]
    · rfl
    · rintro rest' - rfl
      exact h rfl
  | more n ih _ =>
    rw [List.replicate_succ, List.replicate_succ, List.cons_append, List.cons_append, unescape, ih,
      show (n + 2 + 1) / 2 = (n + 1) / 2 + 1 by omega, List.replicate_succ, List.cons_append]

theorem unescape_text_append {r : Run} {rest : List Char} (h : r.Proper)
    (hrest : r.isTildes = true → ¬ Begins rest) :
    unescape (r.text ++ rest) = r.reading ++ unescape rest := by
  cases r with
  | tildes count => exact unescape_replicate_append count (hrest rfl)
  | plain t =>
    have hplain := unescape_escape_append t rest
    rwa [escape_eq_self h.2] at hplain

theorem not_begins_textOf {r : Run} {rs : List Run} (h : Maximal (r :: rs))
    (hr : r.isTildes = true) : ¬ Begins (textOf rs) := by
  cases rs with
  | nil => simp [textOf, Begins]
  | cons s rs =>
    have halternate : r.Alternates s := (List.isChain_cons_cons.1 h.alternate).1
    cases s with
    | tildes count => exact absurd hr halternate
    | plain t =>
      obtain ⟨hne, htilde⟩ : t ≠ [] ∧ '~' ∉ t := h.tail.proper _ List.mem_cons_self
      rw [textOf_cons, Begins, Run.text, List.head?_append_of_ne_nil _ hne]
      exact fun hbegins => htilde (List.mem_of_head? hbegins)

theorem pieces_of_not_begins {rest : List Char} (h : ¬ Begins rest) (b c : Bool) :
    pieces b rest = pieces c rest := by
  cases rest with
  | nil => rfl
  | cons d rest =>
    have hd : d ≠ '~' := fun hd => h (by rw [hd]; rfl)
    rw [pieces_cons hd, pieces_cons hd]

theorem pieces_true_replicate (count : Nat) (rest : List Char) :
    pieces true (List.replicate count '~' ++ rest) =
      onto (List.replicate count '~') (pieces true rest) := by
  induction count with
  | zero =>
    obtain ⟨p, ps, hp⟩ := exists_pieces_eq_cons true rest
    simp [hp, onto]
  | succ n ih =>
    rw [List.replicate_succ, List.cons_append, pieces_tilde_stuck (.inl rfl), ih, onto_onto]
    rfl

/-- A run other than a lone tilde goes in front of the first piece of what follows. -/
theorem pieces_text_append {r : Run} {rest : List Char} (h : r.Proper) (hlone : r ≠ .tildes 1)
    (hrest : r.isTildes = true → ¬ Begins rest) :
    pieces false (r.text ++ rest) = onto r.text (pieces false rest) := by
  cases r with
  | tildes count =>
    obtain ⟨n, rfl⟩ : ∃ n, count = n + 2 := by
      have hpos : 0 < count := h
      have hone : count ≠ 1 := fun hone => hlone (by rw [hone])
      exact ⟨count - 2, by omega⟩
    rw [Run.text, List.replicate_succ, List.cons_append, pieces_tilde_stuck (.inr rfl),
      pieces_true_replicate, onto_onto, pieces_of_not_begins (hrest rfl) true false]
    rfl
  | plain t =>
    have hplain := pieces_escape_append false t rest
    rw [escape_eq_self h.2] at hplain
    rw [Run.text, hplain, endsAfter_false_iff.2 fun hends => h.2 (List.mem_of_getLast? hends)]

/-- Cut at its lone tildes and unescaped, a text is cut at its runs of one tilde. -/
theorem map_unescape_pieces {rs : List Run} (h : Maximal rs) :
    (pieces false (textOf rs)).map unescape =
      (rs.splitOn (.tildes 1)).map (·.flatMap Run.reading) := by
  -- A lone tilde begins a new piece on both sides; any other run goes in front of the first one.
  induction rs with
  | nil => rfl
  | cons r rs ih =>
    have ih := ih h.tail
    have hnext : r.isTildes = true → ¬ Begins (textOf rs) := not_begins_textOf h
    have hproper : r.Proper := h.proper r List.mem_cons_self
    by_cases hlone : r = .tildes 1
    · subst hlone
      rw [textOf_cons, splitOn_cons_self, List.map_cons, ← ih]
      change (pieces false ('~' :: textOf rs)).map unescape = _
      rw [pieces_tilde_lone (hnext rfl), pieces_of_not_begins (hnext rfl) true false]
      rfl
    · obtain ⟨p, ps, hp⟩ := exists_pieces_eq_cons false (textOf rs)
      obtain ⟨g, gs, hg, hsplit⟩ := splitOn_cons_of_ne hlone rs
      have hbegins : r.isTildes = true → ¬ Begins p := fun hr hbegins =>
        hnext hr (begins_of_head_pieces hp hbegins)
      rw [hp, hg, List.map_cons, List.map_cons, List.cons.injEq] at ih
      rw [textOf_cons, pieces_text_append hproper hlone hnext, hp, hsplit, onto, List.map_cons,
        List.map_cons, unescape_text_append hproper hbegins, ih.1, ih.2, List.flatMap_cons]

theorem valuesOf_eq_valuesOfRuns (text : List Char) : valuesOf text = valuesOfRuns (runs text) := by
  have hpieces := map_unescape_pieces (maximal_runs text)
  rw [textOf_runs] at hpieces
  rw [valuesOfRuns, ← hpieces, List.filter_map, valuesOf]
  congr 1
  refine List.filter_congr fun p _ => ?_
  rw [Function.comp_apply, Bool.eq_iff_iff]
  simp [unescape_eq_nil_iff]

/-- What a text says is read off its runs. -/
theorem decode_eq_readRuns (text : List Char) : decode text = readRuns (runs text) := by
  obtain ⟨hflag, hvalues⟩ := splitOptions_eq text
  rw [readRuns, ← hflag, ← hvalues, ← valuesOf_eq_valuesOfRuns]
  rfl

example : readRuns (runs "~~a~b~~~~c~x~~~unknown~".toList) =
    (["~a".toList, "b~~c".toList, "x~~".toList], true) := by decide

end Tilde

/-- The choice of texts that runs stand for. -/
def StringFilter.ofRuns (rs : List Tilde.Run) : StringFilter :=
  .ofTexts ((Tilde.readRuns rs).1.map String.ofList) (Tilde.readRuns rs).2

/-- A string filter is what the runs of its text say. -/
theorem Filter.decode_string_eq_ofRuns (raw : String) :
    decode .string raw = .ok (string (.ofRuns (Tilde.runs raw.toList))) := by
  rw [decode_string, StringFilter.decode_eq_ofTexts, Tilde.decode_eq_readRuns]
  rfl

end FacetSearch
