import FacetSearch.Proofs.Tilde.RoundTrip

/-!
# Reading a written filter again

What a text says is kept when it is written and read again, save for two endings of the text
(`decode_encode_decode_iff`). In the one the options slot stands right behind doubled tildes
(`SlotBehindEscape`): the values then end in a tilde, which the slot written for them sticks to. In
the other an option is dropped that stood behind a last value `unknown` (`DropsOptionBehindUnknown`):
written without the slot, that value reads as the option.
-/

namespace FacetSearch.Tilde

/-- The word `unknown` stands in the options slot right behind a doubled tilde. -/
def SlotBehindEscape (text : List Char) : Prop :=
  ∃ front, text = front ++ ['~', '~'] ++ unknownWord ++ ['~']

/-- The word `unknown` stands last, behind a lone tilde and something else. -/
def UnknownLast (text : List Char) : Prop :=
  ∃ front, text = front ++ '~' :: unknownWord ∧ front ≠ [] ∧ ¬ Ends front

theorem UnknownLast.not_ends {text : List Char} (h : UnknownLast text) : ¬ Ends text := by
  obtain ⟨front, rfl, -, -⟩ := h
  rw [Ends, List.getLast?_append_of_ne_nil _ (by simp)]
  decide

/-- Another option than `unknown` stands behind a last value `unknown`. -/
def DropsOptionBehindUnknown (text : List Char) : Prop :=
  ∃ rest options, text = rest ++ ['~'] ++ options ++ ['~'] ∧ UnknownLast rest ∧
    options ≠ [] ∧ '~' ∉ options ∧ options ≠ unknownWord

/-! ## The endings and the options slot -/

theorem slotBehindEscape_iff {text : List Char} :
    SlotBehindEscape text ↔ ∃ front, optionsSlot? text = some (true, front ++ ['~', '~']) := by
  constructor
  · rintro ⟨front, rfl⟩
    exact ⟨front, optionsSlot?_eq_some_iff.2 ⟨unknownWord, rfl, by decide,
      tilde_not_mem_unknownWord, .inr (by simp [Ends]), by decide⟩⟩
  · rintro ⟨front, h⟩
    obtain ⟨options, rfl, -, -, -, hword⟩ := optionsSlot?_eq_some_iff.1 h
    exact ⟨front, by rw [of_decide_eq_true hword.symm]⟩

theorem dropsOptionBehindUnknown_iff {text : List Char} :
    DropsOptionBehindUnknown text ↔
      ∃ rest, optionsSlot? text = some (false, rest ++ ['~']) ∧ UnknownLast rest := by
  constructor
  · rintro ⟨rest, options, rfl, hlast, hne, hoptions, hword⟩
    exact ⟨rest, optionsSlot?_eq_some_iff.2 ⟨options, rfl, hne, hoptions, .inr (by simp [Ends]),
      by simp [hword]⟩, hlast⟩
  · rintro ⟨rest, h, hlast⟩
    obtain ⟨options, rfl, hne, hoptions, -, hword⟩ := optionsSlot?_eq_some_iff.1 h
    exact ⟨rest, options, rfl, hlast, hne, hoptions, of_decide_eq_false hword.symm⟩

/-! ## The last value -/

theorem not_ends_of_mem_getLast?_valuesOf {text : List Char} (h : ¬ Ends text) :
    ∀ v ∈ (valuesOf text).getLast?, ¬ Ends v := by
  intro v hv
  by_cases hne : text = []
  · subst hne
    simp [valuesOf, pieces] at hv
  · obtain ⟨front, c, rfl⟩ := exists_append_escape hne h
    obtain ⟨vs, w, hvalues, hw⟩ := getLast?_valuesOf_append_escape front c
    rw [hvalues, List.getLast?_concat, Option.mem_some_iff] at hv
    subst hv
    rwa [Ends, getLast?_escape_singleton, ← hw] at h

theorem unknownLast_iff {text : List Char} (h : ¬ Ends text) :
    UnknownLast text ↔
      2 ≤ (valuesOf text).length ∧ (valuesOf text).getLast? = some unknownWord := by
  constructor
  · rintro ⟨front, rfl, hne, hfront⟩
    obtain ⟨start, c, rfl⟩ := exists_append_escape hne hfront
    obtain ⟨vs, v, hvalues, -⟩ := getLast?_valuesOf_append_escape start c
    rw [valuesOf_append_unknownWord hfront, hvalues]
    simp
  · rintro ⟨htwo, hlast⟩
    obtain ⟨vs, hvs⟩ := List.getLast?_eq_some_iff.1 hlast
    have hne : vs ≠ [] := by
      rintro rfl
      rw [hvs] at htwo
      simp at htwo
    obtain ⟨front, rfl, hfront⟩ := exists_front_of_valuesOf hne h hvs
    refine ⟨front, rfl, ?_, hfront⟩
    rintro rfl
    rw [valuesOf_append_unknownWord hfront] at hvs
    exact hne (List.append_singleton_inj.1 hvs).1.symm

/-- Only the last value of what was read can get lost. -/
theorem writable_decode_iff (text : List Char) :
    Writable (decode text).1 (decode text).2 ↔
      ((decode text).2 = true → ∀ v ∈ (decode text).1.getLast?, ¬ Ends v) ∧
        ¬ ((decode text).2 = false ∧ 2 ≤ (decode text).1.length ∧
          (decode text).1.getLast? = some unknownWord) :=
  ⟨fun h => ⟨h.closed, h.named⟩,
    fun h => ⟨nonempty_decode text, apart_decode text, h.1, h.2⟩⟩

theorem decode_of_optionsSlot? {text rest : List Char} {b : Bool}
    (h : optionsSlot? text = some (b, rest)) : decode text = (valuesOf rest, b) := by
  simp only [decode, splitOptions, h]

/-! ## The three ways to read options -/

theorem writable_of_slot_true {text rest : List Char}
    (h : optionsSlot? text = some (true, rest)) :
    Writable (decode text).1 (decode text).2 ↔ ¬ ∃ front, rest = front ++ ['~', '~'] := by
  rw [writable_decode_iff, decode_of_optionsSlot? h]
  obtain ⟨options, -, -, -, rfl | hends, -⟩ := optionsSlot?_eq_some_iff.1 h
  · simp [valuesOf, pieces]
  obtain ⟨front, rfl⟩ | ⟨front, rfl, hfront⟩ := ends_cases hends
  · obtain ⟨v, hv, hvends⟩ := exists_last_value_of_doubled front
    refine iff_of_false ?_ (not_not_intro ⟨front, rfl⟩)
    rintro ⟨hclosed, -⟩
    exact hclosed rfl v hv hvends
  · rw [valuesOf_append_tilde hfront]
    refine iff_of_true ⟨fun _ => not_ends_of_mem_getLast?_valuesOf hfront, by simp⟩ ?_
    rintro ⟨start, hstart⟩
    exact append_tilde_ne hfront hstart

theorem getLast?_valuesOf_doubled_ne (front : List Char) :
    (valuesOf (front ++ ['~', '~'])).getLast? ≠ some unknownWord := by
  obtain ⟨v, hv, hvends⟩ := exists_last_value_of_doubled front
  rw [hv, Ne, Option.some.injEq]
  rintro rfl
  exact absurd hvends (by decide)

theorem writable_of_slot_false {text rest : List Char}
    (h : optionsSlot? text = some (false, rest)) :
    Writable (decode text).1 (decode text).2 ↔
      ¬ ∃ front, rest = front ++ ['~'] ∧ UnknownLast front := by
  rw [writable_decode_iff, decode_of_optionsSlot? h]
  obtain ⟨options, -, -, -, rfl | hends, -⟩ := optionsSlot?_eq_some_iff.1 h
  · simp [valuesOf, pieces]
  obtain ⟨front, rfl⟩ | ⟨front, rfl, hfront⟩ := ends_cases hends
  · refine iff_of_true ⟨by simp, fun hnamed => ?_⟩ ?_
    · exact getLast?_valuesOf_doubled_ne front hnamed.2.2
    · rintro ⟨start, hstart, hlast⟩
      exact append_tilde_ne hlast.not_ends hstart.symm
  · rw [valuesOf_append_tilde hfront]
    simp only [Bool.false_eq_true, false_implies, true_and, ← unknownLast_iff hfront]
    refine not_congr ⟨fun hlast => ⟨front, rfl, hlast⟩, ?_⟩
    rintro ⟨start, hstart, hlast⟩
    rwa [(List.append_singleton_inj.1 hstart).1]

theorem writable_of_no_slot {text : List Char} (h : optionsSlot? text = none) :
    Writable (decode text).1 (decode text).2 := by
  rw [writable_decode_iff]
  obtain ⟨hsuffix, hdecode⟩ | ⟨rest, hsuffix, hdecode⟩ := decode_eq_of_unknownSuffix? h
  · rw [hdecode]
    refine ⟨by simp, ?_⟩
    rintro ⟨-, htwo, hlast⟩
    by_cases hends : Ends text
    · obtain ⟨front, rfl⟩ | ⟨front, rfl, hfront⟩ := ends_cases hends
      · exact getLast?_valuesOf_doubled_ne front hlast
      · -- the word would stand in the options slot
        rw [valuesOf_append_tilde hfront] at htwo hlast
        obtain ⟨start, rfl, -, -⟩ := (unknownLast_iff hfront).2 ⟨htwo, hlast⟩
        have hslot := optionsSlot?_eq_some_iff.2 ⟨unknownWord, rfl, by decide,
          tilde_not_mem_unknownWord, .inr (List.getLast?_concat : Ends (start ++ ['~'])), rfl⟩
        rw [List.append_assoc start, List.singleton_append, h] at hslot
        cases hslot
    · obtain ⟨front, htext, -, hfront⟩ := (unknownLast_iff hends).2 ⟨htwo, hlast⟩
      rw [unknownSuffix?_eq_some_iff.2 ⟨htext, hfront⟩] at hsuffix
      cases hsuffix
  · rw [hdecode]
    obtain ⟨-, hrest⟩ := unknownSuffix?_eq_some_iff.1 hsuffix
    exact ⟨fun _ => not_ends_of_mem_getLast?_valuesOf hrest, by simp⟩

/-- What a text says is kept when it is written and read again, unless the text ends in one of the
two ways. -/
theorem decode_encode_decode_iff (text : List Char) :
    decode (encode (decode text).1 (decode text).2) = decode text ↔
      ¬ SlotBehindEscape text ∧ ¬ DropsOptionBehindUnknown text := by
  rw [show decode text = ((decode text).1, (decode text).2) from rfl, decode_encode_iff,
    slotBehindEscape_iff, dropsOptionBehindUnknown_iff]
  cases hslot : optionsSlot? text with
  | none => simpa using writable_of_no_slot hslot
  | some found =>
    obtain ⟨b, rest⟩ := found
    cases b with
    | true => simpa using writable_of_slot_true hslot
    | false => simpa using writable_of_slot_false hslot

end FacetSearch.Tilde
