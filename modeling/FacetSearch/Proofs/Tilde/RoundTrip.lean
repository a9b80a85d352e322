import FacetSearch.Proofs.Tilde.Values

/-!
# Writing and reading string filters

`Writable` is what values and flag have to satisfy so that the text written for them is read back
as the same values and flag; `decode_encode_iff` says that nothing less will do. Two of its parts
hold of everything that was read from some text (`nonempty_decode`, `apart_decode`), so only the
last value can get lost when a text is read and written again.
-/

namespace FacetSearch.Tilde

/-- Values that can be told apart in one text, and from the options behind them. -/
structure Writable (values : List (List Char)) (includeUnknown : Bool) : Prop where
  nonempty : ∀ v ∈ values, v ≠ []
  /-- The tilde between two values is not taken for part of one of them. -/
  apart : values.IsChain Apart
  /-- Nor is the tilde in front of the options. -/
  closed : includeUnknown = true → ∀ v ∈ values.getLast?, ¬ Ends v
  /-- A value behind others is not taken for the word that lets unknown values pass. -/
  named : ¬ (includeUnknown = false ∧ 2 ≤ values.length ∧ values.getLast? = some unknownWord)

theorem nonempty_decode (text : List Char) : ∀ v ∈ (decode text).1, v ≠ [] := by
  intro v hv
  exact ne_nil_of_mem_valuesOf hv

theorem apart_decode (text : List Char) : (decode text).1.IsChain Apart :=
  (pairwise_apart_valuesOf _).isChain

/-! ## Options of written texts -/

theorem closesRun_row (values : List (List Char)) : ClosesRun (row values) := by
  rcases List.eq_nil_or_concat' values with rfl | ⟨init, v, rfl⟩
  · exact .inl rfl
  · right
    rw [row_concat, Ends, List.getLast?_concat]

theorem encode_true (values : List (List Char)) :
    encode values true = row values ++ unknownWord ++ ['~'] := by
  rw [encode, if_pos rfl, intercalate_append_singleton]

theorem encode_false_concat (init : List (List Char)) (v : List Char) :
    encode (init ++ [v]) false = row init ++ escape v := by
  rw [encode, if_neg (by simp), List.map_append, List.map_singleton, intercalate_append_singleton]

theorem decode_encode_true (values : List (List Char)) :
    decode (encode values true) = (valuesOf (row values), true) := by
  have hslot : optionsSlot? (encode values true) = some (true, row values) :=
    optionsSlot?_eq_some_iff.2 ⟨unknownWord, encode_true values, by decide,
      tilde_not_mem_unknownWord, closesRun_row values, by decide⟩
  simp only [decode, splitOptions, hslot]

theorem optionsSlot?_append_escape (front : List Char) (c : Char) :
    optionsSlot? (front ++ escape [c]) = none := by
  by_contra hsome
  obtain ⟨⟨b, rest⟩, hslot⟩ := Option.ne_none_iff_exists'.1 hsome
  obtain ⟨options, htext, hne, hoptions, -⟩ := optionsSlot?_eq_some_iff.1 hslot
  have hc : c = '~' := by
    have hlast := getLast?_escape_singleton front c
    rw [htext, List.getLast?_concat] at hlast
    exact (Option.some.inj hlast).symm
  subst hc
  rw [show front ++ escape ['~'] = (front ++ ['~']) ++ ['~'] by simp [escape]] at htext
  have hinit := (List.append_singleton_inj.1 htext).1
  -- the run of the options would end in the first of the two tildes
  have hlast : options.getLast? = some '~' := by
    rw [← List.getLast?_append_of_ne_nil rest hne, ← hinit, List.getLast?_concat]
  exact hoptions (List.mem_of_getLast? hlast)

theorem decode_eq_of_unknownSuffix? {text : List Char} (hslot : optionsSlot? text = none) :
    (unknownSuffix? text = none ∧ decode text = (valuesOf text, false)) ∨
      ∃ rest, unknownSuffix? text = some rest ∧ decode text = (valuesOf rest, true) := by
  cases hsuffix : unknownSuffix? text with
  | none => exact .inl ⟨rfl, by simp only [decode, splitOptions, hslot, hsuffix]⟩
  | some rest => exact .inr ⟨rest, rfl, by simp only [decode, splitOptions, hslot, hsuffix]⟩

/-! ## With the flag -/

theorem decode_encode_true_of_writable {values : List (List Char)} (h : Writable values true) :
    decode (encode values true) = (values, true) := by
  have hlast : ∀ v ∈ values.getLast?, Apart v [] := fun v hv =>
    ⟨h.closed rfl v hv, by simp [Begins]⟩
  obtain ⟨b, hb⟩ := valuesOf_row_append h.nonempty h.apart hlast
  rw [List.append_nil] at hb
  rw [decode_encode_true, hb]
  simp [pieces, valuesOfPieces]

/-- A tilde at the end of the last value is tripled by the one in front of the options. -/
theorem valuesOf_row_of_ends {init : List (List Char)} {v : List Char} (hv : Ends v)
    (hfull : ∀ w ∈ init ++ [v], w ≠ []) (h : (init ++ [v]).IsChain Apart) :
    valuesOf (row (init ++ [v])) = init ++ [v ++ ['~']] := by
  have hne : v ≠ [] := hfull v (by simp)
  have hlast : ∀ w ∈ init.getLast?, Apart w (escape v ++ ['~']) := by
    intro w hw
    have hwv := (List.isChain_append.1 h).2.2 w hw v rfl
    refine ⟨hwv.1, ?_⟩
    rw [Begins, List.head?_append_of_ne_nil _ (mt escape_eq_nil_iff.1 hne), head?_escape]
    exact hwv.2
  obtain ⟨b, hb⟩ := valuesOf_row_append (fun w hw => hfull w (by simp [hw])) h.left_of_append hlast
  have hpieces : pieces b (escape v ++ ['~']) = [escape v ++ ['~']] := by
    rw [pieces_escape_append, endsAfter_eq hne, pieces_tilde_stuck (.inl (by simpa using hv))]
    rfl
  rw [row_concat, List.append_assoc, hb, hpieces, valuesOfPieces_singleton (by simp),
    unescape_escape_append]
  rfl

theorem writable_of_decode_encode_true {values : List (List Char)}
    (h : decode (encode values true) = (values, true)) : Writable values true := by
  have hnonempty := nonempty_decode (encode values true)
  have hapart := apart_decode (encode values true)
  rw [h] at hnonempty hapart
  refine ⟨hnonempty, hapart, fun _ v hv hends => ?_, by simp⟩
  obtain ⟨init, rfl⟩ := List.getLast?_eq_some_iff.1 hv
  rw [decode_encode_true, valuesOf_row_of_ends hends hnonempty hapart] at h
  simp at h

/-! ## Without the flag -/

theorem decode_encode_false_of_writable {values : List (List Char)} (h : Writable values false) :
    decode (encode values false) = (values, false) := by
  rcases List.eq_nil_or_concat' values with rfl | ⟨init, v, rfl⟩
  · decide
  have hne : v ≠ [] := h.nonempty v (by simp)
  have hlast : ∀ w ∈ init.getLast?, Apart w (escape v) := by
    intro w hw
    have hwv := (List.isChain_append.1 h.apart).2.2 w hw v rfl
    rw [Apart, Begins, head?_escape]
    exact hwv
  obtain ⟨b, hb⟩ := valuesOf_row_append (fun w hw => h.nonempty w (by simp [hw]))
    h.apart.left_of_append hlast
  rw [pieces_escape, valuesOfPieces_singleton (mt escape_eq_nil_iff.1 hne), unescape_escape] at hb
  have hslot : optionsSlot? (encode (init ++ [v]) false) = none := by
    obtain ⟨front, c, rfl⟩ := (List.eq_nil_or_concat' v).resolve_left hne
    rw [encode_false_concat, escape_append, ← List.append_assoc]
    exact optionsSlot?_append_escape _ c
  obtain ⟨-, hdecode⟩ | ⟨rest, hsuffix, -⟩ := decode_eq_of_unknownSuffix? hslot
  · rw [hdecode, encode_false_concat, hb]
  · -- the last value would be the word `unknown`, with others in front of it
    obtain ⟨htext, hrest⟩ := unknownSuffix?_eq_some_iff.1 hsuffix
    rw [encode_false_concat] at htext
    rw [htext, valuesOf_append_unknownWord hrest] at hb
    obtain ⟨hinit, hword⟩ := List.append_singleton_inj.1 hb
    subst hword
    have hinit : init ≠ [] := by
      rintro rfl
      rw [escape_eq_self tilde_not_mem_unknownWord] at htext
      have hmem : '~' ∈ row [] ++ unknownWord := by
        rw [htext]
        simp
      exact tilde_not_mem_unknownWord hmem
    have hlength := List.length_pos_of_ne_nil hinit
    refine absurd ⟨rfl, ?_, by simp⟩ h.named
    rw [List.length_append, List.length_singleton]
    omega

theorem unknownSuffix?_encode_false {init : List (List Char)} (hne : init ≠ [])
    (hfull : ∀ v ∈ init, v ≠ []) (h : (init ++ [unknownWord]).IsChain Apart) :
    ∃ rest, unknownSuffix? (encode (init ++ [unknownWord]) false) = some rest := by
  obtain ⟨vs, v, rfl⟩ := (List.eq_nil_or_concat' init).resolve_left hne
  have hends : ¬ Ends v := ((List.isChain_append.1 h).2.2 v (by simp) unknownWord rfl).1
  refine ⟨row vs ++ escape v, unknownSuffix?_eq_some_iff.2 ⟨?_, ?_⟩⟩
  · rw [encode_false_concat, row_concat, escape_eq_self tilde_not_mem_unknownWord,
      List.append_assoc, List.singleton_append]
  · have hv : escape v ≠ [] := mt escape_eq_nil_iff.1 (hfull v (by simp))
    rw [Ends, List.getLast?_append_of_ne_nil _ hv, getLast?_escape]
    exact hends

theorem writable_of_decode_encode_false {values : List (List Char)}
    (h : decode (encode values false) = (values, false)) : Writable values false := by
  have hnonempty := nonempty_decode (encode values false)
  have hapart := apart_decode (encode values false)
  rw [h] at hnonempty hapart
  refine ⟨hnonempty, hapart, by simp, fun ⟨_, htwo, hlast⟩ => ?_⟩
  obtain ⟨init, rfl⟩ := List.getLast?_eq_some_iff.1 hlast
  have hinit : init ≠ [] := by
    rintro rfl
    simp at htwo
  obtain ⟨rest, hsuffix⟩ := unknownSuffix?_encode_false hinit
    (fun v hv => hnonempty v (by simp [hv])) hapart
  have hslot : optionsSlot? (encode (init ++ [unknownWord]) false) = none := by
    rw [encode_false_concat, show unknownWord = "unknow".toList ++ ['n'] by decide, escape_append,
      ← List.append_assoc]
    exact optionsSlot?_append_escape _ 'n'
  obtain ⟨hnone, -⟩ | ⟨rest, -, hdecode⟩ := decode_eq_of_unknownSuffix? hslot
  · rw [hnone] at hsuffix
    cases hsuffix
  · simp [hdecode] at h

/-- Values and flag are read back exactly if they are writable. -/
theorem decode_encode_iff {values : List (List Char)} {includeUnknown : Bool} :
    decode (encode values includeUnknown) = (values, includeUnknown) ↔
      Writable values includeUnknown := by
  cases includeUnknown with
  | false => exact ⟨writable_of_decode_encode_false, decode_encode_false_of_writable⟩
  | true => exact ⟨writable_of_decode_encode_true, decode_encode_true_of_writable⟩

end FacetSearch.Tilde
