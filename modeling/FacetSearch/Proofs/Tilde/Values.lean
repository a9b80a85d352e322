import FacetSearch.Proofs.Tilde.Options

/-!
# Values in a text

The values that are read from a text are never empty (`ne_nil_of_mem_valuesOf`) and always apart
(`pairwise_apart_valuesOf`). Which value is the last one depends on how the text ends: with a
character or a doubled tilde (`getLast?_valuesOf_append_escape`), or with a lone tilde, which adds
nothing (`valuesOf_append_tilde`).
-/

namespace FacetSearch.Tilde

/-- The values that pieces stand for. -/
def valuesOfPieces (ps : List (List Char)) : List (List Char) :=
  (ps.filter (!·.isEmpty)).map unescape

theorem valuesOf_eq (text : List Char) : valuesOf text = valuesOfPieces (pieces false text) := rfl

theorem valuesOfPieces_append (ps qs : List (List Char)) :
    valuesOfPieces (ps ++ qs) = valuesOfPieces ps ++ valuesOfPieces qs := by
  simp [valuesOfPieces]

theorem valuesOfPieces_singleton {p : List Char} (h : p ≠ []) :
    valuesOfPieces [p] = [unescape p] := by
  simp [valuesOfPieces, h]

/-- Escaped texts give themselves, except the empty ones. -/
theorem valuesOfPieces_map_escape (values : List (List Char)) :
    valuesOfPieces (values.map escape) = values.filter (!·.isEmpty) := by
  induction values with
  | nil => rfl
  | cons v rest ih =>
    rw [List.map_cons, ← List.singleton_append, valuesOfPieces_append, ih]
    cases v with
    | nil => rfl
    | cons c cs =>
      rw [valuesOfPieces_singleton (mt escape_eq_nil_iff.1 (by simp)), unescape_escape]
      rfl

theorem ne_nil_of_mem_valuesOf {text v : List Char} (h : v ∈ valuesOf text) : v ≠ [] := by
  simp only [valuesOf, List.mem_map, List.mem_filter] at h
  obtain ⟨p, ⟨-, hp⟩, rfl⟩ := h
  rw [Ne, unescape_eq_nil_iff]
  simpa using hp

theorem pairwise_apart_valuesOf (text : List Char) : (valuesOf text).Pairwise Apart := by
  rw [valuesOf, List.pairwise_map]
  refine ((pairwise_apart_pieces false text).filter _).imp fun {p q} h => ?_
  rw [Apart, Ends, Begins, getLast?_unescape, head?_unescape]
  exact h

/-- A text cut at a lone tilde has the values of both parts. -/
theorem valuesOf_append_lone {before after : List Char} (hb : ¬ Ends before) (ha : ¬ Begins after) :
    valuesOf (before ++ '~' :: after) =
      valuesOf before ++ valuesOfPieces (pieces true after) := by
  rw [valuesOf_eq, pieces_append_lone (endsAfter_false_iff.2 hb) ha, valuesOfPieces_append]
  rfl

theorem valuesOf_append_tilde {text : List Char} (h : ¬ Ends text) :
    valuesOf (text ++ ['~']) = valuesOf text := by
  rw [valuesOf_append_lone h (by simp [Begins])]
  simp [pieces, valuesOfPieces]

theorem pieces_unknownWord (b : Bool) : pieces b unknownWord = [unknownWord] := by
  have h := pieces_escape b unknownWord
  rwa [escape_eq_self tilde_not_mem_unknownWord] at h

theorem valuesOf_append_unknownWord {front : List Char} (h : ¬ Ends front) :
    valuesOf (front ++ '~' :: unknownWord) = valuesOf front ++ [unknownWord] := by
  rw [valuesOf_append_lone h not_begins_unknownWord, pieces_unknownWord]
  rfl

/-- The values of a row come before those of the text behind it. -/
theorem valuesOf_row_append {values : List (List Char)} {rest : List Char}
    (hfull : ∀ v ∈ values, v ≠ []) (h : values.IsChain Apart)
    (hrest : ∀ v ∈ values.getLast?, Apart v rest) :
    ∃ b, valuesOf (row values ++ rest) = values ++ valuesOfPieces (pieces b rest) := by
  obtain ⟨b, hb⟩ := pieces_row_append false hfull h hrest
  refine ⟨b, ?_⟩
  have hvalues : values.filter (!·.isEmpty) = values := by
    rw [List.filter_eq_self]
    intro v hv
    simpa using hfull v hv
  rw [valuesOf_eq, hb, valuesOfPieces_append, valuesOfPieces_map_escape, hvalues]

/-! ## The last value -/

theorem getLast?_escape_singleton (front : List Char) (c : Char) :
    (front ++ escape [c]).getLast? = some c := by
  rw [List.getLast?_append, getLast?_escape]
  rfl

theorem exists_append_escape {text : List Char} (hne : text ≠ []) (h : ¬ Ends text) :
    ∃ front c, text = front ++ escape [c] := by
  obtain ⟨front, c, rfl⟩ := (List.eq_nil_or_concat' text).resolve_left hne
  have hc : c ≠ '~' := by simpa [Ends] using h
  exact ⟨front, c, by rw [escape_cons hc]; rfl⟩

/-- A tilde at the end is the second of two or stands alone. -/
theorem ends_cases {text : List Char} (h : Ends text) :
    (∃ front, text = front ++ ['~', '~']) ∨ ∃ front, text = front ++ ['~'] ∧ ¬ Ends front := by
  obtain ⟨front, rfl⟩ := List.getLast?_eq_some_iff.1 h
  by_cases hfront : Ends front
  · obtain ⟨start, rfl⟩ := List.getLast?_eq_some_iff.1 hfront
    exact .inl ⟨start, by simp⟩
  · exact .inr ⟨front, rfl, hfront⟩

theorem append_tilde_ne {front start : List Char} (h : ¬ Ends front) :
    front ++ ['~'] ≠ start ++ ['~', '~'] := by
  intro heq
  rw [show start ++ ['~', '~'] = (start ++ ['~']) ++ ['~'] by simp] at heq
  rw [(List.append_singleton_inj.1 heq).1] at h
  exact h (by simp [Ends])

/-- The last value of a text without a lone tilde at the end ends like the text. -/
theorem getLast?_valuesOf_append_escape (front : List Char) (c : Char) :
    ∃ vs v, valuesOf (front ++ escape [c]) = vs ++ [v] ∧ v.getLast? = some c := by
  obtain ⟨ps, p, hp⟩ := exists_pieces_append_escape false front [c]
  have hne : p ++ escape [c] ≠ [] := by simp [escape_eq_nil_iff]
  refine ⟨valuesOfPieces ps, unescape (p ++ escape [c]), ?_, ?_⟩
  · rw [valuesOf_eq, hp, valuesOfPieces_append, valuesOfPieces_singleton hne]
  · rw [getLast?_unescape, getLast?_escape_singleton]

theorem exists_last_value_of_doubled (front : List Char) :
    ∃ v, (valuesOf (front ++ ['~', '~'])).getLast? = some v ∧ Ends v := by
  obtain ⟨vs, v, hvalues, hv⟩ := getLast?_valuesOf_append_escape front '~'
  refine ⟨v, ?_, hv⟩
  rw [show ['~', '~'] = escape ['~'] from rfl, hvalues, List.getLast?_concat]

/-- The word `unknown` is the last of several values of a text that does not end in a tilde just if
it stands there behind a lone tilde. -/
theorem exists_front_of_valuesOf {text : List Char} {vs : List (List Char)} (hvs : vs ≠ [])
    (hends : ¬ Ends text) (h : valuesOf text = vs ++ [unknownWord]) :
    ∃ front, text = front ++ '~' :: unknownWord ∧ ¬ Ends front := by
  have hne : text ≠ [] := by
    rintro rfl
    simp [valuesOf, pieces] at h
  obtain ⟨start, c, rfl⟩ := exists_append_escape hne hends
  obtain ⟨ps, p, hp⟩ := exists_pieces_append_escape false start [c]
  have hpiece : p ++ escape [c] ≠ [] := by simp [escape_eq_nil_iff]
  rw [valuesOf_eq, hp, valuesOfPieces_append, valuesOfPieces_singleton hpiece] at h
  obtain ⟨hps, hlast⟩ := List.append_singleton_inj.1 h
  rw [eq_of_unescape tilde_not_mem_unknownWord hlast] at hp
  have hps' : ps ≠ [] := by
    rintro rfl
    exact hvs hps.symm
  obtain ⟨front, htext, hfront⟩ := exists_front_of_pieces hps' hp
  exact ⟨front, htext, endsAfter_false_iff.1 hfront⟩

end FacetSearch.Tilde
