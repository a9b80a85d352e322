import Mathlib.Data.List.Chain
import FacetSearch.Proofs.Tilde.Escape

/-!
# Cutting at lone tildes

A tilde between two texts is a cut (`pieces_append_lone`) if it stands alone there, that is, if the
texts are `Apart`; otherwise it sticks to the text in front of it. Escaped texts hold no lone tilde
(`pieces_escape_append`), so a `row` of values with a tilde behind each is cut back into the values
if neighbours are apart (`pieces_row_append`). The pieces of any text are apart
(`pairwise_apart_pieces`), and the last of them is what the text ends with
(`exists_pieces_append_escape`, `exists_front_of_pieces`).
-/

namespace FacetSearch.Tilde

/-- A tilde between the texts has no other tilde beside it. -/
abbrev Apart (before after : List Char) : Prop := ¬ Ends before ∧ ¬ Begins after

/-- A text in front of the first piece. -/
def onto (front : List Char) : List (List Char) → List (List Char)
  | [] => [front]
  | piece :: pieces => (front ++ piece) :: pieces

/-- A tilde was just read, after reading a text. -/
def endsAfter : Bool → List Char → Bool
  | afterTilde, [] => afterTilde
  | _, c :: rest => endsAfter (c = '~') rest

theorem endsAfter_eq {text : List Char} (h : text ≠ []) (b : Bool) :
    endsAfter b text = decide (Ends text) := by
  induction text generalizing b with
  | nil => exact absurd rfl h
  | cons c rest ih =>
    cases rest with
    | nil => simp [endsAfter, Ends]
    | cons d ds =>
      rw [endsAfter, ih (by simp)]
      simp only [Ends, List.getLast?_cons_cons]

theorem endsAfter_false_iff {text : List Char} : endsAfter false text = false ↔ ¬ Ends text := by
  cases text with
  | nil => simp [endsAfter]
  | cons c rest => simp [endsAfter_eq]

/-! ## Pieces in front of the first one -/

theorem consHead_eq_onto (c : Char) (ps : List (List Char)) : consHead c ps = onto [c] ps := by
  cases ps <;> rfl

theorem onto_onto (v w : List Char) (ps : List (List Char)) :
    onto v (onto w ps) = onto (v ++ w) ps := by
  cases ps <;> simp [onto]

theorem onto_append {v : List Char} {ps qs : List (List Char)} (h : ps ≠ []) :
    onto v (ps ++ qs) = onto v ps ++ qs := by
  cases ps with
  | nil => exact absurd rfl h
  | cons p ps => rfl

theorem onto_ne_nil (v : List Char) (ps : List (List Char)) : onto v ps ≠ [] := by
  cases ps <;> simp [onto]

theorem pieces_ne_nil (b : Bool) (text : List Char) : pieces b text ≠ [] := by
  cases text with
  | nil => simp [pieces]
  | cons c rest =>
    simp only [pieces, consHead_eq_onto]
    split
    · split
      · exact onto_ne_nil _ _
      · exact List.cons_ne_nil _ _
    · exact onto_ne_nil _ _

theorem exists_pieces_eq_cons (b : Bool) (text : List Char) : ∃ p ps, pieces b text = p :: ps :=
  List.exists_cons_of_ne_nil (pieces_ne_nil b text)

/-! ## One character -/

theorem pieces_cons {c : Char} (h : c ≠ '~') (b : Bool) (rest : List Char) :
    pieces b (c :: rest) = onto [c] (pieces false rest) := by
  rw [pieces, if_neg h, consHead_eq_onto]

theorem pieces_tilde_stuck {b : Bool} {rest : List Char} (h : b = true ∨ Begins rest) :
    pieces b ('~' :: rest) = onto ['~'] (pieces true rest) := by
  rw [pieces, if_pos rfl, if_pos (by simpa using h), consHead_eq_onto]

theorem pieces_tilde_lone {rest : List Char} (h : ¬ Begins rest) :
    pieces false ('~' :: rest) = [] :: pieces true rest := by
  rw [pieces, if_pos rfl, if_neg (by simpa using h)]

/-- A character joins the piece behind it, unless it is a tilde that stands alone. -/
theorem pieces_cons_cases (b : Bool) (c : Char) (rest : List Char) :
    pieces b (c :: rest) = onto [c] (pieces (c = '~') rest) ∨
      b = false ∧ c = '~' ∧ pieces b (c :: rest) = [] :: pieces true rest := by
  by_cases hc : c = '~'
  · subst hc
    by_cases hs : b = true ∨ Begins rest
    · exact .inl (by simpa using pieces_tilde_stuck hs)
    · obtain ⟨hb, hr⟩ := not_or.1 hs
      rw [Bool.not_eq_true] at hb
      subst hb
      exact .inr ⟨rfl, rfl, pieces_tilde_lone hr⟩
  · exact .inl (by simpa [hc] using pieces_cons hc b rest)

/-! ## Texts in front -/

/-- Of the two tildes that an escaped one is, each sticks to the other. -/
theorem pieces_escape_append (b : Bool) (v rest : List Char) :
    pieces b (escape v ++ rest) = onto (escape v) (pieces (endsAfter b v) rest) := by
  induction v generalizing b with
  | nil =>
    obtain ⟨p, ps, h⟩ := exists_pieces_eq_cons b rest
    simp [escape, endsAfter, h, onto]
  | cons c v ih =>
    by_cases hc : c = '~'
    · subst hc
      rw [escape_tilde, List.cons_append, List.cons_append, pieces_tilde_stuck (.inr rfl),
        pieces_tilde_stuck (.inl rfl), ih, onto_onto, onto_onto]
      simp [endsAfter]
    · rw [escape_cons hc, List.cons_append, pieces_cons hc, ih, onto_onto]
      simp [endsAfter, hc]

theorem pieces_escape (b : Bool) (v : List Char) : pieces b (escape v) = [escape v] := by
  have h := pieces_escape_append b v []
  rw [List.append_nil] at h
  rw [h]
  simp [pieces, onto]

/-- A tilde that stands alone cuts. -/
theorem pieces_append_lone {b : Bool} {before after : List Char}
    (hb : endsAfter b before = false) (ha : ¬ Begins after) :
    pieces b (before ++ '~' :: after) = pieces b before ++ pieces true after := by
  induction before generalizing b with
  | nil =>
    simp only [endsAfter] at hb
    subst hb
    rw [List.nil_append, pieces_tilde_lone ha]
    rfl
  | cons c before ih =>
    rw [List.cons_append]
    by_cases hc : c = '~'
    · subst hc
      have ih := ih (b := true) (by simpa [endsAfter] using hb)
      -- `before` goes on, as a tilde at its end would stick to the one behind it
      cases before with
      | nil => simp [endsAfter] at hb
      | cons d before =>
        by_cases hd : b = true ∨ d = '~'
        · rw [pieces_tilde_stuck (by simpa [Begins] using hd),
            pieces_tilde_stuck (by simpa [Begins] using hd), ih, onto_append (pieces_ne_nil _ _)]
        · obtain ⟨hb', hd⟩ := not_or.1 hd
          rw [Bool.not_eq_true] at hb'
          subst hb'
          rw [pieces_tilde_lone (by simpa [Begins] using hd),
            pieces_tilde_lone (by simpa [Begins] using hd), ih]
          rfl
    · have ih := ih (b := false) (by simpa [endsAfter, hc] using hb)
      rw [pieces_cons hc, pieces_cons hc, ih, onto_append (pieces_ne_nil _ _)]

/-! ## Pieces are apart -/

theorem begins_of_head_pieces {b : Bool} {text p : List Char} {ps : List (List Char)}
    (h : pieces b text = p :: ps) (hp : Begins p) : Begins text := by
  cases text with
  | nil =>
    simp only [pieces, List.cons.injEq] at h
    rw [← h.1] at hp
    exact hp
  | cons c rest =>
    by_cases hc : c = '~'
    · subst hc; rfl
    · obtain ⟨q, qs, hq⟩ := exists_pieces_eq_cons false rest
      rw [pieces_cons hc, hq] at h
      simp only [onto, List.cons.injEq] at h
      rw [← h.1] at hp
      exact hp

/-- Behind a tilde the first piece is empty only at the end of the text. -/
theorem tail_eq_nil_of_pieces {text : List Char} {ps : List (List Char)}
    (h : pieces true text = [] :: ps) : ps = [] := by
  cases text with
  | nil =>
    simp only [pieces, List.cons.injEq] at h
    exact h.2.symm
  | cons c rest =>
    obtain hstuck | ⟨hb, -, -⟩ := pieces_cons_cases true c rest
    · obtain ⟨q, qs, hq⟩ := exists_pieces_eq_cons (c = '~') rest
      rw [hstuck, hq] at h
      simp [onto] at h
    · cases hb

/-- A character in front of the first piece leaves pieces apart, unless it is a tilde in front of an
empty piece. -/
theorem Pairwise.onto_cons {c : Char} {p : List Char} {ps : List (List Char)}
    (h : (p :: ps).Pairwise Apart) (hc : c = '~' → p = [] → ps = []) :
    (onto [c] (p :: ps)).Pairwise Apart := by
  rw [List.pairwise_cons] at h
  refine List.pairwise_cons.2 ⟨fun q hq => ⟨?_, (h.1 q hq).2⟩, h.2⟩
  intro hends
  cases p with
  | nil =>
    have hc' : c = '~' := by simpa [Ends] using hends
    rw [hc hc' rfl] at hq
    cases hq
  | cons d p => exact (h.1 q hq).1 (by simpa [Ends] using hends)

theorem pairwise_apart_pieces (b : Bool) (text : List Char) : (pieces b text).Pairwise Apart := by
  induction text generalizing b with
  | nil => simp [pieces]
  | cons c rest ih =>
    by_cases hc : c = '~'
    · subst hc
      obtain ⟨p, ps, hp⟩ := exists_pieces_eq_cons true rest
      have ih := ih true
      by_cases hs : b = true ∨ Begins rest
      · rw [pieces_tilde_stuck hs, hp]
        refine Pairwise.onto_cons (hp ▸ ih) fun _ hnil => ?_
        subst hnil
        exact tail_eq_nil_of_pieces hp
      · obtain ⟨hb, hr⟩ := not_or.1 hs
        rw [Bool.not_eq_true] at hb
        subst hb
        rw [pieces_tilde_lone hr, hp]
        rw [hp] at ih
        refine List.pairwise_cons.2 ⟨fun q hq => ⟨by simp [Ends], ?_⟩, ih⟩
        rcases List.mem_cons.1 hq with rfl | hq
        · exact fun hbegins => hr (begins_of_head_pieces hp hbegins)
        · exact ((List.pairwise_cons.1 ih).1 q hq).2
    · obtain ⟨p, ps, hp⟩ := exists_pieces_eq_cons false rest
      rw [pieces_cons hc, hp]
      exact Pairwise.onto_cons (hp ▸ ih false) fun h => absurd h hc

/-! ## The last piece -/

/-- What cannot be cut in two stands at the end of the last piece. -/
theorem exists_pieces_append_escape (b : Bool) (front v : List Char) :
    ∃ ps p, pieces b (front ++ escape v) = ps ++ [p ++ escape v] := by
  induction front generalizing b with
  | nil => exact ⟨[], [], pieces_escape b v⟩
  | cons c front ih =>
    obtain hstuck | ⟨-, -, hlone⟩ := pieces_cons_cases b c (front ++ escape v)
    · obtain ⟨ps, p, h⟩ := ih (c = '~')
      rw [List.cons_append, hstuck, h]
      cases ps with
      | nil => exact ⟨[], c :: p, rfl⟩
      | cons q ps => exact ⟨(c :: q) :: ps, p, rfl⟩
    · obtain ⟨ps, p, h⟩ := ih true
      rw [List.cons_append, hlone, h]
      exact ⟨[] :: ps, p, rfl⟩

theorem eq_of_pieces_singleton {b : Bool} {text p : List Char} (h : pieces b text = [p]) :
    text = p := by
  induction text generalizing b p with
  | nil => simpa [pieces] using h
  | cons c rest ih =>
    obtain hstuck | ⟨-, -, hlone⟩ := pieces_cons_cases b c rest
    · obtain ⟨q, qs, hq⟩ := exists_pieces_eq_cons (c = '~') rest
      rw [hstuck, hq] at h
      simp only [onto, List.cons.injEq] at h
      obtain ⟨rfl, rfl⟩ := h
      rw [ih hq]
      rfl
    · rw [hlone] at h
      simp only [List.cons.injEq] at h
      exact absurd h.2 (pieces_ne_nil _ _)

/-- In front of the last of several pieces stands a lone tilde. -/
theorem exists_front_of_pieces {b : Bool} {text q : List Char} {ps : List (List Char)}
    (hps : ps ≠ []) (h : pieces b text = ps ++ [q]) :
    ∃ front, text = front ++ '~' :: q ∧ endsAfter b front = false := by
  induction text generalizing b ps with
  | nil =>
    have hlength := congrArg List.length h
    simp only [pieces, List.length_append, List.length_singleton] at hlength
    have hpos := List.length_pos_of_ne_nil hps
    omega
  | cons c rest ih =>
    obtain ⟨p, ps, rfl⟩ := List.exists_cons_of_ne_nil hps
    obtain hstuck | ⟨rfl, rfl, hlone⟩ := pieces_cons_cases b c rest
    · obtain ⟨r, rs, hr⟩ := exists_pieces_eq_cons (c = '~') rest
      rw [hstuck, hr] at h
      simp only [onto, List.cons_append, List.cons.injEq] at h
      rw [h.2] at hr
      obtain ⟨front, rfl, hends⟩ := ih (List.cons_ne_nil r ps) hr
      exact ⟨c :: front, rfl, hends⟩
    · rw [hlone] at h
      simp only [List.cons_append, List.cons.injEq] at h
      cases ps with
      | nil => exact ⟨[], by rw [eq_of_pieces_singleton h.2]; rfl, rfl⟩
      | cons r rs =>
        obtain ⟨front, rfl, hends⟩ := ih (List.cons_ne_nil r rs) h.2
        exact ⟨'~' :: front, rfl, hends⟩

/-! ## Rows of values -/

/-- Each value escaped, with a tilde behind it. -/
def row (values : List (List Char)) : List Char := values.flatMap fun v => escape v ++ ['~']

theorem row_cons (v : List Char) (values : List (List Char)) :
    row (v :: values) = escape v ++ '~' :: row values := by
  simp [row]

theorem row_concat (values : List (List Char)) (v : List Char) :
    row (values ++ [v]) = row values ++ escape v ++ ['~'] := by
  simp [row]

theorem intercalate_append_singleton (values : List (List Char)) (last : List Char) :
    List.intercalate ['~'] (values.map escape ++ [last]) = row values ++ last := by
  induction values with
  | nil => simp [row]
  | cons v rest ih =>
    rw [List.map_cons, List.cons_append, List.intercalate_cons_of_ne_nil (by simp), ih, row_cons]
    simp

/-- Values that are apart come back from a row, whatever stands behind it. -/
theorem pieces_row_append {values : List (List Char)} {rest : List Char} (b : Bool)
    (hfull : ∀ v ∈ values, v ≠ []) (h : values.IsChain Apart)
    (hrest : ∀ v ∈ values.getLast?, Apart v rest) :
    ∃ b', pieces b (row values ++ rest) = values.map escape ++ pieces b' rest := by
  induction values generalizing b with
  | nil => exact ⟨b, rfl⟩
  | cons v vs ih =>
    have hnext : Apart v (row vs ++ rest) := by
      cases vs with
      | nil => exact hrest v rfl
      | cons w ws =>
        have hw : escape w ≠ [] := mt escape_eq_nil_iff.1 (hfull w (by simp))
        obtain ⟨hv, hbegins⟩ := (List.isChain_cons_cons.1 h).1
        refine ⟨hv, ?_⟩
        rw [row_cons, List.append_assoc, Begins, List.head?_append_of_ne_nil _ hw, head?_escape]
        exact hbegins
    have hends : endsAfter b (escape v) = false := by
      rw [endsAfter_eq (mt escape_eq_nil_iff.1 (hfull v (by simp)))]
      simpa [Ends, getLast?_escape] using hnext.1
    have hlast : ∀ w ∈ vs.getLast?, Apart w rest := by
      cases vs with
      | nil => simp
      | cons w ws => rwa [List.getLast?_cons_cons] at hrest
    obtain ⟨b', hb'⟩ := ih true (fun w hw => hfull w (List.mem_cons_of_mem v hw)) h.tail hlast
    refine ⟨b', ?_⟩
    rw [row_cons, List.append_assoc, List.cons_append, pieces_append_lone hends hnext.2,
      pieces_escape, hb']
    rfl

end FacetSearch.Tilde
