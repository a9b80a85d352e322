import Mathlib.Data.List.Infix
import FacetSearch.Proofs.Cutting
import FacetSearch.Query.Clauses

/-!
# Normal search texts

Cutting a text at the separator ` OR `, leftmost first, leaves parts in which the separator does not
occur, and none but the last part has ` OR` at its end: with the space of the separator behind it,
that would have been found first. `splitOr_eq_iff` says that these parts are the only ones. In terms
of the words between spaces this means where the word `OR` may stand (`separator_infix_iff`), which
gives the clauses that a search text can have (`Normal`): from them a text can be written that is
read as these clauses again (`ofText_normal`).
-/

namespace FacetSearch.Clauses

/-- The word between clauses. -/
def orWord : List Char := ['O', 'R']

/-- What stands between two clauses. -/
def separator : List Char := [' ', 'O', 'R', ' ']

/-! ## Cutting at the separator -/

/-- The separator does not occur in any part, nor across the end of a part and the separator that
follows it. -/
structure Parts (parts : List (List Char)) : Prop where
  ne_nil : parts ≠ []
  inside : ∀ part ∈ parts, ¬ separator <:+: part
  across : ∀ part ∈ parts.dropLast, ¬ separator <:+: part ++ [' ']

theorem splitOr_ne_nil (text : List Char) : splitOr text ≠ [] := by
  fun_cases splitOr text <;> simp

/-- Where the separator does not begin, a character goes to the first part. -/
theorem splitOr_cons {c : Char} {rest : List Char} (h : ¬ separator <+: c :: rest) :
    splitOr (c :: rest) = (splitOr rest).modifyHead (c :: ·) := by
  rw [splitOr]
  · cases hrest : splitOr rest with
    | nil => exact absurd hrest (splitOr_ne_nil rest)
    | cons part parts => rfl
  · rintro rest' rfl rfl
    exact h ⟨rest', rfl⟩

theorem splitOr_of_not_infix {text : List Char} (h : ¬ separator <:+: text) :
    splitOr text = [text] := by
  induction text with
  | nil => rfl
  | cons c rest ih =>
    rw [splitOr_cons fun hprefix => h hprefix.isInfix,
      ih fun hin => h (hin.trans (List.suffix_cons c rest).isInfix)]
    rfl

/-- A separator that begins in front of another one ends no later than where that one begins. -/
theorem separator_prefix_append {part rest : List Char} (hne : part ≠ [])
    (h : separator <+: part ++ separator ++ rest) : separator <+: part ++ [' '] := by
  have hfront : part ++ [' '] <+: part ++ separator ++ rest := ⟨'O' :: 'R' :: ' ' :: rest, by
    simp [separator]⟩
  match part with
  | [_] => simp [separator] at h
  | [_, _] => simp [separator] at h
  | a :: b :: c :: tail =>
    exact List.prefix_of_prefix_length_le h hfront (by simp [separator])

theorem splitOr_append {part : List Char} (rest : List Char) (h : ¬ separator <:+: part ++ [' ']) :
    splitOr (part ++ separator ++ rest) = part :: splitOr rest := by
  induction part with
  | nil => rfl
  | cons c part ih =>
    have hstart : ¬ separator <+: c :: (part ++ separator ++ rest) := fun hprefix =>
      h (separator_prefix_append (List.cons_ne_nil c part) hprefix).isInfix
    have hrest : ¬ separator <:+: part ++ [' '] := fun hin =>
      h (hin.trans (List.suffix_cons c _).isInfix)
    rw [List.cons_append, List.cons_append, splitOr_cons hstart, ih hrest]
    rfl

/-- Nothing but separators gets lost. -/
theorem intercalate_splitOr (text : List Char) :
    List.intercalate separator (splitOr text) = text := by
  fun_induction splitOr text with
  | case1 => rfl
  | case2 rest ih =>
    rw [List.intercalate_cons_of_ne_nil (splitOr_ne_nil rest), ih]
    rfl
  | case3 c rest _ hnil _ => exact absurd hnil (splitOr_ne_nil rest)
  | case4 c rest _ part parts hrest ih =>
    rw [hrest] at ih
    rw [List.intercalate_cons_cons_left, ih]

theorem parts_splitOr (text : List Char) : Parts (splitOr text) := by
  fun_induction splitOr text with
  | case1 => exact ⟨by simp, by simp [separator], by simp⟩
  | case2 rest ih =>
    refine ⟨by simp, ?_, ?_⟩
    · rw [List.forall_mem_cons]
      exact ⟨by simp [separator], ih.inside⟩
    · rw [List.dropLast_cons_of_ne_nil ih.ne_nil, List.forall_mem_cons]
      exact ⟨by decide, ih.across⟩
  | case3 c rest _ hnil _ => exact absurd hnil (splitOr_ne_nil rest)
  | case4 c rest hstart part parts hrest ih =>
    have hnot : ¬ separator <+: c :: rest := by
      rintro ⟨rest', heq⟩
      cases heq
      exact hstart rest' rfl rfl
    have htext := intercalate_splitOr rest
    rw [hrest] at ih htext
    cases parts with
    | nil =>
      rw [List.intercalate_singleton] at htext
      subst htext
      refine ⟨by simp, ?_, by simp⟩
      rw [List.forall_mem_singleton, List.infix_cons_iff, not_or]
      exact ⟨hnot, ih.inside part (by simp)⟩
    | cons next parts =>
      have hfront : part ++ [' '] <+: rest := by
        rw [← htext, List.intercalate_cons_cons, List.append_assoc, List.prefix_append_right_inj]
        exact ⟨'O' :: 'R' :: ' ' :: List.intercalate separator (next :: parts), rfl⟩
      have hacross : ¬ separator <:+: c :: (part ++ [' ']) := by
        rw [List.infix_cons_iff, not_or]
        exact ⟨fun h => hnot (h.trans ((List.cons_prefix_cons).2 ⟨rfl, hfront⟩)),
          ih.across part (by simp)⟩
      refine ⟨by simp, ?_, ?_⟩
      · rw [List.forall_mem_cons]
        refine ⟨fun h => hacross (h.trans ?_), fun p hp => ih.inside p (List.mem_cons_of_mem _ hp)⟩
        exact (List.prefix_append (c :: part) [' ']).isInfix
      · rw [List.dropLast_cons_cons, List.forall_mem_cons]
        exact ⟨hacross, fun p hp => ih.across p (by simp [hp])⟩

/-- Parts of this kind are what a text is cut into. -/
theorem splitOr_eq_iff {text : List Char} {parts : List (List Char)} :
    splitOr text = parts ↔ List.intercalate separator parts = text ∧ Parts parts := by
  constructor
  · rintro rfl
    exact ⟨intercalate_splitOr text, parts_splitOr text⟩
  · rintro ⟨rfl, hparts⟩
    induction parts with
    | nil => exact absurd rfl hparts.ne_nil
    | cons part parts ih =>
      cases parts with
      | nil =>
        rw [List.intercalate_singleton]
        exact splitOr_of_not_infix (hparts.inside part (by simp))
      | cons next parts =>
        rw [List.intercalate_cons_cons, splitOr_append _ (hparts.across part (by simp)), ih]
        exact ⟨by simp, fun p hp => hparts.inside p (List.mem_cons_of_mem _ hp),
          fun p hp => hparts.across p (by simp [hp])⟩

/-! ## Words between spaces -/

/-- The separator occurs where `OR` is a word with others on both sides. -/
theorem separator_infix_iff {text : List Char} :
    separator <:+: text ↔ orWord ∈ (text.splitOn ' ').tail.dropLast := by
  rw [mem_inner_iff]
  constructor
  · rintro ⟨before, after, rfl⟩
    refine ⟨before.splitOn ' ', after.splitOn ' ', List.splitOn_ne_nil _ _,
      List.splitOn_ne_nil _ _, ?_⟩
    have hword : orWord.splitOn ' ' = [orWord] := by decide
    have htext : before ++ separator ++ after = before ++ ' ' :: (orWord ++ ' ' :: after) := by
      simp [separator, orWord]
    rw [htext, List.splitOn_append_cons_self, List.splitOn_append_cons_self, hword]
    rfl
  · rintro ⟨before, after, hbefore, hafter, hwords⟩
    have htext : List.intercalate [' '] (text.splitOn ' ') = text := List.intercalate_splitOn ' '
    rw [hwords, intercalate_append hbefore (by simp),
      List.intercalate_cons_of_ne_nil hafter] at htext
    rw [← htext]
    exact ⟨List.intercalate [' '] before, List.intercalate [' '] after, by simp [separator, orWord]⟩

theorem separator_infix_concat_iff {text : List Char} :
    separator <:+: text ++ [' '] ↔ orWord ∈ (text.splitOn ' ').tail := by
  rw [separator_infix_iff, List.splitOn_append_cons_self, List.splitOn_nil,
    List.tail_append_of_ne_nil (List.splitOn_ne_nil _ _), List.dropLast_concat]

/-! ## Clauses -/

/-- Clauses that a search text can have. Every clause has terms, and a term is a word that is not
blank. The word `OR` is a term only at the front of a clause or at the end of the last one. -/
structure Normal (clauses : List (List (List Char))) : Prop where
  ne_nil : ∀ clause ∈ clauses, clause ≠ []
  word : ∀ clause ∈ clauses, ∀ term ∈ clause, ' ' ∉ term ∧ ∃ c ∈ term, isBlank c = false
  front : ∀ clause ∈ clauses.dropLast, orWord ∉ clause.tail
  last : ∀ clause ∈ clauses.getLast?, orWord ∉ clause.tail.dropLast

theorem terms_sublist (part : List Char) : (terms part).Sublist (part.splitOn ' ') :=
  List.filter_sublist

theorem word_of_mem_terms {part term : List Char} (h : term ∈ terms part) :
    ' ' ∉ term ∧ ∃ c ∈ term, isBlank c = false := by
  obtain ⟨hword, hblank⟩ := List.mem_filter.1 h
  exact ⟨not_mem_of_mem_splitOn hword, by simpa using hblank⟩

theorem exists_part_of_mem_split {text : List Char} {clause : List (List Char)}
    (h : clause ∈ split text) : ∃ part ∈ splitOr text, terms part = clause ∧ clause ≠ [] := by
  obtain ⟨hmem, hne⟩ := List.mem_filter.1 h
  obtain ⟨part, hpart, rfl⟩ := List.mem_map.1 hmem
  exact ⟨part, hpart, rfl, by simpa using hne⟩

/-- What is read from a text is normal. -/
theorem normal_split (text : List Char) : Normal (split text) := by
  have hparts := parts_splitOr text
  refine ⟨fun clause h => ?_, fun clause h term hterm => ?_, fun clause h hor => ?_,
    fun clause h hor => ?_⟩
  · obtain ⟨_, -, -, hne⟩ := exists_part_of_mem_split h
    exact hne
  · obtain ⟨part, -, rfl, -⟩ := exists_part_of_mem_split h
    exact word_of_mem_terms hterm
  · have hmem := (dropLast_sublist_dropLast List.filter_sublist).subset h
    rw [← List.map_dropLast] at hmem
    obtain ⟨part, hpart, rfl⟩ := List.mem_map.1 hmem
    exact hparts.across part hpart
      (separator_infix_concat_iff.2 ((terms_sublist part).tail.subset hor))
  · obtain ⟨part, hpart, rfl, -⟩ := exists_part_of_mem_split (List.mem_of_getLast? h)
    exact hparts.inside part hpart
      (separator_infix_iff.2 ((dropLast_sublist_dropLast (terms_sublist part).tail).subset hor))

/-! ## Written clauses -/

/-- A clause written as a text. -/
def rowOf (clause : List (List Char)) : List Char := List.intercalate [' '] clause

/-- Clauses written as one text. -/
def textOf (clauses : List (List (List Char))) : List Char :=
  List.intercalate separator (clauses.map rowOf)

section Normal

variable {clauses : List (List (List Char))}

theorem Normal.splitOn_rowOf (h : Normal clauses) {clause : List (List Char)}
    (hclause : clause ∈ clauses) : (rowOf clause).splitOn ' ' = clause :=
  List.splitOn_intercalate ' ' (fun term hterm => (h.word clause hclause term hterm).1)
    (h.ne_nil clause hclause)

theorem Normal.not_mem_inner (h : Normal clauses) {clause : List (List Char)}
    (hclause : clause ∈ clauses) : orWord ∉ clause.tail.dropLast := by
  rcases List.eq_nil_or_concat' clauses with rfl | ⟨init, last, rfl⟩
  · cases hclause
  · rcases List.mem_append.1 hclause with hinit | hlast
    · intro hor
      refine h.front clause (by simpa using hinit) ((List.dropLast_sublist _).subset hor)
    · exact h.last clause (by simp [List.mem_singleton.1 hlast])

theorem Normal.parts (h : Normal clauses) (hne : clauses ≠ []) : Parts (clauses.map rowOf) := by
  refine ⟨by simpa using hne, ?_, ?_⟩
  · intro part hpart
    obtain ⟨clause, hclause, rfl⟩ := List.mem_map.1 hpart
    rw [separator_infix_iff, h.splitOn_rowOf hclause]
    exact h.not_mem_inner hclause
  · rw [← List.map_dropLast]
    intro part hpart
    obtain ⟨clause, hclause, rfl⟩ := List.mem_map.1 hpart
    rw [separator_infix_concat_iff, h.splitOn_rowOf (List.mem_of_mem_dropLast hclause)]
    exact h.front clause hclause

theorem Normal.terms_rowOf (h : Normal clauses) {clause : List (List Char)}
    (hclause : clause ∈ clauses) : terms (rowOf clause) = clause := by
  rw [terms, h.splitOn_rowOf hclause, List.filter_eq_self]
  intro term hterm
  simpa using (h.word clause hclause term hterm).2

/-- Normal clauses are read from the text written for them. -/
theorem split_textOf (h : Normal clauses) : split (textOf clauses) = clauses := by
  by_cases hne : clauses = []
  · subst hne
    rfl
  · have hcut : splitOr (textOf clauses) = clauses.map rowOf :=
      splitOr_eq_iff.2 ⟨rfl, h.parts hne⟩
    have hterms : (clauses.map rowOf).map terms = clauses := by
      rw [List.map_map]
      exact (List.map_congr_left fun clause hclause => h.terms_rowOf hclause).trans (List.map_id _)
    rw [split, hcut, hterms, List.filter_eq_self]
    intro clause hclause
    simpa using h.ne_nil clause hclause

end Normal

/-! ## Search texts -/

/-- The terms of clauses, each as its characters. -/
def chars (clauses : List (List String)) : List (List (List Char)) :=
  clauses.map (·.map String.toList)

theorem ofText_eq_iff {text : String} {clauses : List (List String)} :
    ofText text = clauses ↔ split text.toList = chars clauses := by
  constructor
  · rintro rfl
    simp [ofText, chars]
  · intro h
    simp [ofText, h, chars]

theorem toList_join (clauses : List (List String)) :
    (join clauses).toList = textOf (chars clauses) := by
  rw [join, String.toList_intercalate, textOf, chars, List.map_map, List.map_map]
  exact congrArg _ (List.map_congr_left fun clause _ => String.toList_intercalate)

theorem ofText_join {clauses : List (List String)} (h : Normal (chars clauses)) :
    ofText (join clauses) = clauses := by
  rw [ofText_eq_iff, toList_join, split_textOf h]

theorem normal_ofText (text : String) : Normal (chars (ofText text)) := by
  rw [← ofText_eq_iff.1 rfl]
  exact normal_split text.toList

/-- The clauses that search texts have are the normal ones. The text made of normal clauses has just
these, so making a text of the clauses of any text keeps them. -/
theorem ofText_normal (clauses : List (List String)) :
    ((∃ text, ofText text = clauses) ↔ Normal (chars clauses)) ∧
      (Normal (chars clauses) → ofText (join clauses) = clauses) ∧
      ∀ text, ofText (join (ofText text)) = ofText text := by
  refine ⟨⟨?_, fun h => ⟨join clauses, ofText_join h⟩⟩, ofText_join,
    fun text => ofText_join (normal_ofText text)⟩
  rintro ⟨text, rfl⟩
  exact normal_ofText text

/-- The word `OR` in all places where it may stand. -/
def orEverywhere : List (List String) := [["OR", "red"], ["OR"], ["OR", "blue", "OR"]]

theorem ofText_normal_orEverywhere :
    Normal (chars orEverywhere) ∧ join orEverywhere = "OR red OR OR OR OR blue OR" ∧
      ofText "OR red OR OR OR OR blue OR" = orEverywhere := by
  have h : Normal (chars orEverywhere) :=
    ⟨by decide, by simp [orEverywhere, chars, isBlank], by decide, by decide⟩
  have hjoin : join orEverywhere = "OR red OR OR OR OR blue OR" := by decide
  refine ⟨h, hjoin, ?_⟩
  rw [← hjoin]
  exact (ofText_normal orEverywhere).2.1 h

end FacetSearch.Clauses
