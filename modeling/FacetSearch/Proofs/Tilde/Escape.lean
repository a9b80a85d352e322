import FacetSearch.Filter.Tilde

/-!
# Escaped texts

`Begins` and `Ends` say that a text has a tilde at its edge. Escaping and unescaping keep both
edges (`head?_escape`, `getLast?_unescape`), and neither makes a text empty or takes a text without
tildes apart. These are the facts about values that the grammar of joined values rests on.
-/

namespace FacetSearch.Tilde

/-- The text begins with a tilde. -/
abbrev Begins (text : List Char) : Prop := text.head? = some '~'

/-- The text ends with a tilde. -/
abbrev Ends (text : List Char) : Prop := text.getLast? = some '~'

theorem escape_tilde (rest : List Char) : escape ('~' :: rest) = '~' :: '~' :: escape rest := rfl

theorem escape_cons {c : Char} (h : c ≠ '~') (rest : List Char) :
    escape (c :: rest) = c :: escape rest := by
  rw [escape, if_neg h]

theorem escape_eq_nil_iff {text : List Char} : escape text = [] ↔ text = [] := by
  cases text with
  | nil => simp [escape]
  | cons c rest => by_cases h : c = '~' <;> simp [escape, h]

theorem escape_append (v w : List Char) : escape (v ++ w) = escape v ++ escape w := by
  induction v with
  | nil => rfl
  | cons c v ih =>
    by_cases h : c = '~'
    · subst h
      rw [List.cons_append, escape_tilde, ih, escape_tilde, List.cons_append, List.cons_append]
    · rw [List.cons_append, escape_cons h, ih, escape_cons h, List.cons_append]

theorem head?_escape (text : List Char) : (escape text).head? = text.head? := by
  cases text with
  | nil => rfl
  | cons c rest => by_cases h : c = '~' <;> simp [escape, h]

theorem getLast?_escape (text : List Char) : (escape text).getLast? = text.getLast? := by
  induction text with
  | nil => rfl
  | cons c rest ih =>
    by_cases h : c = '~'
    · subst h
      rw [escape_tilde, List.getLast?_cons_cons, List.getLast?_cons, List.getLast?_cons, ih]
    · rw [escape_cons h, List.getLast?_cons, List.getLast?_cons, ih]

theorem escape_eq_self {text : List Char} (h : '~' ∉ text) : escape text = text := by
  induction text with
  | nil => rfl
  | cons c rest ih =>
    simp only [List.mem_cons, not_or] at h
    rw [escape_cons (Ne.symm h.1), ih h.2]

theorem unescape_escape_append (v rest : List Char) :
    unescape (escape v ++ rest) = v ++ unescape rest := by
  induction v with
  | nil => rfl
  | cons c v ih =>
    by_cases h : c = '~'
    · subst h
      rw [escape_tilde, List.cons_append, List.cons_append, unescape, ih, List.cons_append]
    · rw [escape_cons h, List.cons_append, unescape, ih, List.cons_append]
      exact fun _ hc => absurd hc h

theorem unescape_eq_nil_iff {text : List Char} : unescape text = [] ↔ text = [] := by
  fun_cases unescape text <;> simp

theorem head?_unescape (text : List Char) : (unescape text).head? = text.head? := by
  fun_cases unescape text <;> simp

theorem getLast?_unescape (text : List Char) : (unescape text).getLast? = text.getLast? := by
  fun_induction unescape text with
  | case1 => rfl
  | case2 rest ih => rw [List.getLast?_cons_cons, List.getLast?_cons, List.getLast?_cons, ih]
  | case3 c rest _ ih => rw [List.getLast?_cons, List.getLast?_cons, ih]

/-- Only doubled tildes are changed, and each leaves one. -/
theorem eq_of_unescape {text word : List Char} (hword : '~' ∉ word) (h : unescape text = word) :
    text = word := by
  fun_induction unescape text generalizing word with
  | case1 => exact h
  | case2 rest ih =>
    subst h
    exact absurd List.mem_cons_self hword
  | case3 c rest _ ih =>
    subst h
    simp only [List.mem_cons, not_or] at hword
    exact congrArg (c :: ·) (ih hword.2 rfl)

theorem tilde_not_mem_unknownWord : '~' ∉ unknownWord := by decide

theorem not_begins_unknownWord : ¬ Begins unknownWord := by decide

end FacetSearch.Tilde
