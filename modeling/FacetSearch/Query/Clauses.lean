import FacetSearch.Text.Blank

/-!
# Clauses of a search text

A search text is a choice of clauses with ` OR ` between them; a clause is a row of terms with
spaces between them, all of which are wanted. Terms of blanks alone and clauses without terms are
dropped. Only spaces separate: other white space is part of a term.
-/

namespace FacetSearch.Clauses

/-- The parts of a text between the occurrences of ` OR `, found from the left. -/
def splitOr : List Char → List (List Char)
  | [] => [[]]
  | ' ' :: 'O' :: 'R' :: ' ' :: rest => [] :: splitOr rest
  | c :: rest =>
    match splitOr rest with
    | [] => [[c]]
    | part :: parts => (c :: part) :: parts

/-- The terms of one clause. -/
def terms (clause : List Char) : List (List Char) :=
  (clause.splitOn ' ').filter fun term => !term.all isBlank

/-- The clauses of a text, each with its terms. -/
def split (text : List Char) : List (List (List Char)) :=
  ((splitOr text).map terms).filter (!·.isEmpty)

/-- The clauses of a search text. -/
def ofText (text : String) : List (List String) :=
  (split text.toList).map (·.map String.ofList)

/-- A text with the given clauses. -/
def join (clauses : List (List String)) : String :=
  String.intercalate " OR " (clauses.map (String.intercalate " "))

end FacetSearch.Clauses
