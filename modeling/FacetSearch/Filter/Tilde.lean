/-!
# Values joined by tildes

A string filter is written as its values with a `~` between neighbours and every `~` inside a value
doubled. The word `unknown` lets documents without a value pass; it stands in the options slot, a
last run closed by one more `~`, or follows the values behind a single `~` at the very end.

Reading (`decode`) takes the options off first, then cuts what is left at every `~` without a
neighbouring `~`, and only then halves the doubled ones. Any text can be read: options other than
`unknown` and empty values are dropped.
-/

namespace FacetSearch.Tilde

/-- The word for documents without a value. -/
def unknownWord : List Char := "unknown".toList

/-- Every tilde is doubled. -/
def escape : List Char → List Char
  | [] => []
  | c :: rest => if c = '~' then '~' :: '~' :: escape rest else c :: escape rest

/-- Of every two tildes in a row, read from the left, one is left out. -/
def unescape : List Char → List Char
  | [] => []
  | '~' :: '~' :: rest => '~' :: unescape rest
  | c :: rest => c :: unescape rest

/-- A character in front of the first piece. -/
def consHead (c : Char) : List (List Char) → List (List Char)
  | [] => [[c]]
  | piece :: pieces => (c :: piece) :: pieces

/-- The pieces between the tildes that stand alone. The flag says whether a tilde was just read. -/
def pieces : Bool → List Char → List (List Char)
  | _, [] => [[]]
  | afterTilde, c :: rest =>
    if c = '~' then
      if afterTilde || rest.head? = some '~' then consHead '~' (pieces true rest)
      else [] :: pieces true rest
    else consHead c (pieces false rest)

/-- What stands before the last tilde, that tilde included, and the run behind it. -/
def splitLastRun (text : List Char) : List Char × List Char :=
  ((text.reverse.dropWhile (· ≠ '~')).reverse, (text.reverse.takeWhile (· ≠ '~')).reverse)

theorem splitLastRun_append (text : List Char) :
    (splitLastRun text).1 ++ (splitLastRun text).2 = text := by
  rw [splitLastRun, ← List.reverse_append, List.takeWhile_append_dropWhile, List.reverse_reverse]

/-- The options of a text that ends in a run and one tilde: whether they let documents without a
value pass, and the text before them. -/
def optionsSlot? (text : List Char) : Option (Bool × List Char) :=
  if text.getLast? = some '~' then
    let (rest, options) := splitLastRun text.dropLast
    if options.isEmpty then none else some (options = unknownWord, rest)
  else none

/-- The text before a tilde that stands alone and the word `unknown` at the end. -/
def unknownSuffix? (text : List Char) : Option (List Char) :=
  let (rest, suffix) := splitLastRun text
  if suffix = unknownWord ∧ rest.getLast? = some '~' ∧ rest.dropLast.getLast? ≠ some '~' then
    some rest.dropLast
  else none

/-- Whether documents without a value pass, and the text of the values. -/
def splitOptions (text : List Char) : Bool × List Char :=
  match optionsSlot? text with
  | some found => found
  | none =>
    match unknownSuffix? text with
    | some rest => (true, rest)
    | none => (false, text)

/-- The values in a text without options. -/
def valuesOf (text : List Char) : List (List Char) :=
  ((pieces false text).filter (!·.isEmpty)).map unescape

def decode (text : List Char) : List (List Char) × Bool :=
  let (includeUnknown, rest) := splitOptions text
  (valuesOf rest, includeUnknown)

def encode (values : List (List Char)) (includeUnknown : Bool) : List Char :=
  if includeUnknown then
    List.intercalate ['~'] (values.map escape ++ [unknownWord]) ++ ['~']
  else List.intercalate ['~'] (values.map escape)

theorem unescape_escape (text : List Char) : unescape (escape text) = text := by
  induction text with
  | nil => rfl
  | cons c rest ih =>
    by_cases h : c = '~'
    · simp [escape, h, unescape, ih]
    · simp only [escape, h, if_false]
      rw [unescape, ih]
      exact fun _ hc => absurd hc h

end FacetSearch.Tilde
