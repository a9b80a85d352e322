import FacetSearch.Filter

/-!
# Filters written as tokens

The texts of integer and boolean filters are tokens with a `~` between them. An integer token gives
a lower bound (`≥`) or an upper one (`≤`): a decimal without leading zeros, at most `boundLimit`, or
nothing at all, which takes the bound away again. A boolean token is `1` or `0`. The token
`unknown` lets documents without a value pass. Of several tokens for the same thing the last one
counts, and tokens of no such form do not count at all.
-/

namespace FacetSearch

/-- The largest bound, two to the thirtieth: well within what the index stores as an integer. -/
def boundLimit : Nat := 1073741824

/-- What an integer token says. -/
inductive IntegerToken where
  | minimum (bound : Option Int)
  | maximum (bound : Option Int)
  | unknown
  | malformed
  deriving DecidableEq

/-- A decimal without leading zeros. -/
def isCanonicalDecimal : List Char → Bool
  | [] => false
  | ['0'] => true
  | c :: rest => c.isDigit && c ≠ '0' && rest.all Char.isDigit

/-- The bound that a text gives: none at all for the empty text, and nothing for a text that is no
bound. -/
def readBound (text : List Char) : Except Error (Option (Option Int)) :=
  if text.isEmpty then .ok (some none)
  else if isCanonicalDecimal text then
    (readDigits text).map fun n => if boundLimit < n then none else some (some (n : Int))
  else .ok none

namespace IntegerToken

def read (token : List Char) : Except Error IntegerToken :=
  if token = "unknown".toList then .ok unknown
  else
    match token with
    | '≥' :: text => (readBound text).map fun b => b.elim malformed minimum
    | '≤' :: text => (readBound text).map fun b => b.elim malformed maximum
    | _ => .ok malformed

/-- The minimum, maximum and flag after one more token. -/
def apply : Option Int × Option Int × Bool → IntegerToken → Option Int × Option Int × Bool
  | (_, high, flag), minimum bound => (bound, high, flag)
  | (low, _, flag), maximum bound => (low, bound, flag)
  | (low, high, _), unknown => (low, high, true)
  | state, malformed => state

end IntegerToken

namespace IntegerFilter

def decode (text : List Char) : Except Error IntegerFilter := do
  let tokens ← (text.splitOn '~').mapM IntegerToken.read
  let (minimum, maximum, includeUnknown) := tokens.foldl IntegerToken.apply (none, none, false)
  return .of (.ofInt? minimum) (.ofInt? maximum) (.bool includeUnknown)

/-- The token for a bound that is there. -/
def boundToken (sign : String) (bound : Value) : Except Error (List String) :=
  if bound.isNull then .ok [] else bound.text.map fun text => [sign ++ text]

def encode (f : IntegerFilter) : Except Error String := do
  let minimum ← boundToken "≥" f.minimum
  let maximum ← boundToken "≤" f.maximum
  return String.intercalate "~"
    (minimum ++ maximum ++ if f.includeUnknown.isPresent then ["unknown"] else [])

end IntegerFilter

namespace BooleanFilter

/-- The value and flag after one more token. -/
def apply : Option Bool × Bool → List Char → Option Bool × Bool
  | (value, flag), token =>
    if token = "unknown".toList then (value, true)
    else if token = ['1'] then (some true, flag)
    else if token = ['0'] then (some false, flag)
    else (value, flag)

def decode (text : List Char) : BooleanFilter :=
  let (value, includeUnknown) := (text.splitOn '~').foldl apply (none, false)
  .of (.ofBool? value) (.bool includeUnknown)

def encode (f : BooleanFilter) : String :=
  String.intercalate "~" <|
    (if f.value.isNull then [] else if f.value.isPresent then ["1"] else ["0"]) ++
    (if f.includeUnknown.isPresent then ["unknown"] else [])

end BooleanFilter

end FacetSearch
