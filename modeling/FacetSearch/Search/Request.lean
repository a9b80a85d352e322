import FacetSearch.Filter.Link
import FacetSearch.Search.Seed
import FacetSearch.Sort

/-!
# Search requests

A request says what a user wants to see: a text, a filter for some of the fields, an order, and
one page of the results. `SearchRequest.ofParams` reads it from the parameters of a link. A page
parameter is read as far as it is a number; one that does not begin with a number asks for page 0,
which no search delivers.
-/

namespace FacetSearch

/-- One page of one search. -/
structure SearchRequest where
  text : Value := .str ""
  filters : Record String FilterSlot := []
  page : Value := .ofInt 1
  sortKey : SortKey := .relevance
  seed : Value := .str ""
  perPage : Value := .ofInt 20

/-- The integer that a text begins with, white space in front of it aside, and 0 without one. -/
def leadingInteger (text : List Char) : Except Error Int :=
  let (negative, body) := splitSign (text.dropWhile isBlank)
  let digits := body.takeWhile Char.isDigit
  if digits.isEmpty then .ok 0
  else (readDigits digits).map fun n => if negative then -(n : Int) else n

/-- The page that a parameter asks for; without one it is the first. -/
def pageOfParam : Value → Except Error Int
  | .null => .ok 1
  | .bool b => (Value.bool b).toInteger
  | .num n => n.truncate
  | v => do leadingInteger (← v.text).toList

/-- The parameter under a name, or nothing. -/
def param (params : Record Key Value) (name : String) : Value :=
  (Record.get? params (.str name)).getD .null

namespace SearchRequest

/-- The request that parameters make, for a catalog, a default seed and a page size. -/
def ofParams (catalog : Catalog) (seed : SeedSource) (perPage : Value)
    (params : Record Key Value) : Except Error SearchRequest := do
  let seed ← seed.seedFor (param params "seed")
  let text ← ((param params "q").orElse (.str "")).text
  let filters ← Filter.ofParams params catalog.filterable
  let page ← pageOfParam (param params "page")
  return {
    text := .str text
    filters := filters.map fun e => (e.1, .filter e.2)
    page := .ofInt page
    sortKey := .parse (param params "sortBy")
    seed := .str (← seed.text)
    perPage }

end SearchRequest

end FacetSearch
