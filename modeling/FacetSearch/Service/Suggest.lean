import FacetSearch.Index
import FacetSearch.Value.Access

/-!
# Suggestions

While a user types into a filter, the values that go on like the text are suggested: the passages
that the index highlights for it, each once, in the order of their first appearance. Before
anything is typed, the most common values of the field are.
-/

namespace FacetSearch

variable {σ : Type}

/-- The number of suggestions, unless a service sets another. -/
def suggestionSize : Value := .ofInt 20

/-- The keys of the buckets in an answer. -/
def bucketKeys (answer : Value) : Except Error (List Value) := do
  (← (← answer.memberOr "buckets" (.arr [])).elements).mapM fun bucket => bucket.member "key"

/-- The statistic of the most common values of a target, under its own name. -/
def targetTerms (size target : Value) : Except Error Aggregation := do
  return ⟨.terms size, ← target.toKey, target⟩

/-- The most common values of several fields under their aggregation targets, most common first.
Fields without a target are left out; if no field is left, the index is not asked. -/
def mostCommonValues (client : IndexClient σ) (fields : List Field) (size : Value) :
    Call σ (Record Key (List Value)) := do
  match fields.filterMap Field.target? with
  | [] => return []
  | targets =>
    let aggregations ← liftExcept (targets.mapM (targetTerms size))
    let response ← client.search {
      size := .ofInt 0
      aggregations
      requestCache := .bool true }
    let answers ← liftExcept response.aggregations.entries
    liftExcept <| answers.mapM fun e => do return (e.1, ← bucketKeys e.2)

/-- A passage at the end, unless it is there already. -/
def addPassage (found : List Value) (passage : Value) : List Value :=
  if found.any (·.eqv passage) then found else found ++ [passage]

/-- The different passages of one hit. A list or an object is no passage. -/
def passages (highlighted : List Value) : Except Error (List Value) :=
  highlighted.foldlM (fun found passage => passage.toKey.map fun _ => addPassage found passage) []

/-- The passages found so far and those of one more hit. -/
def addHit (field : String) (found : List Value) (hit : IndexHit) : Except Error (List Value) := do
  let highlighted ← hit.highlights.memberOr field .null
  if highlighted.isAbsent then return found
  return (← passages (← highlighted.elements)).foldl addPassage found

/-- The search for values that go on like a text: only the passages are asked for. -/
def suggestionRequest (size : Value) (field : String) (typed : Value) : IndexRequest where
  query := some (.phrasePrefix (.named field) typed)
  size := size
  source := .bool false
  highlight := .object [("pre_tags", .arr [.str ""]), ("post_tags", .arr [.str ""]),
    ("fields", .object [(field, .object [])])]

/-- The values that a user may want to insert. -/
def suggest (client : IndexClient σ) (size : Value) (field : Field) (typed : Value) :
    Call σ (List Value) := do
  if typed.eqv (.str "") then
    let common ← mostCommonValues client [field] size
    let target ← liftExcept ((field.target?.getD (.str "")).toKey)
    return (Record.get? common target).getD []
  else
    let response ← client.search (suggestionRequest size field.name typed)
    liftExcept (response.hits.foldlM (addHit field.name) [])

end FacetSearch
