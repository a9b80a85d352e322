import FacetSearch.Facet
import FacetSearch.Query.Clauses
import FacetSearch.Search.Request

/-!
# Search plans

A plan is everything that the index needs for one search: the query, the sort, the statistics, and
the window of results. `SearchPlan.ofRequest` makes it from a request.

The query is an "all of" over the search text and one clause per filter that restricts anything.
Each term of the text has to be found in some freetext field, terms may be found in different
ones, and one clause of the text is enough. Filters on fields outside the catalog are passed over.
Without search text all documents score alike, so they are put in random order.

A plan fails, in this order, if the page lies outside the result window, if a filter does not fit
the type of its field, and if a filterable field cannot have statistics. Before all of these a page
or window that is no number fails, before the filters a boost that cannot be written or a search
text that is none. The message for a page outside the window and the line that is put on the log for
a plan are made of values, and fail where a number in them is too long to be written.
-/

namespace FacetSearch

namespace Filter

/-- The clauses for bounds that are there. -/
def boundQueries (field : String) (minimum maximum : Value) : List Query :=
  (if minimum.isNull then [] else [.range (.named field) minimum .null]) ++
    (if maximum.isNull then [] else [.range (.named field) .null maximum])

/-- A query, or that no value is there. -/
def orUnknown (field : String) (includeUnknown : Value) (query : Query) : Query :=
  if includeUnknown.isPresent then .anyOf [query, .missing (.str field)] else query

/-- The query for a range. -/
def integerQuery? (field : String) (f : IntegerFilter) : Option Query :=
  match boundQueries field f.minimum f.maximum with
  | [] => none
  | bounds => some (orUnknown field f.includeUnknown (.allOf bounds))

def booleanQuery? (field : String) (f : BooleanFilter) : Option Query :=
  if f.value.isNull then none
  else some (orUnknown field f.includeUnknown (.term (.named field) f.value))

def stringQuery? (field : Field) (f : StringFilter) : Option Query :=
  let alternatives :=
    f.values.map (.term (.named field.exactName)) ++
      (if f.includeUnknown.isPresent then [.missing (.str field.name)] else [])
  if alternatives.isEmpty then none else some (.anyOf alternatives)

end Filter

/-- The query for a filter on a field, if it restricts anything. A filter of another type than the
field's is refused. -/
def FilterSlot.query? (slot : FilterSlot) (field : Field) : Except Error (Option Query) :=
  match field.type, slot with
  | .integer, filter (.integer f) => .ok (Filter.integerQuery? field.name f)
  | .boolean, filter (.boolean f) => .ok (Filter.booleanQuery? field.name f)
  | .string, filter (.string f) => .ok (Filter.stringQuery? field f)
  | _, _ => .error (.unsupportedFilter slot.kindName field.name field.type)

namespace Catalog

/-- The query for one filter of a request. A field outside the catalog and an empty filter make
none. -/
def filterQuery? (c : Catalog) (entry : String × FilterSlot) : Except Error (Option Query) :=
  match c.find? entry.1 with
  | none => .ok none
  | some field => do
    if ← entry.2.isEmpty then return none
    entry.2.query? field

/-- The queries for the filters of a request, in its order. -/
def filterQueries (c : Catalog) (filters : Record String FilterSlot) :
    Except Error (List Query) :=
  (filters.mapM c.filterQuery?).map (·.filterMap id)

/-- The freetext fields with their boosts. -/
def boostedNames (c : Catalog) : Except Error (List String) := c.freetext.mapM Field.boostedName

/-- The letters a term must begin with as written, however fuzzily the rest is compared. -/
def fuzzyLength : Int := 2

/-- A term in any of the fields. -/
def termQuery (fields : List String) (term : String) : Query :=
  .acrossFields {} (.str term) (.arr (fields.map .str)) (.str "most_fields") (.str "AUTO")
    (.ofInt fuzzyLength)

/-- The query for a search text, if it has any terms. -/
def textQuery? (c : Catalog) (text : Value) : Except Error (Option Query) := do
  let fields ← c.boostedNames
  match Clauses.ofText (← text.toText) with
  | [] => return none
  | clauses => return some (.anyOf (clauses.map fun terms => .allOf (terms.map (termQuery fields))))

end Catalog

/-- What an index needs for one search. -/
structure SearchPlan where
  query : Query
  sort : List SortCriterion
  aggregations : List Aggregation
  offset : Value
  size : Value
  /-- The request had a search text. -/
  hasQuery : Bool

/-- How far results can be paged through, and the field that tells documents apart. -/
structure PlanSettings where
  maxResultWindow : Value := .ofInt 5000
  idField : Value := .str "id"

namespace SearchRequest

/-- The page begins before the first result or ends behind the last that can be reached. -/
def isOutside (r : SearchRequest) (window : Value) : Except Error Bool := do
  if ← r.page.lt (.ofInt 1) then return true
  window.lt (← r.page.mul r.perPage)

/-- The failure of a page outside the window. -/
def outOfRange (r : SearchRequest) (window : Value) : Except Error Error := do
  return .outOfRange (← r.page.text) (← r.perPage.text) (← window.text)

/-- The number of results before the page. -/
def offset (r : SearchRequest) : Except Error Value := do
  r.perPage.mul (← r.page.sub (.ofInt 1))

end SearchRequest

namespace SearchPlan

/-- All clauses, or every document if there are none. -/
def combine (clauses : List Query) : Query :=
  .allOf (if clauses.isEmpty then [.matchAll {}] else clauses)

/-- The query of a plan: without search text, or when asked for, in random order. -/
def queryOf (settings : PlanSettings) (r : SearchRequest) (text? : Option Query)
    (filters : List Query) : Query :=
  let query := combine (text?.toList ++ filters)
  if r.sortKey = .random ∨ text?.isNone then .shuffled { field := settings.idField } query r.seed
  else query

/-- What is put on the log for a plan. -/
def logLine (p : SearchPlan) : Except Error String := do
  return "Built search query: " ++ (← (← p.query.render).text)

/-- The plan, once it is on the log. -/
def logged (p : SearchPlan) : Except Error SearchPlan := do
  let _ ← p.logLine
  return p

/-- The plan for a request. -/
def ofRequest (catalog : Catalog) (settings : PlanSettings) (r : SearchRequest) :
    Except Error SearchPlan := do
  if ← r.isOutside settings.maxResultWindow then
    throw (← r.outOfRange settings.maxResultWindow)
  let text? ← catalog.textQuery? r.text
  let filters ← catalog.filterQueries r.filters
  let aggregations ← Aggregation.plan catalog.filterable
  logged {
    query := queryOf settings r text? filters
    sort := r.sortKey.criteria
    aggregations
    offset := ← r.offset
    size := r.perPage
    hasQuery := text?.isSome }

end SearchPlan

end FacetSearch
