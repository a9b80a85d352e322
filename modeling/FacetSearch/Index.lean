import FacetSearch.Facet
import FacetSearch.Sort

/-!
# Indexes

An index answers search requests with hits and statistics, knows its own id for the id of a
document, and counts the terms of a document's fields. The library reaches it through an
`IndexClient` only: three calls and a last one. A call may fail, and it may change the state `σ`
behind the client, a failed call too.
-/

namespace FacetSearch

/-- One search of the index. -/
structure IndexRequest where
  query : Option Query := none
  offset : Value := .ofInt 0
  size : Value := .ofInt 10
  /-- Without criteria the index has an order of its own. -/
  sort : Option (List SortCriterion) := none
  aggregations : List Aggregation := []
  /-- The document fields that come with a hit: their names, false for none, null for all. -/
  source : Value := .null
  highlight : Value := .null
  /-- The answer may come from the index's cache. -/
  requestCache : Value := .bool false

/-- The parameters of a search, under the names of the search interface. What is not asked for is
left out. A query that cannot be written makes none. -/
def IndexRequest.body (r : IndexRequest) : Except Error (Record String Value) := do
  let query ← r.query.mapM Query.render
  return ("size", r.size) ::
    ((query.toList.map fun q => ("query", q)) ++
    r.offset.memberIfPresent "from" ++
    (r.sort.toList.map fun criteria => ("sort", .arr (criteria.map SortCriterion.render))) ++
    (if r.aggregations.isEmpty then []
      else [("aggs", .obj (Aggregation.renderAll r.aggregations))]) ++
    r.source.memberIfGiven "_source" ++
    r.highlight.memberIfGiven "highlight" ++
    (if r.requestCache.isPresent then [("request_cache", .bool true)] else []))

/-- A document found. -/
structure IndexHit where
  internalId : Value
  score : Value := .null
  /-- The document's fields, by name. -/
  source : Value := .obj []
  /-- The passages of each field that made the document be found. -/
  highlights : Value := .obj []

structure IndexResponse where
  hits : List IndexHit := []
  total : Value := .ofInt 0
  aggregations : Value := .obj []

/-- How often a document has a term, and how many documents have it. -/
structure TermCount where
  termFreq : Value := .ofInt 0
  docFreq : Value := .ofInt 0

/-- The terms of one field of a document, and how many documents have the field. -/
structure TermVector where
  docCount : Value := .ofInt 0
  terms : Record Key TermCount := []

/-- A computation that calls an index in state `σ`. -/
abbrev Call (σ : Type) := ExceptT Error (StateM σ)

structure IndexClient (σ : Type) where
  search : IndexRequest → Call σ IndexResponse
  /-- The index's own id of a document, if it has the document. -/
  lookup : Value → Call σ (Option Value)
  /-- The terms of those of the fields that the document has. -/
  termVectors : Value → List Value → Call σ (Record Key TermVector)
  close : Call σ Unit := pure ()

end FacetSearch
