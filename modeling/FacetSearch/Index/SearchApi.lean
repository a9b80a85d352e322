import FacetSearch.Index
import FacetSearch.Value.Access

/-!
# Indexes behind a search interface

A search interface takes named arguments and answers with objects of no fixed shape. `client` makes
an `IndexClient` of it: requests are sent under the interface's names, and answers are read for
what they hold, with nothing, an empty section and a missing one meaning the same. An
answer of the wrong shape is a fault; errors of the interface pass through unchanged, and a request
that cannot be written is never sent.
-/

namespace FacetSearch

namespace SearchApi

/-- An answer: a plain value, or a response that carries it as its body. -/
inductive Reply where
  | plain (v : Value)
  | wrapped (body : Value)

def Reply.body : Reply → Value
  | plain v => v
  | wrapped v => v

/-- The calls of the interface, each with its arguments by name. -/
structure Backend (σ : Type) where
  search : Record String Value → Call σ Reply
  termVectors : Record String Value → Call σ Reply
  close : Call σ Unit

/-- Where the index is and how to reach it. -/
structure Config where
  hosts : Value := .arr [.str "http://localhost:9200"]
  indexName : Value := .str "adventures"
  apiKey : Value := .str ""
  cloudId : Value := .str ""
  /-- Seconds to wait for an answer. -/
  requestTimeout : Value := .null
  idField : Value := .str "id"

/-- The arguments of a connection: to the cloud if an id is given, to the hosts otherwise. -/
def Config.connection (c : Config) : Record String Value :=
  (if c.cloudId.isPresent then ("cloud_id", c.cloudId) else ("hosts", c.hosts)) ::
    (c.apiKey.memberIfPresent "api_key" ++ c.requestTimeout.memberIfGiven "request_timeout")

/-- The name under which the interface takes a parameter. -/
def argumentName : String → String
  | "from" => "from_"
  | "_source" => "source"
  | key => key

/-- The arguments of a search. -/
def searchArguments (c : Config) (r : IndexRequest) : Except Error (Record String Value) := do
  return Record.set ((← r.body).map fun e => (argumentName e.1, e.2)) "index" c.indexName

/-- The arguments of the search for the document of an id. -/
def lookupArguments (c : Config) (id : Value) : Except Error (Record String Value) := do
  return [("index", c.indexName), ("query", ← (Query.term { field := c.idField } id).render),
    ("source", .bool false), ("size", .ofInt 1)]

/-- The arguments of a request for term statistics. -/
def termVectorArguments (c : Config) (id : Value) (fields : List Value) : Record String Value :=
  [("index", c.indexName), ("id", id), ("fields", .arr fields),
    ("positions", .bool false), ("offsets", .bool false), ("payloads", .bool false),
    ("term_statistics", .bool true), ("realtime", .bool false)]

/-- A member of an object, or something else if it says nothing. -/
def section? (v : Value) (key : String) (otherwise : Value) : Except Error Value := do
  return (← v.memberOr key .null).orElse otherwise

def readHit (v : Value) : Except Error IndexHit := do
  let internalId ← v.memberOr "_id" (.str "")
  let score ← v.memberOr "_score" .null
  let source ← (← section? v "_source" (.obj [])).toEntries
  let highlights ← (← (← section? v "highlight" (.obj [])).entries).mapM fun e => do
    return (e.1, .arr (← e.2.elements))
  return { internalId, score, source := .obj source, highlights := .obj highlights }

/-- The number of hits in all, which may be written as an object. -/
def totalOf (hits : Value) : Except Error Value := do
  match ← hits.memberOr "total" (.ofInt 0) with
  | .obj entries => return (Record.get? entries (.str "value")).getD (.ofInt 0)
  | total => return total

/-- The response in an answer to a search. -/
def readResponse (v : Value) : Except Error IndexResponse := do
  let found ← section? v "hits" (.obj [])
  let total ← totalOf found
  let hits ← (← (← found.memberOr "hits" (.arr [])).elements).mapM readHit
  let total ← (total.orElse (.ofInt 0)).toInteger
  let aggregations ← (← section? v "aggregations" (.obj [])).toEntries
  return { hits, total := .ofInt total, aggregations := .obj aggregations }

/-- The index's id in an answer to the search for a document: it is the only hit. -/
def readLookup (v : Value) : Except Error (Option Value) := do
  let hits ← (← v.member "hits").member "hits"
  match ← hits.elements with
  | [_] =>
    let id ←
      match hits with
      | .arr (hit :: _) => hit.member "_id"
      | .obj _ => throw (.fault .absentKey)
      | _ => throw (.fault .notIndexable)
    return if id.isNull then none else some id
  | _ => return none

/-- A count among statistics. -/
def countOf (v : Value) (key : String) : Except Error Int := do
  (← v.memberOr key (.ofInt 0)).toInteger

def readTermVector (v : Value) : Except Error TermVector := do
  let docCount ← countOf (← v.memberOr "field_statistics" (.obj [])) "doc_count"
  let terms ← (← (← section? v "terms" (.obj [])).entries).mapM fun e => do
    let termFreq ← countOf e.2 "term_freq"
    let docFreq ← countOf e.2 "doc_freq"
    return (e.1, { termFreq := .ofInt termFreq, docFreq := .ofInt docFreq })
  return { docCount := .ofInt docCount, terms }

/-- The term vectors in an answer, by field. -/
def readTermVectors (v : Value) : Except Error (Record Key TermVector) := do
  (← (← section? v "term_vectors" (.obj [])).entries).mapM fun e => do
    return (e.1, ← readTermVector e.2)

/-- The client for one index of a search interface. -/
def client {σ : Type} (c : Config) (backend : Backend σ) : IndexClient σ where
  search r := do
    let arguments ← liftExcept (searchArguments c r)
    let reply ← backend.search arguments
    liftExcept (readResponse reply.body)
  lookup id := do
    let arguments ← liftExcept (lookupArguments c id)
    let reply ← backend.search arguments
    liftExcept (readLookup reply.body)
  termVectors id fields := do
    let reply ← backend.termVectors (termVectorArguments c id fields)
    liftExcept (readTermVectors reply.body)
  close := backend.close

end SearchApi

end FacetSearch
