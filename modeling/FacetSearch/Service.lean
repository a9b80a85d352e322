import FacetSearch.Facet.Stat
import FacetSearch.Search.Plan
import FacetSearch.Service.Similar
import FacetSearch.Service.Suggest
import FacetSearch.Week

/-!
# The search service

A service answers searches over one index: it reads requests from parameters, plans and runs
searches, and finds similar titles, similar documents and suggestions. It keeps nothing between
calls. Failures of the index reach the caller as they are, and a request that cannot be planned
never reaches the index.
-/

namespace FacetSearch

/-- A result as it is shown: the index's id, the score, and the document's fields. -/
structure SearchHit where
  id : Value
  score : Value := .null
  fields : Record Key Value := []

namespace SearchHit

def ofIndexHit (hit : IndexHit) : Except Error SearchHit := do
  return ⟨hit.internalId, hit.score, ← hit.source.toEntries⟩

/-- The value of a field, or another one if the document has none. -/
def get (hit : SearchHit) (field : Key) (default : Value) : Value :=
  (Record.get? hit.fields field).getD default

end SearchHit

/-- One page of results. -/
structure SearchResult (α : Type) where
  hits : List α
  totalHits : Value
  /-- There are results beyond this page. -/
  hasMore : Bool
  stats : Record String FieldStat

namespace SearchResult

variable {α : Type}

/-- What is put on the log for a page of results. The hits on it are never too many to be written. -/
def logLine (result : SearchResult α) (page : Value) : Except Error String := do
  return "Search page " ++ (← page.text) ++ " returned " ++ toString result.hits.length ++ " of " ++
    (← result.totalHits.text) ++ " hits"

/-- The page of results, once it is on the log. -/
def logged (result : SearchResult α) (page : Value) : Except Error (SearchResult α) := do
  let _ ← result.logLine page
  return result

end SearchResult

structure ServiceConfig where
  perPage : Value := .ofInt 20
  maxResultWindow : Value := .ofInt 5000
  idField : Value := .str "id"
  suggestionSize : Value := FacetSearch.suggestionSize
  similarity : SimilarityConfig := {}

/-- A search service over an index in state `σ`, which shows results as `α`. -/
structure Service (σ α : Type) where
  catalog : Catalog
  client : IndexClient σ
  config : ServiceConfig
  seed : SeedSource
  mapHit : IndexHit → Except Error α

namespace Service

variable {σ α : Type}

/-- The request that parameters make. -/
def requestOfParams (s : Service σ α) (params : Record Key Value) : Except Error SearchRequest :=
  SearchRequest.ofParams s.catalog s.seed s.config.perPage params

def plan (s : Service σ α) (r : SearchRequest) : Except Error SearchPlan :=
  SearchPlan.ofRequest s.catalog
    { maxResultWindow := s.config.maxResultWindow, idField := s.config.idField } r

/-- The request that a plan sends to the index. -/
def indexRequest (p : SearchPlan) : IndexRequest where
  query := some p.query
  offset := p.offset
  size := p.size
  sort := some p.sort
  aggregations := p.aggregations

/-- The result that a response makes for a request. -/
def resultOf (s : Service σ α) (r : SearchRequest) (response : IndexResponse) :
    Except Error (SearchResult α) := do
  let stats ← FieldStat.ofAnswers s.catalog.filterable response.aggregations
  let hits ← response.hits.mapM s.mapHit
  let hasMore ← (← r.page.mul r.perPage).lt response.total
  SearchResult.logged { hits, totalHits := response.total, hasMore, stats } r.page

def search (s : Service σ α) (r : SearchRequest) : Call σ (SearchResult α) := do
  let p ← liftExcept (s.plan r)
  let response ← s.client.search (indexRequest p)
  liftExcept (s.resultOf r response)

def similarTitles (s : Service σ α) (title excludeId : Value) : Call σ (List TitleMatch) :=
  s.config.similarity.similarTitles s.client title excludeId

def similarDocuments (s : Service σ α) (documentId group : Value) :
    Call σ (List α × List TermWeight) :=
  s.config.similarity.similarDocuments s.client s.mapHit termScore documentId group

def autocomplete (s : Service σ α) (field : Field) (typed : Value) : Call σ (List Value) :=
  suggest s.client s.config.suggestionSize field typed

def mostCommon (s : Service σ α) (fields : List Field) (size : Value) :
    Call σ (Record Key (List Value)) :=
  mostCommonValues s.client fields size

end Service

end FacetSearch
