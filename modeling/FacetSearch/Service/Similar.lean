import FacetSearch.Index
import FacetSearch.TermWeight

/-!
# Similar titles and similar documents

A title is similar to another one if it holds all of its words, more or less. Documents are similar
if they share the terms that tell most about them. To find those takes up to three calls: the
index's id of the document, the terms of its fields, and a search for enough of the heaviest terms,
each boosted by its weight, without the document itself. The way ends early where nothing is left
to look for. What comes of it is put on the log under the id and the group that were asked for.
-/

namespace FacetSearch

structure SimilarityConfig where
  /-- The fields that are compared together, by the name of the group. -/
  fieldGroups : Value := .object
    [("title/description", .arr [.str "title.analyzed", .str "description.analyzed"]),
      ("items", .arr [.str "items.keyword"]),
      ("bossMonsters", .arr [.str "bossMonsters.keyword"]),
      ("commonMonsters", .arr [.str "commonMonsters.keyword"])]
  /-- Shorter terms are passed over. -/
  minTermLength : Value := .ofInt 3
  /-- So many of the heaviest terms are searched for. -/
  maxTerms : Value := .ofInt 20
  /-- The share of them that a similar document has. -/
  minimumShouldMatch : Value := .str "25%"
  maxResults : Value := .ofInt 6
  maxTitleResults : Value := .ofInt 10
  idField : Value := .str "id"
  titleField : Value := .str "title"
  titleSourceFields : Value := .arr [.str "id", .str "title", .str "slug"]

/-- A document with a similar title. -/
structure TitleMatch where
  id : Value
  title : Value
  slug : Value

/-- The weight of a term by its counts and the corpus. -/
abbrev TermScorer := Value → Value → Corpus → Except Error Float

namespace SimilarityConfig

variable {σ α : Type}

/-- The id names a document to leave out: ids below 0 name none. -/
def excludes (id : Value) : Except Error Bool :=
  match id.number? with
  | some n => .ok ((Number.int 0).le n)
  | none => .error (.fault .notOrdered)

/-- Every word of a title, less the document to leave out. -/
def titleQuery (c : SimilarityConfig) (title excludeId : Value) : Except Error Query := do
  let words := Query.fullText { field := c.titleField } title (.str "and") (.str "AUTO")
  if ← excludes excludeId then
    return .bool {} [words] [] [.term { field := c.idField } excludeId] .null
  else return words

def titleMatch (c : SimilarityConfig) (hit : IndexHit) : Except Error TitleMatch := do
  return {
    id := ← hit.source.memberNamed c.idField .null
    title := ← hit.source.memberNamed c.titleField (.str "")
    slug := ← hit.source.memberOr "slug" .null }

/-- The documents whose title is similar; to the empty title none is. -/
def similarTitles (c : SimilarityConfig) (client : IndexClient σ) (title excludeId : Value) :
    Call σ (List TitleMatch) := do
  if title.eqv (.str "") then return []
  let query ← liftExcept (c.titleQuery title excludeId)
  let sourceFields ← liftExcept c.titleSourceFields.elements
  let response ← client.search {
    query := some query
    source := .arr sourceFields
    size := c.maxTitleResults }
  liftExcept (response.hits.mapM c.titleMatch)

/-- The fields of a group: none if there is no such group. -/
def groupFields (c : SimilarityConfig) (group : Value) : Except Error Value :=
  c.fieldGroups.memberNamed group (.arr [])

/-- The number of characters of a term. -/
def termLength : Key → Except Error Nat
  | .str s => .ok s.length
  | _ => .error (.fault .notSized)

/-- The weight of a term of a field, if the term is long enough. -/
def termWeight? (c : SimilarityConfig) (score : TermScorer) (field docCount : Value)
    (term : Key × TermCount) : Except Error (Option TermWeight) := do
  if ← (Value.ofInt (← termLength term.1)).lt c.minTermLength then return none
  let weight ← score term.2.termFreq term.2.docFreq { totalDocs := docCount }
  return some { field, term := .ofKey term.1, weight := .num (.float weight) }

/-- The weights of the long enough terms of one field; an empty field has none. -/
def fieldWeights (c : SimilarityConfig) (score : TermScorer) (vectors : Record Key TermVector)
    (field : Value) : Except Error (List TermWeight) := do
  match Record.get? vectors (← field.toKey) with
  | some vector =>
    return (← vector.terms.mapM (c.termWeight? score field vector.docCount)).filterMap id
  | none => return []

/-- The weights of the long enough terms of several fields, field by field. -/
def termWeights (c : SimilarityConfig) (score : TermScorer) (fields : List Value)
    (vectors : Record Key TermVector) : Except Error (List TermWeight) := do
  return (← fields.mapM (c.fieldWeights score vectors)).flatten

/-- Enough of the terms, each boosted by its weight, in another document. -/
def similarQuery (c : SimilarityConfig) (documentId : Value) (terms : List TermWeight) : Query :=
  .allOf [
    .bool {} [] (terms.map fun t =>
      .fullText { field := t.field, boost := t.weight } t.term .null .null) []
      c.minimumShouldMatch,
    .bool {} [] [] [.term { field := c.idField } documentId] .null]

/-- What is put on the log for a group that there is not. -/
def unknownGroupLine (group : Value) : Except Error String := do
  return "Unknown similarity field group: " ++ (← group.text)

/-- What is put on the log for a document that the index does not have. -/
def notIndexedLine (documentId : Value) : Except Error String := do
  return "Document " ++ (← documentId.text) ++ " is not indexed"

/-- What is put on the log for the documents found. -/
def foundLine (found : List IndexHit) (documentId group : Value) (terms : List TermWeight) :
    Except Error String := do
  return "Found " ++ toString found.length ++ " documents similar to " ++ (← documentId.text) ++
    " using " ++ toString terms.length ++ " terms of " ++ (← group.text)

/-- Nothing is found, once the log says why. -/
def nothing (line : Except Error String) : Except Error (List α × List TermWeight) := do
  let _ ← line
  return ([], [])

/-- The documents found and the terms they were found by, once these are on the log. -/
def foundDocuments (mapHit : IndexHit → Except Error α) (documentId group : Value)
    (terms : List TermWeight) (response : IndexResponse) :
    Except Error (List α × List TermWeight) := do
  let _ ← foundLine response.hits documentId group terms
  return (← response.hits.mapM mapHit, terms)

/-- The documents similar to one by a group of fields, and the terms they were found by. -/
def similarDocuments (c : SimilarityConfig) (client : IndexClient σ)
    (mapHit : IndexHit → Except Error α) (score : TermScorer) (documentId group : Value) :
    Call σ (List α × List TermWeight) := do
  let named ← liftExcept (c.groupFields group)
  if named.isAbsent then
    liftExcept (nothing (unknownGroupLine group))
  else
    match ← client.lookup documentId with
    | none => liftExcept (nothing (notIndexedLine documentId))
    | some internalId =>
      let fields ← liftExcept named.elements
      let vectors ← client.termVectors internalId fields
      let weights ← liftExcept (c.termWeights score fields vectors)
      match ← liftExcept (topTerms weights c.maxTerms) with
      | [] => return ([], [])
      | terms =>
        let response ← client.search {
          query := some (c.similarQuery documentId terms)
          size := c.maxResults }
        liftExcept (foundDocuments mapHit documentId group terms response)

end SimilarityConfig

end FacetSearch
