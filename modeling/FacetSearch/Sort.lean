import FacetSearch.Value

/-!
# Sorting of results

Users choose one of a few orders (`SortKey`), and the index sorts by a list of criteria, later ones
among results that the earlier ones leave equal. Random order is no sort: it is made by random
scores, so its key sorts by score like relevance does.
-/

namespace FacetSearch

inductive SortKey where
  | relevance
  | title
  | numPagesAsc
  | numPagesDesc
  | createdAtAsc
  | createdAtDesc
  | reviews
  | random
  deriving DecidableEq, Repr

namespace SortKey

/-- The text of a key in a request. -/
def text : SortKey → String
  | relevance => ""
  | title => "title"
  | numPagesAsc => "numPages-asc"
  | numPagesDesc => "numPages-desc"
  | createdAtAsc => "createdAt-asc"
  | createdAtDesc => "createdAt-desc"
  | reviews => "reviews"
  | random => "random"

def name : SortKey → String
  | relevance => "RELEVANCE"
  | title => "TITLE"
  | numPagesAsc => "NUM_PAGES_ASC"
  | numPagesDesc => "NUM_PAGES_DESC"
  | createdAtAsc => "CREATED_AT_ASC"
  | createdAtDesc => "CREATED_AT_DESC"
  | reviews => "REVIEWS"
  | random => "RANDOM"

def all : List SortKey :=
  [relevance, title, numPagesAsc, numPagesDesc, createdAtAsc, createdAtDesc, reviews, random]

/-- The key that a request asks for; anything that is the text of no key asks for relevance. -/
def parse : Value → SortKey
  | .str s => (all.find? (·.text = s)).getD relevance
  | _ => relevance

theorem parse_text (k : SortKey) : parse (.str k.text) = k := by
  cases k <;> decide

end SortKey

/-- One criterion of a sort; its attributes are passed on to the index as they are. -/
inductive SortCriterion where
  | field (name : Key) (order : Value)
  | score
  | script (source order valueType : Value)

namespace SortCriterion

def render : SortCriterion → Value
  | field name order => .obj [(name, order)]
  | score => .str "_score"
  | script source order valueType =>
    .object [("_script", .object [("order", order), ("type", valueType),
      ("script", .object [("source", source)])])]

end SortCriterion

/-- Rates a document by its votes as it is found, since votes come in all the time: the lower
bound of the share of positive ones. -/
def approvalScript : String :=
  "double p = doc['positiveReviews'].value;\n" ++
  "double n = doc['negativeReviews'].value;\n" ++
  "return p + n > 0 ? ((p + 1.9208) / (p + n) - 1.96 * Math.sqrt((p * n) / (p + n) + 0.9604)" ++
  " / (p + n)) / (1 + 3.8416 / (p + n)) : 0;"

/-- The criteria of an order. Times of creation practically never agree and need no second one. -/
def SortKey.criteria : SortKey → List SortCriterion
  | title => [.field "title.keyword" (.str "asc")]
  | numPagesAsc => [.field "numPages" (.str "asc"), .score]
  | numPagesDesc => [.field "numPages" (.str "desc"), .score]
  | createdAtAsc => [.field "createdAt" (.str "asc")]
  | createdAtDesc => [.field "createdAt" (.str "desc")]
  | reviews => [.script (.str approvalScript) (.str "desc") (.str "number"), .score]
  | relevance | random => [.score]

end FacetSearch
