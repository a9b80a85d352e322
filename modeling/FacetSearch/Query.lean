import FacetSearch.Boost

/-!
# Query trees

A query tree says which documents of an index match and how they score. Leaves compare one field
with a value, a text or a range; `bool` nodes combine clauses, `random` replaces the scores of the
query inside by values drawn from a seed. Every node carries a boost and the index field it looks
at, if any. `anyOf`, `allOf` and `missing` are the combinations that searches are built of, and
`eqv` holds of trees that are the same node by node.
-/

namespace FacetSearch

/-- What every node has: the index field it looks at, null if none, and a boost. -/
structure Target where
  field : Value := .null
  boost : Value := Boost.neutral
  deriving Inhabited

/-- The field of a name, without a boost. -/
def Target.named (name : String) : Target := { field := .str name }

/-- The attributes of a node are passed on to the index as they are. -/
inductive Query where
  /-- The field holds exactly the value. -/
  | term (target : Target) (value : Value)
  /-- The field holds the words of a text. -/
  | fullText (target : Target) (text operator fuzziness : Value)
  /-- Some of several fields, each with its boost, hold the words of a text. -/
  | acrossFields (target : Target) (text fields scoring fuzziness prefixLength : Value)
  /-- The field holds a phrase whose last word is only begun. -/
  | phrasePrefix (target : Target) (text : Value)
  /-- All of `must`, none of `mustNot`, and enough of `should`. -/
  | bool (target : Target) (must should mustNot : List Query) (minimumShouldMatch : Value)
  /-- The field holds a number between the bounds, which are included. -/
  | range (target : Target) (gte lte : Value)
  /-- The field holds any value at all. -/
  | hasValue (target : Target)
  | matchAll (target : Target)
  /-- The documents of a query, in an order drawn from the seed and a field. -/
  | random (boost field : Value) (query : Query) (seed : Value)
  deriving Inhabited

namespace Query

/-- Documents without a value in the field. -/
def missing (field : Value) : Query := bool {} [] [] [hasValue { field }] .null

/-- Documents that match at least one clause. -/
def anyOf (clauses : List Query) : Query := bool {} [] clauses [] (.ofInt 1)

/-- Documents that match every clause. -/
def allOf (clauses : List Query) : Query := bool {} clauses [] [] .null

/-- Random order by a field, which is `id` unless another one is named. -/
def shuffled (target : Target) (query : Query) (seed : Value) : Query :=
  random target.boost (if target.field.isNull then .str "id" else target.field) query seed

def kindName : Query → String
  | term .. => "TERM"
  | fullText .. => "MATCH"
  | acrossFields .. => "MULTI_MATCH"
  | phrasePrefix .. => "PHRASE_PREFIX"
  | bool .. => "BOOLEAN"
  | range .. => "RANGE"
  | hasValue _ => "EXISTS"
  | matchAll _ => "MATCH_ALL"
  | random .. => "FUNCTION_SCORE"

end Query

/-- The same field and equal boosts. -/
def Target.eqv (a b : Target) : Bool := a.field.eqv b.field && a.boost.eqv b.boost

namespace Query

mutual

/-- Nodes of one kind with equal attributes and equal clauses in the same order. -/
def eqv : Query → Query → Bool
  | term t v, term t' v' => t.eqv t' && v.eqv v'
  | fullText t text operator fuzziness, fullText t' text' operator' fuzziness' =>
    t.eqv t' && text.eqv text' && operator.eqv operator' && fuzziness.eqv fuzziness'
  | acrossFields t text fields scoring fuzziness length,
    acrossFields t' text' fields' scoring' fuzziness' length' =>
    t.eqv t' && text.eqv text' && fields.eqv fields' && scoring.eqv scoring' &&
      fuzziness.eqv fuzziness' && length.eqv length'
  | phrasePrefix t text, phrasePrefix t' text' => t.eqv t' && text.eqv text'
  | bool t must should mustNot least, bool t' must' should' mustNot' least' =>
    t.eqv t' && eqvAll must must' && eqvAll should should' && eqvAll mustNot mustNot' &&
      least.eqv least'
  | range t gte lte, range t' gte' lte' => t.eqv t' && gte.eqv gte' && lte.eqv lte'
  | hasValue t, hasValue t' => t.eqv t'
  | matchAll t, matchAll t' => t.eqv t'
  | random boost field query seed, random boost' field' query' seed' =>
    boost.eqv boost' && field.eqv field' && eqv query query' && seed.eqv seed'
  | _, _ => false

def eqvAll : List Query → List Query → Bool
  | [], [] => true
  | q :: qs, q' :: qs' => eqv q q' && eqvAll qs qs'
  | _, _ => false

end

end Query

end FacetSearch
