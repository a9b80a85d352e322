import FacetSearch.Query
import FacetSearch.Value.Access

/-!
# Query trees as objects

An index takes a query as a nested object. `Query.render` writes every node under the name of its
kind. Attributes that say nothing are left out: a boost equal to 1, an absent operator or fuzziness,
an empty list of clauses, a bound that is null; `minimum_should_match` only stands beside `should`
clauses, and a prefix length only beside a fuzziness. All other attributes are written as they are,
so a field has to be a key only where a node is written under it.
-/

namespace FacetSearch

/-- The member for a boost, unless it is neutral. -/
def Boost.member (boost : Value) : Record String Value :=
  if Boost.isNeutral boost then [] else [("boost", boost)]

namespace Value

/-- The member for a value, unless the value is absent. -/
def memberIfPresent (key : String) (v : Value) : Record String Value :=
  if v.isAbsent then [] else [(key, v)]

/-- The member for a value, unless the value is null. -/
def memberIfGiven (key : String) (v : Value) : Record String Value :=
  if v.isNull then [] else [(key, v)]

/-- The member for a list, unless it is empty. -/
def memberIfAny (key : String) (items : List Value) : Record String Value :=
  if items.isEmpty then [] else [(key, arr items)]

end Value

namespace Query

mutual

/-- The object of a node. There is none if the field to write it under is no key, or if its fields
have no elements. -/
def render : Query → Except Error Value
  | term t value => do
    return .object [("term", .obj [(← t.field.toKey,
      if Boost.isNeutral t.boost then value
      else .object [("value", value), ("boost", t.boost)])])]
  | fullText t text operator fuzziness => do
    return .object [("match", .obj [(← t.field.toKey, .object (
      ("query", text) :: operator.memberIfPresent "operator" ++
        fuzziness.memberIfPresent "fuzziness" ++ Boost.member t.boost))])]
  | acrossFields t text fields scoring fuzziness length => do
    return .object [("multi_match", .object (
      [("query", text), ("fields", .arr (← fields.elements)), ("type", scoring)] ++
        (if fuzziness.isAbsent then []
          else [("fuzziness", fuzziness), ("prefix_length", length)]) ++ Boost.member t.boost))]
  | phrasePrefix t text => do
    return .object [("match_phrase_prefix", .obj [(← t.field.toKey, text)])]
  | bool t must should mustNot least => do
    return .object [("bool", .object (
      Value.memberIfAny "must" (← renderAll must) ++
        Value.memberIfAny "should" (← renderAll should) ++
        (if should.isEmpty then [] else least.memberIfGiven "minimum_should_match") ++
        Value.memberIfAny "must_not" (← renderAll mustNot) ++ Boost.member t.boost))]
  | range t gte lte => do
    return .object [("range", .obj [(← t.field.toKey,
      .object (gte.memberIfGiven "gte" ++ lte.memberIfGiven "lte"))])]
  | hasValue t => .ok (.object [("exists", .object [("field", t.field)])])
  | matchAll _ => .ok (.object [("match_all", .object [])])
  | random _ field query seed => do
    return .object [("function_score", .object [("query", ← render query),
      ("random_score", .object [("seed", seed), ("field", field)])])]

def renderAll : List Query → Except Error (List Value)
  | [] => .ok []
  | q :: qs => do return (← render q) :: (← renderAll qs)

end

attribute [local simp] render renderAll

theorem renderAll_eq_mapM (qs : List Query) : renderAll qs = qs.mapM render := by
  induction qs with
  | nil => simp; rfl
  | cons q qs ih => simp [ih]

end Query

end FacetSearch
