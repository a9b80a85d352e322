import FacetSearch.Catalog
import FacetSearch.Query.Render

/-!
# Facets asked for

Beside its results, a search asks the index for statistics of every filterable field. Each is a
named aggregation over one index field: how many documents have no value, the least and the
greatest value, or how often each value occurs. `Aggregation.plan` asks for what the type of a
field allows, under names made of the field's name, so that the answers find their field again.
-/

namespace FacetSearch

inductive AggregationKind where
  | missing
  | min
  | max
  /-- The most common values, so many of them or, without a size, as many as the index likes. -/
  | terms (size : Value)

/-- A statistic over one index field, under a name. -/
structure Aggregation where
  kind : AggregationKind
  name : Key
  field : Value

namespace AggregationKind

def key : AggregationKind → String
  | missing => "missing"
  | min => "min"
  | max => "max"
  | terms _ => "terms"

def label : AggregationKind → String
  | missing => "MissingAggregation"
  | min => "MinAggregation"
  | max => "MaxAggregation"
  | terms _ => "TermsAggregation"

def options : AggregationKind → Record String Value
  | terms size => size.memberIfGiven "size"
  | _ => []

def eqv : AggregationKind → AggregationKind → Bool
  | missing, missing | min, min | max, max => true
  | terms m, terms n => m.eqv n
  | _, _ => false

end AggregationKind

namespace Aggregation

def render (a : Aggregation) : Value :=
  .object [(a.kind.key, .object (("field", a.field) :: a.kind.options))]

/-- The statistic in words: its kind, its name and its field. -/
def text (a : Aggregation) : Except Error String := do
  return a.kind.label ++ "(" ++ (← a.name.literal) ++ ", " ++ (← a.field.literal) ++ ")"

/-- The same statistic under the same name. -/
def eqv (a b : Aggregation) : Bool :=
  a.kind.eqv b.kind && a.field.eqv b.field && a.name == b.name

/-- Which of several statistics are the same. Each asks for the same as itself, even by a size that
is not a number; only its name has to be one that equals itself. -/
def agreements (aggregations : List Aggregation) : List (List Bool) :=
  let placed := aggregations.zipIdx
  placed.map fun (a, i) => placed.map fun (b, j) => if i = j then a.name == b.name else a.eqv b

/-- Aggregations under their names; of two with one name the later counts. -/
def renderAll (aggregations : List Aggregation) : Record Key Value :=
  Record.ofList (aggregations.map fun a => (a.name, a.render))

end Aggregation

namespace Field

def missingName (f : Field) : String := f.name ++ "_missing"

def minName (f : Field) : String := f.name ++ "_min"

def maxName (f : Field) : String := f.name ++ "_max"

def termsName (f : Field) : String := f.name ++ "_terms"

/-- The values of a truth field that are counted. -/
def booleanTermsSize : Int := 2

/-- The values of a text field that are counted. -/
def stringTermsSize : Int := 1000

/-- The statistics of a field. A field without aggregation target has none, and one whose type
cannot be filtered should not have been asked about. -/
def aggregations (f : Field) : Except Error (List Aggregation) :=
  if f.type.isFilterable then
    .ok <|
      match f.target? with
      | none => []
      | some target =>
        ⟨.missing, f.missingName, target⟩ ::
          match f.type with
          | .integer => [⟨.max, f.maxName, target⟩, ⟨.min, f.minName, target⟩]
          | .boolean => [⟨.terms (.ofInt booleanTermsSize), f.termsName, target⟩]
          | _ => [⟨.terms (.ofInt stringTermsSize), f.termsName, target⟩]
  else .error (.unsupportedAggregation f.name f.type)

end Field

/-- The statistics of all fields. -/
def Aggregation.plan (fields : List Field) : Except Error (List Aggregation) := do
  return (← fields.mapM Field.aggregations).flatten

end FacetSearch
