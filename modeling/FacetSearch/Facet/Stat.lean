import FacetSearch.Facet
import FacetSearch.Value.Access

/-!
# Facets read back

The answers to the aggregations of a field make its statistic. A field whose count of missing
values was not answered has none. The answers come from outside and are read for what they may
be: counts as whole numbers in any notation, a minimum or maximum that is nothing as 0, and of the
occurrences of a truth value those under a key equal to 0 or 1.
-/

namespace FacetSearch

/-- What a search says about the values of a field. -/
inductive FieldStat where
  | integer (minimum maximum countUnknown : Int)
  | boolean (countAll countUnknown countNo countYes : Int)
  | string (countUnknown : Int) (buckets : List (Value × Int))

namespace FieldStat

/-- The number of documents in an answer or a bucket. -/
def docCount (v : Value) : Except Error Int := do
  (← v.memberOr "doc_count" (.ofInt 0)).toInteger

/-- The value of a minimum or maximum, 0 if no document has one. -/
def extremum (answers : Value) (name : String) : Except Error Int := do
  match ← (← answers.memberOr name (.obj [])).member? "value" with
  | none | some .null => return 0
  | some v => v.toInteger

/-- The buckets of an answer. -/
def buckets (answers : Value) (name : String) : Except Error (List Value) := do
  (← (← answers.memberOr name (.obj [])).memberOr "buckets" (.arr [])).elements

/-- The truth value that the key of a bucket stands for. -/
def truthOfKey? (key : Value) : Option Bool :=
  match key.number? with
  | some n => if n.eqv (.int 0) then some false else if n.eqv (.int 1) then some true else none
  | none => none

/-- The counts of false and true after one more bucket. -/
def countTruth (counts : Int × Int) (bucket : Value) : Except Error (Int × Int) := do
  match truthOfKey? (← bucket.memberOr "key" .null) with
  | some false => return (← docCount bucket, counts.2)
  | some true => return (counts.1, ← docCount bucket)
  | none => return counts

/-- A bucket's key and its count. -/
def readBucket (bucket : Value) : Except Error (Value × Int) := do
  return (← bucket.memberOr "key" .null, ← docCount bucket)

/-- The statistic of a field, if its missing values were counted. -/
def ofAnswers? (answers : Value) (f : Field) : Except Error (Option FieldStat) := do
  unless ← answers.holds f.missingName do return none
  let countUnknown ← docCount (← answers.member f.missingName)
  match f.type with
  | .integer =>
    let minimum ← extremum answers f.minName
    let maximum ← extremum answers f.maxName
    return some (integer minimum maximum countUnknown)
  | .boolean =>
    let (countNo, countYes) ← (← buckets answers f.termsName).foldlM countTruth (0, 0)
    return some (boolean (countUnknown + countNo + countYes) countUnknown countNo countYes)
  | .string =>
    return some (string countUnknown (← (← buckets answers f.termsName).mapM readBucket))
  | .text | .url => throw (.unsupportedAggregation f.name f.type)

/-- The statistics of several fields, by name. -/
def ofAnswers (fields : List Field) (answers : Value) :
    Except Error (Record String FieldStat) :=
  fields.foldlM
    (fun stats f => do
      match ← ofAnswers? answers f with
      | some stat => return Record.set stats f.name stat
      | none => return stats)
    []

end FieldStat

end FacetSearch
