import FacetSearch.FieldType

/-!
# Failures

Everything that can go wrong, by cause. `Error` holds the failures of the search library itself,
each with a text of its own (`Error.message`), and `Fault`, the ways in which a value that came
from outside can be unfit for the use made of it. A fault has no text: its cause is all there is
to say.
-/

namespace FacetSearch

/-- Why a value from outside could not be used. -/
inductive Fault where
  /-- A text or a not-a-number that denotes no integer. -/
  | notAnInteger
  /-- A number of more digits than are read or written. -/
  | tooManyDigits
  /-- The square root of a negative number. -/
  | rootOfNegative
  /-- The logarithm of zero or of a negative number. -/
  | logOfNonPositive
  /-- A list entry that should be a key with its value and has another length. -/
  | notAPair
  /-- A name that no field type has. -/
  | notAType
  /-- A text in the place of a number that is to be written. -/
  | textForNumber
  /-- Numbers that name no day of the calendar, or no time of a day. -/
  | notATime
  /-- A value of a kind that has no number. -/
  | notNumeric
  /-- A value of a kind that has no order. -/
  | notOrdered
  /-- A value of a kind that has no elements. -/
  | notIterable
  /-- A value of a kind that has no length. -/
  | notSized
  /-- A value of a kind that no pattern is looked for in. -/
  | notSearchable
  /-- A value that is no whole number in the place of a limit. -/
  | notALimit
  /-- A value of a kind that is not looked into by a key. -/
  | notIndexable
  /-- A list or an object in the place of a key. -/
  | notAKey
  /-- A value in the place of an object. -/
  | notAnObject
  /-- A value in the place of a text. -/
  | notAText
  /-- A value in the place of a filter. -/
  | notAFilter
  /-- An object without the key asked for. -/
  | absentKey
  /-- A number beyond the range of what it has to become. -/
  | tooLarge
  /-- A text or list of more entries than there is room for. -/
  | noRoom
  | divisionByZero
  deriving DecidableEq, Repr

/-- A failure of a search operation. -/
inductive Error where
  /-- A filter of one kind was put on a field of another. -/
  | unsupportedFilter (filterKind field : String) (type : FieldType)
  /-- Statistics were asked for a field whose type has none. -/
  | unsupportedAggregation (field : String) (type : FieldType)
  /-- There is no filter text for this type. -/
  | invalidFilterEncoding (type : String)
  /-- The page asked for lies outside the searchable results; each number as it is worded. -/
  | outOfRange (page perPage window : String)
  | unknownField (name : String)
  | duplicateField (name : String)
  /-- The index could not be reached. -/
  | connection (text : String)
  | fault (cause : Fault)
  deriving DecidableEq, Repr

namespace Error

/-- The text of a failure, if it has one. -/
def message : Error → Option String
  | unsupportedFilter filterKind field type =>
    some ("Unsupported filter " ++ filterKind ++ " for field " ++ field ++ " of type " ++ type.name)
  | unsupportedAggregation field type =>
    some ("Field " ++ field ++ " has unsupported type for aggregation: " ++ type.name)
  | invalidFilterEncoding type => some ("Cannot decode filter for field type: " ++ type)
  | outOfRange page perPage window =>
    some ("Page " ++ page ++ " with " ++ perPage ++
      " results per page is outside the first " ++ window ++ " results")
  | unknownField name => some ("Field does not exist: " ++ name)
  | duplicateField name => some ("Duplicate field name: " ++ name)
  | connection text => some text
  | fault _ => none

/-- The failures that only a wrongly set up catalog or caller brings about. -/
def isLogic : Error → Bool
  | unsupportedFilter .. | unsupportedAggregation .. | invalidFilterEncoding _ => true
  | _ => false

end Error

end FacetSearch
