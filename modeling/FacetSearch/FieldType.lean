/-!
# Field types

The five kinds of content an indexed field can hold. Integer, string and boolean fields can be
filtered and counted; text and url fields can only be searched or shown. A field type travels
between programs under its name, and `ofName?` reads exactly those names.
-/

namespace FacetSearch

/-- Kind of content of an indexed field. -/
inductive FieldType where
  | integer
  | string
  | boolean
  | text
  | url
  deriving DecidableEq, Repr

namespace FieldType

/-- The name a field type is written under. -/
def name : FieldType → String
  | integer => "integer"
  | string => "string"
  | boolean => "boolean"
  | text => "text"
  | url => "url"

def ofName? : String → Option FieldType
  | "integer" => some integer
  | "string" => some string
  | "boolean" => some boolean
  | "text" => some text
  | "url" => some url
  | _ => none

theorem ofName?_name (t : FieldType) : ofName? t.name = some t := by
  cases t <;> rfl

/-- Values of the type can be filtered and aggregated. -/
def isFilterable : FieldType → Bool
  | integer | string | boolean => true
  | text | url => false

end FieldType

end FacetSearch
