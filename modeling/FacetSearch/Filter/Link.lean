import FacetSearch.Catalog
import FacetSearch.Filter.Tilde
import FacetSearch.Filter.Tokens

/-!
# Filters in links

A link carries one text per filtered field. `Filter.decode` reads the text for a field type and
never rejects what a user wrote, save a bound of more digits than are read; `Filter.encode` writes
the text for a filter, whose values to choose from have to be texts and whose bounds must not have
more digits than are written. `Filter.ofParams` reads the
filters of all fields from the parameters of a request.
-/

namespace FacetSearch

namespace StringFilter

def decode (text : List Char) : StringFilter :=
  let (values, includeUnknown) := Tilde.decode text
  ⟨values.map fun s => .str (String.ofList s), .bool includeUnknown⟩

/-- The characters of a value that has to be a text. -/
def valueChars : Value → Except Error (List Char)
  | .str s => .ok s.toList
  | _ => .error (.fault .notAText)

def encode (f : StringFilter) : Except Error String := do
  return String.ofList (Tilde.encode (← f.values.mapM valueChars) f.includeUnknown.isPresent)

end StringFilter

namespace Filter

/-- The filter that a text stands for on a field of some type. -/
def decode (type : FieldType) (raw : String) : Except Error Filter :=
  match type with
  | .integer => (IntegerFilter.decode raw.toList).map integer
  | .boolean => .ok (boolean (.decode raw.toList))
  | .string => .ok (string (.decode raw.toList))
  | .text | .url => .error (.invalidFilterEncoding type.name)

/-- The same for a type given by whatever should be its name, and a text that may be absent. -/
def decodeNamed (type raw : Value) : Except Error Filter :=
  let known? :=
    match type with
    | .str name => FieldType.ofName? name
    | _ => none
  match known? with
  | some type =>
    match type, raw.orElse (.str "") with
    | type, .str raw => decode type raw
    | .integer, _ | .boolean, _ => .error (.fault .notAText)
    | .string, _ => .error (.fault .notSearchable)
    | .text, _ | .url, _ => .error (.invalidFilterEncoding type.name)
  | none => do throw (.invalidFilterEncoding (← type.text))

def encode : Filter → Except Error String
  | integer f => f.encode
  | boolean f => .ok f.encode
  | string f => f.encode

/-- The text of the parameter for a field; a parameter that says nothing has the empty text. -/
def paramText (params : Record Key Value) (name : String) : Except Error String :=
  ((Record.get? params (.str name)).getD (.str "")).orElse (.str "") |>.text

/-- The filter of a field that can have one. -/
def ofParam (params : Record Key Value) (f : Field) : Except Error Filter := do
  decode f.type (← paramText params f.name)

/-- The filters of those fields that can have one. -/
def ofParams (params : Record Key Value) (fields : List Field) :
    Except Error (Record String Filter) :=
  (fields.filter (·.type.isFilterable)).foldlM
    (fun filters f => (ofParam params f).map (Record.set filters f.name)) []

end Filter

/-- The text for a filter; anything else has none. -/
def FilterSlot.encode : FilterSlot → Except Error String
  | filter f => f.encode
  | other v => .error (.invalidFilterEncoding v.kindName)

end FacetSearch
