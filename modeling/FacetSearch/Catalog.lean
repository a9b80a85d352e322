import FacetSearch.Boost

/-!
# Fields and their catalog

A field says how one field of the indexed documents takes part in a search: whether it can be
filtered, whether search texts are looked up in it and with which boost, and under which name the
index counts its values. A flag holds if its value is present (`Value.isPresent`). A catalog is a
list of fields of different names.
-/

namespace FacetSearch

/-- The field type of a name that has to be one. -/
def FieldType.ofName (name : String) : Except Error FieldType :=
  match ofName? name with
  | some type => .ok type
  | none => .error (.fault .notAType)

/-- A searchable field. -/
structure Field where
  name : String
  type : FieldType
  /-- Offered as a filter. -/
  filterable : Value := .bool false
  /-- Search texts are looked up in it. -/
  freetext : Value := .bool false
  /-- The weight of a find in it. -/
  boost : Value := Boost.neutral
  /-- The index field that statistics are made of; without one there are none. -/
  aggregationTarget : Value := .null

namespace Field

/-- The index field that holds the value as a whole, for exact comparison. -/
def exactName (f : Field) : String := f.name ++ ".keyword"

/-- The name together with the boost. -/
def boostedName (f : Field) : Except Error String :=
  (Boost.text f.boost).map fun boost => f.name ++ "^" ++ boost

/-- The aggregation target, if it names anything. -/
def target? (f : Field) : Option Value :=
  if f.aggregationTarget.isPresent then some f.aggregationTarget else none

end Field

/-- The first name that occurred before, given the names already seen. -/
def firstRepeat? (seen : List String) : List String → Option String
  | [] => none
  | name :: names => if name ∈ seen then some name else firstRepeat? (name :: seen) names

theorem firstRepeat?_eq_none_iff {seen names : List String} :
    firstRepeat? seen names = none ↔ names.Nodup ∧ ∀ n ∈ names, n ∉ seen := by
  induction names generalizing seen with
  | nil => simp [firstRepeat?]
  | cons name names ih =>
    unfold firstRepeat?
    by_cases h : name ∈ seen
    · simp [h]
    · rw [if_neg h, ih, List.nodup_cons]
      constructor
      · rintro ⟨hn, hs⟩
        refine ⟨⟨fun c => hs name c (by simp), hn⟩, ?_⟩
        intro n hm
        rcases List.mem_cons.1 hm with rfl | hm
        · exact h
        · exact fun c => hs n hm (by simp [c])
      · rintro ⟨⟨hm, hn⟩, hs⟩
        refine ⟨hn, fun n hmem c => ?_⟩
        rcases List.mem_cons.1 c with rfl | c
        · exact hm hmem
        · exact hs n (by simp [hmem]) c

/-- The searchable fields, no two of one name. -/
structure Catalog where
  fields : List Field
  nodup : (fields.map Field.name).Nodup

namespace Catalog

/-- The catalog of a list of fields, unless two of them share a name. -/
def ofFields (fields : List Field) : Except Error Catalog :=
  match h : firstRepeat? [] (fields.map Field.name) with
  | none => .ok ⟨fields, (firstRepeat?_eq_none_iff.1 h).1⟩
  | some name => .error (.duplicateField name)

theorem fields_of_ofFields {fields : List Field} {c : Catalog} (h : ofFields fields = .ok c) :
    c.fields = fields := by
  unfold ofFields at h
  split at h
  · cases h; rfl
  · cases h

def find? (c : Catalog) (name : String) : Option Field :=
  c.fields.find? (·.name = name)

/-- The field of a name that has to be known. -/
def field (c : Catalog) (name : String) : Except Error Field :=
  match c.find? name with
  | some f => .ok f
  | none => .error (.unknownField name)

def contains (c : Catalog) (name : String) : Bool := (c.find? name).isSome

def filterable (c : Catalog) : List Field := c.fields.filter (·.filterable.isPresent)

def freetext (c : Catalog) : List Field := c.fields.filter (·.freetext.isPresent)

theorem name_of_find? {c : Catalog} {name : String} {f : Field} (h : c.find? name = some f) :
    f.name = name := by
  simpa using List.find?_some h

end Catalog

end FacetSearch
