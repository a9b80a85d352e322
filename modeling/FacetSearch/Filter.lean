import FacetSearch.Value
import FacetSearch.Error

/-!
# Filters

A filter restricts a search by one field: numbers by a range, texts by a choice of values, truth
values by the value wanted. Each can also let documents without a value pass (`includeUnknown`); a
range without bounds and a truth filter without a value restrict nothing, so there the flag is never
set. A bound or value that is not there is null. Filters read from links hold whole numbers, texts
and truth values only; a caller that makes a filter may put anything in it.

A request may hold something other than a filter under a field name; `FilterSlot` is either.
-/

namespace FacetSearch

/-- Numbers within a range, its bounds included. -/
structure IntegerFilter where
  minimum : Value
  maximum : Value
  includeUnknown : Value
  known_of_unbounded : minimum.isNull = true → maximum.isNull = true → includeUnknown = .bool false

/-- Texts of a choice. -/
structure StringFilter where
  values : List Value := []
  includeUnknown : Value := .bool false

/-- One of the truth values. -/
structure BooleanFilter where
  value : Value
  includeUnknown : Value
  known_of_undecided : value.isNull = true → includeUnknown = .bool false

/-- The range between two bounds; without any, the flag is dropped. -/
def IntegerFilter.of (minimum maximum includeUnknown : Value) : IntegerFilter where
  minimum := minimum
  maximum := maximum
  includeUnknown := if minimum.isNull && maximum.isNull then .bool false else includeUnknown
  known_of_unbounded h h' := by rw [h, h']; rfl

/-- The filter for a truth value; without one, the flag is dropped. -/
def BooleanFilter.of (value includeUnknown : Value) : BooleanFilter where
  value := value
  includeUnknown := if value.isNull then .bool false else includeUnknown
  known_of_undecided h := by rw [h]; rfl

theorem IntegerFilter.of_fields (f : IntegerFilter) :
    IntegerFilter.of f.minimum f.maximum f.includeUnknown = f := by
  obtain ⟨minimum, maximum, includeUnknown, h⟩ := f
  simp only [IntegerFilter.of, IntegerFilter.mk.injEq, true_and]
  split
  · rename_i c
    rw [Bool.and_eq_true] at c
    exact (h c.1 c.2).symm
  · rfl

theorem BooleanFilter.of_fields (f : BooleanFilter) :
    BooleanFilter.of f.value f.includeUnknown = f := by
  obtain ⟨value, includeUnknown, h⟩ := f
  simp only [BooleanFilter.of, BooleanFilter.mk.injEq, true_and]
  split
  · rename_i c
    exact (h c).symm
  · rfl

inductive Filter where
  | integer (f : IntegerFilter)
  | string (f : StringFilter)
  | boolean (f : BooleanFilter)

namespace Filter

/-- The type of the fields that a filter is for. -/
def type : Filter → FieldType
  | integer _ => .integer
  | string _ => .string
  | boolean _ => .boolean

def kindName : Filter → String
  | integer _ => "IntegerFilter"
  | string _ => "StringFilter"
  | boolean _ => "BooleanFilter"

/-- The filter lets every document pass. -/
def isEmpty : Filter → Bool
  | integer f => f.minimum.isNull && f.maximum.isNull
  | string f => f.values.isEmpty && f.includeUnknown.isAbsent
  | boolean f => f.value.isNull

end Filter

/-- A filter, or whatever else a request holds in its place. -/
inductive FilterSlot where
  | filter (f : Filter)
  | other (v : Value)

namespace FilterSlot

def kindName : FilterSlot → String
  | filter f => f.kindName
  | other v => v.kindName

def isEmpty : FilterSlot → Except Error Bool
  | filter f => .ok f.isEmpty
  | other _ => .error (.fault .notAFilter)

end FilterSlot

end FacetSearch
