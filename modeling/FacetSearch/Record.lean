/-!
# Records

A record is a finite map that remembers the order in which its keys first came: `Record.set`
replaces the value of a known key in place and appends an unknown one. It is kept as the list of its
entries. Keys are compared by `==`, which may be coarser than equality: the first of two keys that
are the same stays.
-/

namespace FacetSearch

/-- Values by key, in the order in which the keys first came. -/
abbrev Record (κ α : Type) := List (κ × α)

namespace Record

variable {κ α : Type} [BEq κ]

omit [BEq κ] in
/-- The keys in their order. -/
def keys (r : Record κ α) : List κ := r.map Prod.fst

/-- The value of a key; of the first entry, should several have it. -/
def get? : Record κ α → κ → Option α
  | [], _ => none
  | (k, v) :: rest, key => if k == key then some v else get? rest key

/-- The record with a key set to a value. -/
def set : Record κ α → κ → α → Record κ α
  | [], key, value => [(key, value)]
  | (k, v) :: rest, key, value =>
    if k == key then (k, value) :: rest else (k, v) :: set rest key value

/-- The record of a list of entries: a later entry of a key replaces the value of an earlier. -/
def ofList (entries : List (κ × α)) : Record κ α :=
  entries.foldl (fun r e => set r e.1 e.2) []

end Record

end FacetSearch
