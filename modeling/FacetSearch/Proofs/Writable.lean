import FacetSearch.Index
import FacetSearch.Proofs.Outcome

/-!
# Queries that can be written

A query tree has an object if the fields that nodes are written under are keys and the fields of a
text search can be listed (`Query.Writable`, with one lemma for each kind of node). A request has
parameters if its query has an object; each of them stands under a name of its own.
-/

namespace FacetSearch

open Outcome

/-- The field can be a key. -/
def Target.Keyed (t : Target) : Prop := ∃ key, t.field.toKey = .ok key

theorem Target.keyed_of_text {t : Target} {name : String} (h : t.field = .str name) : t.Keyed :=
  ⟨.str name, by rw [h]; rfl⟩

theorem Target.keyed_named (name : String) : (Target.named name).Keyed := keyed_of_text rfl

namespace Query

/-- The tree has an object. -/
def Writable (q : Query) : Prop := ∃ v, q.render = .ok v

variable {t : Target}

theorem writable_term (h : t.Keyed) (value : Value) : Writable (term t value) := by
  obtain ⟨key, hkey⟩ := h
  exact ⟨_, by rw [render, hkey]; rfl⟩

theorem writable_term_of_text {field : Value} {name : String} (h : field = .str name)
    (value : Value) : Writable (term { field := field } value) :=
  writable_term (Target.keyed_of_text h) value

theorem writable_fullText (h : t.Keyed) (text operator fuzziness : Value) :
    Writable (fullText t text operator fuzziness) := by
  obtain ⟨key, hkey⟩ := h
  exact ⟨_, by rw [render, hkey]; rfl⟩

theorem writable_acrossFields (text scoring fuzziness length : Value) (fields : List Value) :
    Writable (acrossFields t text (.arr fields) scoring fuzziness length) := ⟨_, rfl⟩

theorem writable_phrasePrefix (h : t.Keyed) (text : Value) : Writable (phrasePrefix t text) := by
  obtain ⟨key, hkey⟩ := h
  exact ⟨_, by rw [render, hkey]; rfl⟩

theorem writable_range (h : t.Keyed) (gte lte : Value) : Writable (range t gte lte) := by
  obtain ⟨key, hkey⟩ := h
  exact ⟨_, by rw [render, hkey]; rfl⟩

theorem exists_renderAll {qs : List Query} (h : ∀ q ∈ qs, q.Writable) :
    ∃ vs, renderAll qs = .ok vs := by
  rw [renderAll_eq_mapM]
  exact exists_mapM h

theorem writable_bool {must should mustNot : List Query} (hmust : ∀ q ∈ must, q.Writable)
    (hshould : ∀ q ∈ should, q.Writable) (hmustNot : ∀ q ∈ mustNot, q.Writable) (least : Value) :
    Writable (bool t must should mustNot least) := by
  obtain ⟨ms, hms⟩ := exists_renderAll hmust
  obtain ⟨ss, hss⟩ := exists_renderAll hshould
  obtain ⟨ns, hns⟩ := exists_renderAll hmustNot
  exact ⟨_, by rw [render, hms, hss, hns]; rfl⟩

theorem writable_hasValue (t : Target) : Writable (hasValue t) := ⟨_, rfl⟩

theorem writable_matchAll (t : Target) : Writable (matchAll t) := ⟨_, rfl⟩

theorem writable_random {query : Query} (h : query.Writable) (boost field seed : Value) :
    Writable (random boost field query seed) := by
  obtain ⟨v, hv⟩ := h
  exact ⟨_, by rw [render, hv]; rfl⟩

theorem writable_allOf {clauses : List Query} (h : ∀ q ∈ clauses, q.Writable) :
    (allOf clauses).Writable := writable_bool h (by simp) (by simp) _

theorem writable_anyOf {clauses : List Query} (h : ∀ q ∈ clauses, q.Writable) :
    (anyOf clauses).Writable := writable_bool (by simp) h (by simp) _

theorem writable_missing (field : Value) : (missing field).Writable :=
  writable_bool (by simp) (by simp) (by simpa using writable_hasValue _) _

end Query

end FacetSearch
