import FacetSearch.Filter.Link
import FacetSearch.Proofs.Outcome
import FacetSearch.Proofs.Records

/-!
# Filters of all fields

Fields of different names do not meet in a request: their filters are read one by one and stand in
the order of the fields (`ofParams_eq_mapM`). Each filter has the type of its field
(`type_of_decode`), whatever its parameter says.
-/

namespace FacetSearch

open Outcome

theorem Catalog.nodup_filterable (c : Catalog) : (c.filterable.map Field.name).Nodup :=
  c.nodup.sublist (List.filter_sublist.map Field.name)

namespace Filter

variable {params : Record Key Value} {fields : List Field}

/-- The filter of a field under the field's name. -/
def entryOf (params : Record Key Value) (f : Field) : Except Error (String × Filter) :=
  (ofParam params f).map (f.name, ·)

theorem entryOf_eq_ok_iff {f : Field} {e : String × Filter} :
    entryOf params f = .ok e ↔
      f.name = e.1 ∧ ofParam params f = .ok e.2 := by
  rw [entryOf, map_eq_ok]
  constructor
  · rintro ⟨filter, h, rfl⟩
    exact ⟨rfl, h⟩
  · rintro ⟨hname, h⟩
    exact ⟨e.2, h, by rw [hname]⟩

/-- Filters read before stay, as no field has one of their names. -/
theorem foldlM_entryOf {done : Record String Filter}
    (h : (done.keys ++ fields.map Field.name).Nodup) :
    fields.foldlM (fun filters f => (ofParam params f).map (Record.set filters f.name)) done =
      (fields.mapM (entryOf params)).map (done ++ ·) := by
  -- The induction carries along that the names of what was read and of what is to come are distinct.
  induction fields generalizing done with
  | nil => simp [pure, Except.pure, Except.map]
  | cons f fields ih =>
    rw [List.foldlM_cons, List.mapM_cons, entryOf]
    cases hfilter : ofParam params f with
    | error e => rfl
    | ok filter =>
      have habsent : ∀ e ∈ done, (e.1 == f.name) = false := by
        intro e he
        have hne : e.1 ≠ f.name := (List.nodup_append.1 h).2.2 e.1 (List.mem_map_of_mem he) f.name
          (by simp)
        simpa using hne
      have hdone : (Record.keys (done ++ [(f.name, filter)]) ++ fields.map Field.name).Nodup := by
        simpa [Record.keys] using h
      rw [map_ok, map_ok, ok_bind, ok_bind, Record.set_of_absent habsent, ih hdone]
      cases fields.mapM (entryOf params) with
      | error e => rfl
      | ok entries => simp [Except.map, bind, Except.bind, pure, Except.pure]

theorem ofParams_eq_mapM (h : (fields.map Field.name).Nodup) :
    ofParams params fields = (fields.filter (·.type.isFilterable)).mapM (entryOf params) := by
  have hnames : ((fields.filter (·.type.isFilterable)).map Field.name).Nodup :=
    h.sublist (List.filter_sublist.map Field.name)
  rw [ofParams, foldlM_entryOf (by simpa [Record.keys] using hnames)]
  cases (fields.filter (·.type.isFilterable)).mapM (entryOf params) <;> simp [Except.map]

theorem ofParams_eq_ok_iff {filters : Record String Filter} (h : (fields.map Field.name).Nodup) :
    ofParams params fields = .ok filters ↔
      List.Forall₂ (fun f e => f.name = e.1 ∧ ofParam params f = .ok e.2)
        (fields.filter (·.type.isFilterable)) filters := by
  rw [ofParams_eq_mapM h, mapM_eq_ok_iff]
  simp only [entryOf_eq_ok_iff]

theorem type_of_decode {type : FieldType} {raw : String} {f : Filter}
    (h : decode type raw = .ok f) : f.type = type := by
  cases type with
  | integer =>
    obtain ⟨_, -, rfl⟩ := map_eq_ok.1 h
    rfl
  | string => cases h; rfl
  | boolean => cases h; rfl
  | text => cases h
  | url => cases h

theorem type_of_ofParam {f : Field} {filter : Filter} (h : ofParam params f = .ok filter) :
    filter.type = f.type := by
  obtain ⟨text, -, hdecode⟩ := bind_eq_ok.1 h
  exact type_of_decode hdecode

end Filter

end FacetSearch
