import FacetSearch.Proofs.Facet.Names
import FacetSearch.Proofs.Params
import FacetSearch.Proofs.PlanQueries
import FacetSearch.Search.Request

/-!
# Filters fit their fields

Filters read from a link stand under the names of the catalog's fields and are of their types
(`Catalog.Fits`), so each that restricts anything becomes a query (`filterQueries_of_fits`). What
can then still be wrong with the plan of such a request is the catalog itself: a field offered as a
filter whose type has no statistics (`Aggregation.plan_cases`). Everything else that may fail is a
fault of the values in the settings (`offset_notLogic`) or of a number too long to be written
(`logged_notLogic`).
-/

namespace FacetSearch

open Outcome

variable {c : Catalog}

namespace Catalog

/-- The filter stands under the name of a field of its type. -/
def Fits (c : Catalog) (entry : String × Filter) : Prop :=
  ∃ field, c.find? entry.1 = some field ∧ entry.2.type = field.type

/-- The query is the one for the filter on the field of this name. -/
def MakesQuery (c : Catalog) (entry : String × Filter) (q : Query) : Prop :=
  ∃ field, c.find? entry.1 = some field ∧
    (FilterSlot.filter entry.2).query? field = .ok (some q)

end Catalog

namespace Filter

/-- The query for a filter on a field of its type. -/
def queryOn? (field : Field) : Filter → Option Query
  | integer f => integerQuery? field.name f
  | boolean f => booleanQuery? field.name f
  | string f => stringQuery? field f

theorem query?_eq_queryOn? {field : Field} {f : Filter} (h : f.type = field.type) :
    (FilterSlot.filter f).query? field = .ok (f.queryOn? field) := by
  cases f <;> simp only [FilterSlot.query?, ← h, type, queryOn?]

/-- A filter that restricts something becomes a query on a field of its type. -/
theorem exists_queryOn? (field : Field) {f : Filter} (hne : f.isEmpty = false) :
    ∃ q, f.queryOn? field = some q := by
  cases f with
  | integer f =>
    rw [queryOn?, integerQuery?]
    split
    · rename_i hnil
      exact absurd hnil (boundQueries_ne_nil hne)
    · exact ⟨_, rfl⟩
  | string f =>
    rw [queryOn?, stringQuery?]
    exact ⟨_, if_neg fun hnil => alternatives_ne_nil hne (List.isEmpty_iff.1 hnil)⟩
  | boolean f =>
    have hvalue : ¬ f.value.isNull = true := by simpa [isEmpty] using hne
    exact ⟨_, if_neg hvalue⟩

/-- Every filter that is read stands under the name of a field that can have it. -/
theorem keys_ofParams {params : Record Key Value} {fields : List Field}
    {filters : Record String Filter} (hnames : (fields.map Field.name).Nodup)
    (h : ofParams params fields = .ok filters) :
    filters.keys = (fields.filter (·.type.isFilterable)).map Field.name := by
  have hread := (ofParams_eq_ok_iff hnames).1 h
  have hkeys := List.forall₂_map_left_iff.2 (List.forall₂_map_right_iff.2
    (hread.imp fun f e hfe => hfe.1))
  rw [List.forall₂_eq_eq_eq] at hkeys
  exact hkeys.symm

theorem fits_of_ofParams {params : Record Key Value} {filters : Record String Filter}
    (h : ofParams params c.filterable = .ok filters) : ∀ e ∈ filters, c.Fits e := by
  intro e he
  rw [ofParams_eq_mapM c.nodup_filterable] at h
  obtain ⟨f, hf, hentry⟩ := exists_of_mem_mapM h he
  obtain ⟨hname, hfilter⟩ := entryOf_eq_ok_iff.1 hentry
  have hmem : f ∈ c.fields := (List.mem_filter.1 (List.mem_filter.1 hf).1).1
  exact ⟨f, by rw [← hname, Catalog.find?_of_mem hmem], type_of_ofParam hfilter⟩

end Filter

namespace Catalog

theorem filterQuery?_of_find? {e : String × Filter} {field : Field}
    (h : c.find? e.1 = some field) :
    c.filterQuery? (e.1, .filter e.2) =
      if e.2.isEmpty then .ok none else (FilterSlot.filter e.2).query? field := by
  simp only [filterQuery?, h, FilterSlot.isEmpty, ok_bind]
  rfl

theorem filterQueries_cons (entry : String × FilterSlot) (filters : Record String FilterSlot) :
    c.filterQueries (entry :: filters) = do
      let query? ← c.filterQuery? entry
      let queries ← c.filterQueries filters
      return query?.toList ++ queries := by
  simp only [filterQueries, List.mapM_cons]
  cases c.filterQuery? entry with
  | error e => rfl
  | ok query? =>
    cases filters.mapM c.filterQuery? with
    | error e => rfl
    | ok queries? => cases query? <;> rfl

theorem filterQuery?_of_fits {e : String × Filter} (h : c.Fits e) :
    (e.2.isEmpty = true ∧ c.filterQuery? (e.1, .filter e.2) = .ok none) ∨
      (e.2.isEmpty = false ∧ ∃ q, c.MakesQuery e q ∧
        c.filterQuery? (e.1, .filter e.2) = .ok (some q)) := by
  obtain ⟨field, hfield, htype⟩ := h
  cases hempty : e.2.isEmpty with
  | true =>
    refine .inl ⟨rfl, ?_⟩
    rw [filterQuery?_of_find? hfield, if_pos hempty]
  | false =>
    obtain ⟨q, hq⟩ := Filter.exists_queryOn? field hempty
    rw [← Except.ok.injEq, ← Filter.query?_eq_queryOn? htype] at hq
    refine .inr ⟨rfl, q, ⟨field, hfield, hq⟩, ?_⟩
    rw [filterQuery?_of_find? hfield, hempty, if_neg Bool.false_ne_true, hq]

/-- Fitting filters make one query each, in their order, save those that restrict nothing. -/
theorem filterQueries_of_fits {filters : Record String Filter} (h : ∀ e ∈ filters, c.Fits e) :
    ∃ qs, c.filterQueries (filters.map fun e => (e.1, .filter e.2)) = .ok qs ∧
      List.Forall₂ c.MakesQuery (filters.filter fun e => !e.2.isEmpty) qs := by
  induction filters with
  | nil => exact ⟨[], rfl, .nil⟩
  | cons e filters ih =>
    rw [List.forall_mem_cons] at h
    obtain ⟨qs, hqs, hall⟩ := ih h.2
    rw [List.map_cons, filterQueries_cons, hqs]
    obtain ⟨hempty, hquery⟩ | ⟨hempty, q, hmakes, hquery⟩ := filterQuery?_of_fits h.1
    · rw [hquery, List.filter_cons_of_neg (by simp [hempty])]
      exact ⟨qs, rfl, hall⟩
    · rw [hquery, List.filter_cons_of_pos (by simp [hempty])]
      exact ⟨q :: qs, rfl, .cons hmakes hall⟩

end Catalog

/-! ## What can still fail -/

/-- A failure that no catalog is to blame for. -/
abbrev NotLogic (e : Error) : Prop := e.isLogic = false

namespace Value

theorem toNumber_notLogic (v : Value) : FailsOnly NotLogic v.toNumber := by
  unfold toNumber
  split
  · exact failsOnly_ok _
  · exact failsOnly_error rfl

theorem toCount_notLogic (v : Value) : FailsOnly NotLogic v.toCount := by
  unfold toCount
  split
  · split
    · exact failsOnly_ok _
    · exact failsOnly_error rfl
  · exact failsOnly_error rfl

theorem repeatText_notLogic (s : String) (count : Int) :
    FailsOnly NotLogic (repeatText s count) := by
  unfold repeatText
  simp only
  split
  · exact failsOnly_error rfl
  · split
    · exact failsOnly_error rfl
    · exact failsOnly_ok _

theorem repeatItems_notLogic (items : List Value) (count : Int) :
    FailsOnly NotLogic (repeatItems items count) := by
  unfold repeatItems
  split
  · exact failsOnly_error rfl
  · exact failsOnly_ok _

end Value

namespace Number

theorem toDouble_notLogic (n : Number) : FailsOnly NotLogic n.toDouble := by
  unfold toDouble
  split
  · exact failsOnly_ok _
  · split
    · exact failsOnly_ok _
    · exact failsOnly_error rfl

theorem combine_notLogic (ints : Int → Int → Int) (doubles : Float → Float → Float)
    (a b : Number) : FailsOnly NotLogic (combine ints doubles a b) := by
  unfold combine
  split
  · exact failsOnly_ok _
  · exact (toDouble_notLogic _).bind fun _ => (toDouble_notLogic _).bind_ok

end Number

namespace Value

theorem sub_notLogic (v w : Value) : FailsOnly NotLogic (v.sub w) :=
  (toNumber_notLogic v).bind fun _ => (toNumber_notLogic w).bind fun _ =>
    (Number.combine_notLogic _ _ _ _).bind_ok

theorem mul_notLogic (v w : Value) : FailsOnly NotLogic (v.mul w) := by
  unfold mul
  split
  · exact (toCount_notLogic _).bind fun _ => repeatText_notLogic _ _
  · exact (toCount_notLogic _).bind fun _ => repeatText_notLogic _ _
  · exact (toCount_notLogic _).bind fun _ => repeatItems_notLogic _ _
  · exact (toCount_notLogic _).bind fun _ => repeatItems_notLogic _ _
  · exact (toNumber_notLogic v).bind fun _ => (toNumber_notLogic w).bind fun _ =>
      (Number.combine_notLogic _ _ _ _).bind_ok

end Value

theorem SearchRequest.offset_notLogic (r : SearchRequest) : FailsOnly NotLogic r.offset :=
  (Value.sub_notLogic _ _).bind fun _ => Value.mul_notLogic _ _

theorem FieldType.isFilterable_eq_false_iff {type : FieldType} :
    type.isFilterable = false ↔ type = .text ∨ type = .url := by
  cases type <;> simp [isFilterable]

namespace Field

/-- What is wrong with a field that is to have statistics: its type has none. -/
def uncounted? (f : Field) : Option Error :=
  if f.type = .text ∨ f.type = .url then some (.unsupportedAggregation f.name f.type) else none

theorem uncounted?_eq_none_iff {f : Field} :
    f.uncounted? = none ↔ f.type.isFilterable = true := by
  rw [uncounted?, ← Bool.not_eq_false, FieldType.isFilterable_eq_false_iff]
  split <;> simp_all

theorem isLogic_of_uncounted? {f : Field} {e : Error} (h : f.uncounted? = some e) :
    e.isLogic = true := by
  unfold uncounted? at h
  split at h
  · rw [← Option.some.inj h]
    rfl
  · cases h

theorem errorOf?_aggregations (f : Field) : errorOf? f.aggregations = f.uncounted? := by
  unfold uncounted?
  cases htype : f.type.isFilterable with
  | true =>
    rw [aggregations_eq_ok htype, if_neg (by simp [← FieldType.isFilterable_eq_false_iff, htype])]
    rfl
  | false =>
    rw [aggregations, htype, if_pos (FieldType.isFilterable_eq_false_iff.1 htype)]
    rfl

theorem errorOf?_plan (fields : List Field) :
    errorOf? (Aggregation.plan fields) = fields.findSome? uncounted? := by
  rw [Aggregation.plan]
  refine errorOf?_bind_ok.trans ?_
  rw [errorOf?_mapM]
  exact congrArg (List.findSome? · fields) (funext errorOf?_aggregations)

end Field

/-- Statistics can be asked for unless some field has a type without any; nothing else fails. -/
theorem Aggregation.plan_cases (fields : List Field) :
    ((∀ f ∈ fields, f.type.isFilterable = true) ∧
        ∃ aggregations, plan fields = .ok aggregations) ∨
      ((∃ f ∈ fields, f.type.isFilterable = false) ∧
        ∃ e, plan fields = .error e ∧ e.isLogic = true) := by
  have hfailure := Field.errorOf?_plan fields
  cases hfirst : fields.findSome? Field.uncounted? with
  | none =>
    rw [hfirst] at hfailure
    refine .inl ⟨fun f hf => ?_, errorOf?_eq_none_iff.1 hfailure⟩
    exact Field.uncounted?_eq_none_iff.1 (List.findSome?_eq_none_iff.1 hfirst f hf)
  | some e =>
    rw [hfirst] at hfailure
    obtain ⟨f, hf, hwrong⟩ := List.exists_of_findSome?_eq_some hfirst
    refine .inr ⟨⟨f, hf, ?_⟩, e, errorOf?_eq_some_iff.1 hfailure,
      Field.isLogic_of_uncounted? hwrong⟩
    rw [← Bool.not_eq_true, ← Field.uncounted?_eq_none_iff, hwrong]
    exact Option.some_ne_none e

namespace SearchPlan

theorem textQuery?_str {names : List String} (h : c.boostedNames = .ok names) (s : String) :
    ∃ text?, c.textQuery? (.str s) = .ok text? := by
  obtain ⟨t, ht⟩ : ∃ t, (Value.str s).toText = .ok t := by
    unfold Value.toText Value.orElse
    cases (Value.str s).isAbsent with
    | true => exact ⟨"", rfl⟩
    | false => exact ⟨s, rfl⟩
  rw [Catalog.textQuery?, h, ok_bind, ht, ok_bind]
  split
  · exact ⟨_, rfl⟩
  · exact ⟨_, rfl⟩

theorem logged_notLogic {p : SearchPlan} (h : p.query.Writable) : FailsOnly NotLogic p.logged := by
  intro e he
  rw [(logged_succeedsIff h).error_eq he]
  rfl

/-- The parts of a request that parameters decide. -/
theorem parts_of_ofParams {seed : SeedSource} {perPage : Value} {params : Record Key Value}
    {r : SearchRequest} (h : SearchRequest.ofParams c seed perPage params = .ok r) :
    (∃ s, r.text = .str s) ∧ (∃ s, r.seed = .str s) ∧ r.perPage = perPage ∧
      ∃ filters, Filter.ofParams params c.filterable = .ok filters ∧
        r.filters = filters.map fun e => (e.1, .filter e.2) := by
  obtain ⟨_, -, h⟩ := bind_eq_ok.1 h
  obtain ⟨_, -, h⟩ := bind_eq_ok.1 h
  obtain ⟨filters, hfilters, h⟩ := bind_eq_ok.1 h
  obtain ⟨_, -, h⟩ := bind_eq_ok.1 h
  obtain ⟨_, -, h⟩ := bind_eq_ok.1 h
  cases h
  exact ⟨⟨_, rfl⟩, ⟨_, rfl⟩, rfl, filters, hfilters, rfl⟩

/-- Filters read from a link fit the catalog and become one query each, so that the plan of a
request made of parameters fails for its catalog only: for a field that is offered as a filter and
has a type without filters. -/
theorem ofParams_fits (c : Catalog) (settings : PlanSettings) (seed : SeedSource) (perPage : Value)
    (params : Record Key Value) :
    (∀ filters, Filter.ofParams params c.filterable = .ok filters →
      filters.keys = (c.filterable.filter (·.type.isFilterable)).map Field.name ∧
      (∀ e ∈ filters, c.Fits e) ∧
      ∃ qs, c.filterQueries (filters.map fun e => (e.1, .filter e.2)) = .ok qs ∧
        List.Forall₂ c.MakesQuery (filters.filter fun e => !e.2.isEmpty) qs) ∧
    ∀ r names, SearchRequest.ofParams c seed perPage params = .ok r →
      r.isOutside settings.maxResultWindow = .ok false → c.boostedNames = .ok names →
      ((∃ e, ofRequest c settings r = .error e ∧ e.isLogic = true) ↔
        ∃ f ∈ c.filterable, f.type = .text ∨ f.type = .url) := by
  constructor
  · intro filters h
    have hfits := Filter.fits_of_ofParams h
    exact ⟨Filter.keys_ofParams c.nodup_filterable h, hfits, Catalog.filterQueries_of_fits hfits⟩
  · intro r names hrequest hinside hnames
    obtain ⟨⟨s, hs⟩, -, -, filters, hfilters, hslots⟩ := parts_of_ofParams hrequest
    obtain ⟨text?, htext⟩ := textQuery?_str hnames s
    obtain ⟨qs, hqs, -⟩ := Catalog.filterQueries_of_fits (Filter.fits_of_ofParams hfilters)
    rw [← hs] at htext
    rw [← hslots] at hqs
    rw [ofRequest_of_inside hinside htext hqs]
    simp only [← FieldType.isFilterable_eq_false_iff]
    obtain ⟨hall, aggregations, hplan⟩ | ⟨hsome, e, hplan, he⟩ :=
      Aggregation.plan_cases c.filterable
    · rw [hplan, ok_bind]
      refine iff_of_false ?_ ?_
      · rintro ⟨e, he, hlogic⟩
        have hnot : e.isLogic = false :=
          r.offset_notLogic.bind (fun _ => logged_notLogic (writable_queryOf htext hqs)) e he
        rw [hlogic] at hnot
        cases hnot
      · rintro ⟨f, hf, hfalse⟩
        rw [hall f hf] at hfalse
        cases hfalse
    · rw [hplan]
      exact iff_of_true ⟨e, rfl, he⟩ hsome

/-- A catalog that wrongly offers its links as a filter. -/
def linkedBooks : Catalog where
  fields := [
    { name := "link", type := .url, filterable := .bool true },
    { name := "pages", type := .integer, filterable := .bool true },
    { name := "inPrint", type := .boolean, filterable := .bool true },
    { name := "author", type := .string, filterable := .bool true, freetext := .bool true }]
  nodup := by decide

def longBooks : Record Key Value :=
  [("pages", .str "≥200~unknown"), ("inPrint", .str "maybe"), ("author", .str "Le Guin~unknown~")]

theorem ofParams_fits_linkedBooks :
    ∃ filters r names, Filter.ofParams longBooks linkedBooks.filterable = .ok filters ∧
      SearchRequest.ofParams linkedBooks (.fixed (.str "s")) (.ofInt 20) longBooks = .ok r ∧
      r.isOutside (.ofInt 5000) = .ok false ∧ linkedBooks.boostedNames = .ok names ∧
      filters.keys = ["pages", "inPrint", "author"] ∧
      (∃ e, ofRequest linkedBooks {} r = .error e ∧ e.isLogic = true) := by
  obtain ⟨hfilters, hplan⟩ :=
    ofParams_fits linkedBooks {} (.fixed (.str "s")) (.ofInt 20) longBooks
  obtain ⟨hkeys, -⟩ := hfilters _ rfl
  refine ⟨_, _, _, rfl, rfl, rfl, rfl, hkeys, (hplan _ _ rfl rfl rfl).2 ?_⟩
  exact ⟨{ name := "link", type := .url, filterable := .bool true },
    by simp [linkedBooks, Catalog.filterable, Value.isPresent, Value.isAbsent], .inr rfl⟩

end SearchPlan

end FacetSearch
