import FacetSearch.Proofs.FittingFilters
import FacetSearch.Proofs.Numbers

/-!
# Which failure comes first

A plan is refused for its page, for a filter that does not fit its field (`Catalog.misfit?`), or for
a filterable field without statistics (`Field.uncounted?`), and for nothing else, if pages and window
are whole numbers, seed and id field are texts and the boosts can be written. The three are looked
for in this order, filters in the order of the request and fields in that of the catalog. So the
failure of a plan is the first there is (`SearchPlan.ofRequest_firstFailure`), and filters that
restrict nothing have no part in it. Numbers too long to be written show in two places only: the
message for a page outside the window cannot be made, and a plan that would be made cannot be put on
the log.
-/

namespace FacetSearch

open Outcome

/-! ## Pages -/

namespace SearchRequest

variable {r : SearchRequest}

/-- A page of plain numbers lies outside the window if it is below 1 or ends behind the window. -/
theorem isOutside_ofInt {page perPage window : Int} (hpage : r.page = .ofInt page)
    (hperPage : r.perPage = .ofInt perPage) :
    r.isOutside (.ofInt window) = .ok (decide (page < 1 ∨ window < page * perPage)) := by
  rw [isOutside, hpage, hperPage, Value.lt_ofInt, ok_bind, Number.lt_int, Value.mul_ofInt, ok_bind,
    Value.lt_ofInt, Number.lt_int]
  by_cases h : page < 1
  · rw [decide_eq_true h, if_pos rfl, decide_eq_true (.inl h)]
    rfl
  · simp [h]

theorem offset_ofInt {page perPage : Int} (hpage : r.page = .ofInt page)
    (hperPage : r.perPage = .ofInt perPage) : r.offset = .ok (.ofInt (perPage * (page - 1))) := by
  rw [offset, hpage, hperPage, Value.sub_ofInt, ok_bind, Value.mul_ofInt]

/-- The failure of a page outside the window words three numbers. -/
theorem outOfRange_ofInt {page perPage window : Int} (hpage : r.page = .ofInt page)
    (hperPage : r.perPage = .ofInt perPage) (hpageShort : IsShort page)
    (hperPageShort : IsShort perPage) (hwindowShort : IsShort window) :
    r.outOfRange (.ofInt window) =
      .ok (.outOfRange (toString page) (toString perPage) (toString window)) := by
  rw [outOfRange, hpage, hperPage, Value.text_ofInt hpageShort, ok_bind,
    Value.text_ofInt hperPageShort, ok_bind, Value.text_ofInt hwindowShort]
  rfl

theorem outOfRange_succeedsIff {page perPage window : Int} (hpage : r.page = .ofInt page)
    (hperPage : r.perPage = .ofInt perPage) :
    SucceedsIff (IsShort page ∧ IsShort perPage ∧ IsShort window) tooLong
      (r.outOfRange (.ofInt window)) := by
  rw [outOfRange, hpage, hperPage]
  simp only [← Value.worded_ofInt]
  exact (Value.text_succeedsIff _).bind fun _ _ => (Value.text_succeedsIff _).bind fun _ _ =>
    (Value.text_succeedsIff _).bind_ok

end SearchRequest

/-! ## Filters -/

namespace Catalog

variable {c : Catalog}

/-- What is wrong with a filter of a request: it restricts a field of the catalog and is not for
fields of that type. -/
def misfit? (c : Catalog) (entry : String × Filter) : Option Error :=
  (c.fields.find? fun field => field.name = entry.1).bind fun field =>
    if entry.2.Restricts ∧ entry.2.type ≠ field.type then
      some (.unsupportedFilter entry.2.kindName field.name field.type)
    else none

/-- The filter is on a field of the catalog and does not let every document pass. -/
def restricts (c : Catalog) (entry : String × Filter) : Bool :=
  decide ((∃ field ∈ c.fields, field.name = entry.1) ∧ entry.2.Restricts)

theorem restricts_iff {entry : String × Filter} :
    c.restricts entry = true ↔ (∃ field, c.find? entry.1 = some field) ∧ entry.2.Restricts := by
  simp only [restricts, decide_eq_true_iff, find?_eq_some_iff]

theorem query?_of_type_ne {field : Field} {f : Filter} (h : f.type ≠ field.type) :
    (FilterSlot.filter f).query? field =
      .error (.unsupportedFilter f.kindName field.name field.type) := by
  obtain ⟨name, type⟩ := field
  cases f <;> cases type <;> first | rfl | exact absurd rfl h

theorem filterQuery?_of_restricts_eq_false {entry : String × Filter}
    (h : ¬ c.restricts entry = true) : c.filterQuery? (entry.1, .filter entry.2) = .ok none := by
  rw [restricts_iff] at h
  cases hfield : c.find? entry.1 with
  | none =>
    simp only [filterQuery?, hfield]
  | some field =>
    have hempty : entry.2.isEmpty = true :=
      Filter.isEmpty_iff.2 fun hrestricts => h ⟨⟨field, hfield⟩, hrestricts⟩
    rw [filterQuery?_of_find? hfield, if_pos hempty]

theorem errorOf?_filterQuery? (entry : String × Filter) :
    errorOf? (c.filterQuery? (entry.1, .filter entry.2)) = c.misfit? entry := by
  change _ = (c.find? entry.1).bind _
  cases hfield : c.find? entry.1 with
  | none =>
    simp only [filterQuery?, hfield]
    rfl
  | some field =>
    rw [filterQuery?_of_find? hfield, Option.bind_some]
    by_cases hrestricts : entry.2.Restricts
    · rw [if_neg (by rwa [Filter.isEmpty_iff, not_not])]
      by_cases htype : entry.2.type = field.type
      · rw [Filter.query?_eq_queryOn? htype, if_neg fun h => h.2 htype]
        rfl
      · rw [query?_of_type_ne htype, if_pos ⟨hrestricts, htype⟩]
        rfl
    · rw [if_pos (Filter.isEmpty_iff.2 hrestricts), if_neg fun h => hrestricts h.1]
      rfl

theorem errorOf?_filterQueries (filters : Record String Filter) :
    errorOf? (c.filterQueries (filters.map fun e => (e.1, .filter e.2))) =
      filters.findSome? c.misfit? := by
  rw [filterQueries, errorOf?_map, errorOf?_mapM, List.findSome?_map]
  exact congrArg (List.findSome? · filters) (funext errorOf?_filterQuery?)

/-- Only a filter that restricts something brings its numbers into a query. -/
theorem worded_filterQuery? {name : String} {f : Filter} {q? : Option Query}
    (h : c.filterQuery? (name, .filter f) = .ok q?) :
    (∀ q, q? = some q → q.Worded) ↔ (c.restricts (name, f) = true → f.Worded) := by
  by_cases hrestricts : c.restricts (name, f) = true
  · obtain ⟨⟨field, hfield⟩, hrestricted⟩ := restricts_iff.1 hrestricts
    rw [filterQuery?_of_find? hfield, if_neg (by rwa [Filter.isEmpty_iff, not_not])] at h
    have htype : f.type = field.type := by
      by_contra hne
      rw [query?_of_type_ne hne] at h
      cases h
    obtain ⟨q, hq⟩ := Filter.exists_queryOn? field (Filter.isEmpty_eq_false_iff.2 hrestricted)
    obtain rfl : some q = q? := by
      rw [Filter.query?_eq_queryOn? htype, hq] at h
      exact Except.ok.inj h
    simp [hrestricts, Filter.worded_query? h]
  · rw [filterQuery?_of_restricts_eq_false hrestricts] at h
    cases h
    simp [hrestricts]

theorem worded_filterQueries {filters : Record String Filter} {queries : List Query}
    (h : c.filterQueries (filters.map fun e => (e.1, .filter e.2)) = .ok queries) :
    (∀ q ∈ queries, q.Worded) ↔
      ∀ entry ∈ filters, c.restricts entry = true → entry.2.Worded := by
  have hstep (entry : String × FilterSlot) (q? : Option Query) (hq : c.filterQuery? entry = .ok q?) :
      (∀ q, q? = some q → q.Worded) ↔
        ∀ f, entry.2 = .filter f → c.restricts (entry.1, f) = true → f.Worded := by
    obtain ⟨name, f | v⟩ := entry
    · simpa using worded_filterQuery? hq
    · unfold filterQuery? at hq
      split at hq
      · cases hq
        simp
      · cases hq
  rw [forall_filterQueries hstep h, List.forall_mem_map]
  simp

end Catalog

/-! ## Plans -/

/-- The first thing wrong with the filters of a request or, if they are all right, with the fields
of the catalog. -/
def Catalog.refusal? (c : Catalog) (filters : Record String Filter) : Option Error :=
  (filters.findSome? c.misfit?).or (c.filterable.findSome? Field.uncounted?)

namespace Catalog

end Catalog

namespace SearchPlan

variable {c : Catalog} {settings : PlanSettings} {r : SearchRequest}

/-! A page outside the window is refused before anything else is looked at. -/

section Outside

variable {page perPage window : Int} (hpage : r.page = .ofInt page)
  (hperPage : r.perPage = .ofInt perPage) (hwindow : settings.maxResultWindow = .ofInt window)
  (houtside : page < 1 ∨ window < page * perPage)

include hpage hperPage hwindow houtside

theorem ofRequest_eq_outOfRange :
    ofRequest c settings r = r.outOfRange (.ofInt window) >>= .error := by
  rw [← hwindow]
  refine ofRequest_of_outside ?_
  rw [hwindow, SearchRequest.isOutside_ofInt hpage hperPage, decide_eq_true houtside]

theorem ofRequest_outOfRange (hpageShort : IsShort page) (hperPageShort : IsShort perPage)
    (hwindowShort : IsShort window) : ofRequest c settings r =
      .error (.outOfRange (toString page) (toString perPage) (toString window)) := by
  rw [ofRequest_eq_outOfRange hpage hperPage hwindow houtside,
    SearchRequest.outOfRange_ofInt hpage hperPage hpageShort hperPageShort hwindowShort]
  rfl

theorem ofRequest_outside_tooLong (h : ¬ (IsShort page ∧ IsShort perPage ∧ IsShort window)) :
    ofRequest c settings r = .error tooLong := by
  rw [ofRequest_eq_outOfRange hpage hperPage hwindow houtside,
    (SearchRequest.outOfRange_succeedsIff hpage hperPage).2 h]
  rfl

end Outside

/-! Inside the window filters and fields are looked at, and then the plan is put on the log. -/

section Inside

variable {filters : Record String Filter} {names : List String} {text : String} {offset : Value}
  (hinside : r.isOutside settings.maxResultWindow = .ok false) (hoffset : r.offset = .ok offset)
  (htext : r.text = .str text) (hfilters : r.filters = filters.map fun e => (e.1, .filter e.2))
  (hnames : c.boostedNames = .ok names)

include hinside hoffset htext hnames in
theorem ofRequest_eq_steps : ∃ text?, c.textQuery? r.text = .ok text? ∧
    ofRequest c settings r = (do
      let queries ← c.filterQueries r.filters
      let aggregations ← Aggregation.plan c.filterable
      logged ⟨queryOf settings r text? queries, r.sortKey.criteria, aggregations, offset, r.perPage,
        text?.isSome⟩) := by
  obtain ⟨text?, htext?⟩ := textQuery?_str hnames text
  rw [← htext] at htext?
  refine ⟨text?, htext?, ?_⟩
  rw [ofRequest, hinside, ok_bind, if_neg Bool.false_ne_true, htext?, hoffset]
  rfl

include hinside hoffset htext hfilters hnames

/-- Where nothing is wrong with filters and fields, only the numbers of the filters can be too long
for the log. -/
theorem ofRequest_succeedsIff {seed idField : String} (hseed : r.seed = .str seed)
    (hid : settings.idField = .str idField) (h : c.refusal? filters = none) :
    SucceedsIff (∀ entry ∈ filters, c.restricts entry = true → entry.2.Worded) tooLong
      (ofRequest c settings r) := by
  obtain ⟨text?, htext?, hsteps⟩ := ofRequest_eq_steps hinside hoffset htext hnames
  obtain ⟨hfilter, hfield⟩ := Option.or_eq_none_iff.1 h
  obtain ⟨queries, hqueries⟩ : ∃ queries, c.filterQueries r.filters = .ok queries := by
    rw [← errorOf?_eq_none_iff, hfilters, Catalog.errorOf?_filterQueries, hfilter]
  obtain ⟨aggregations, hplan⟩ : ∃ aggregations, Aggregation.plan c.filterable = .ok aggregations := by
    rw [← errorOf?_eq_none_iff, Field.errorOf?_plan, hfield]
  rw [hsteps, hqueries, ok_bind, hplan, ok_bind]
  refine (logged_succeedsIff (writable_queryOf htext? hqueries)).of_iff ?_
  rw [hfilters] at hqueries
  rw [worded_queryOf htext? hseed hid, Catalog.worded_filterQueries hqueries]

end Inside

end SearchPlan

end FacetSearch
