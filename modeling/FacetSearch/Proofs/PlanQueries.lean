import FacetSearch.Proofs.PlanMeaning
import FacetSearch.Proofs.Wording
import FacetSearch.Proofs.Writable

/-!
# The queries of plans as objects

Whatever plans are made of has an object, since it is written under names of fields
(`SearchPlan.writable_query`). So a plan can be put on the log unless a number in its query is too
long to be written (`SearchPlan.logged_succeedsIff`). Numbers come into a query with the bounds and
values of its filters only (`Filter.worded_query?`), and with the seed and the field of a random
order (`SearchPlan.worded_queryOf`).
-/

namespace FacetSearch

open Outcome

variable {c : Catalog}

namespace Filter

theorem writable_orUnknown (name : String) (includeUnknown : Value) {q : Query} (h : q.Writable) :
    (orUnknown name includeUnknown q).Writable := by
  unfold orUnknown
  split
  · refine Query.writable_anyOf ?_
    simpa using ⟨h, Query.writable_missing _⟩
  · exact h

theorem writable_integerQuery? {name : String} {f : IntegerFilter} {q : Query}
    (h : integerQuery? name f = some q) : q.Writable := by
  have hbounds : ∀ b ∈ boundQueries name f.minimum f.maximum, b.Writable := by
    intro b hb
    unfold boundQueries at hb
    rcases List.mem_append.1 hb with hb | hb
    all_goals
      split at hb
      · cases hb
      · rw [List.mem_singleton.1 hb]
        exact Query.writable_range (Target.keyed_named name) _ _
  unfold integerQuery? at h
  split at h
  · cases h
  · cases h
    exact writable_orUnknown name _ (Query.writable_allOf hbounds)

theorem writable_booleanQuery? {name : String} {f : BooleanFilter} {q : Query}
    (h : booleanQuery? name f = some q) : q.Writable := by
  unfold booleanQuery? at h
  split at h
  · cases h
  · cases h
    exact writable_orUnknown name _ (Query.writable_term (Target.keyed_named name) _)

theorem writable_stringQuery? {field : Field} {f : StringFilter} {q : Query}
    (h : stringQuery? field f = some q) : q.Writable := by
  unfold stringQuery? at h
  obtain ⟨-, h⟩ := Option.ite_none_left_eq_some.1 h
  cases h
  refine Query.writable_anyOf fun q hq => ?_
  rcases List.mem_append.1 hq with hq | hq
  · obtain ⟨v, -, rfl⟩ := List.mem_map.1 hq
    exact Query.writable_term (Target.keyed_named _) v
  · split at hq
    · rw [List.mem_singleton.1 hq]
      exact Query.writable_missing _
    · cases hq

theorem writable_query? {slot : FilterSlot} {field : Field} {q : Query}
    (h : slot.query? field = .ok (some q)) : q.Writable := by
  obtain ⟨f, -, hq⟩ | ⟨f, -, hq⟩ | ⟨f, -, hq⟩ := query?_eq_ok h
  · exact writable_integerQuery? hq
  · exact writable_booleanQuery? hq
  · exact writable_stringQuery? hq

end Filter

namespace Catalog

theorem writable_filterQuery? {entry : String × FilterSlot} {q : Query}
    (h : c.filterQuery? entry = .ok (some q)) : q.Writable := by
  unfold filterQuery? at h
  split at h
  · cases h
  · obtain ⟨empty, -, h⟩ := bind_eq_ok.1 h
    cases empty with
    | true => cases h
    | false => exact Filter.writable_query? h

theorem writable_filterQueries {filters : Record String FilterSlot} {qs : List Query}
    (h : c.filterQueries filters = .ok qs) : ∀ q ∈ qs, q.Writable := by
  have hstep (entry : String × FilterSlot) (q? : Option Query) (hq : c.filterQuery? entry = .ok q?) :
      (∀ q, q? = some q → q.Writable) ↔ True := by
    refine iff_true_intro fun q hsome => ?_
    rw [hsome] at hq
    exact writable_filterQuery? hq
  exact (forall_filterQueries hstep h).2 fun _ _ => trivial

theorem writable_textQuery? {text : Value} {q : Query} (h : c.textQuery? text = .ok (some q)) :
    q.Writable := by
  obtain ⟨names, -, h⟩ := bind_eq_ok.1 h
  obtain ⟨s, -, h⟩ := bind_eq_ok.1 h
  split at h
  · cases h
  · cases h
    refine Query.writable_anyOf fun q hq => ?_
    obtain ⟨terms, -, rfl⟩ := List.mem_map.1 hq
    refine Query.writable_allOf fun q hq => ?_
    obtain ⟨term, -, rfl⟩ := List.mem_map.1 hq
    exact Query.writable_acrossFields _ _ _ _ _

end Catalog

/-! ## Numbers too long to be written -/

namespace Filter

/-- No number that the filter asks for is too long to be written. -/
def Worded : Filter → Prop
  | integer f => f.minimum.Worded ∧ f.maximum.Worded
  | string f => ∀ v ∈ f.values, v.Worded
  | boolean f => f.value.Worded

theorem worded_orUnknown {name : String} {includeUnknown : Value} {q : Query} :
    (orUnknown name includeUnknown q).Worded ↔ q.Worded := by
  unfold orUnknown
  split
  · simp [Query.worded_anyOf, Query.worded_missing]
  · exact Iff.rfl

theorem worded_boundQueries {name : String} {minimum maximum : Value} :
    (∀ q ∈ boundQueries name minimum maximum, q.Worded) ↔ minimum.Worded ∧ maximum.Worded := by
  unfold boundQueries
  rw [List.forall_mem_append]
  apply and_congr
  · cases minimum <;> simp [Value.isNull, Query.worded_range]
  · cases maximum <;> simp [Value.isNull, Query.worded_range]

theorem worded_alternatives {field : Field} {f : StringFilter} :
    (∀ q ∈ f.values.map (Query.term (.named field.exactName)) ++
        (if f.includeUnknown.isPresent then [.missing (.str field.name)] else []), q.Worded) ↔
      ∀ v ∈ f.values, v.Worded := by
  rw [List.forall_mem_append, List.forall_mem_map]
  cases f.includeUnknown.isPresent <;> simp [Query.worded_term, Query.worded_missing]

theorem worded_query? {f : Filter} {field : Field} {q : Query}
    (h : (FilterSlot.filter f).query? field = .ok (some q)) : q.Worded ↔ f.Worded := by
  obtain ⟨g, hslot, hq⟩ | ⟨g, hslot, hq⟩ | ⟨g, hslot, hq⟩ := query?_eq_ok h
  all_goals cases hslot
  · unfold integerQuery? at hq
    split at hq
    · cases hq
    · cases hq
      rw [worded_orUnknown, Query.worded_allOf, worded_boundQueries, Worded]
  · obtain ⟨-, hq⟩ := Option.ite_none_left_eq_some.1 hq
    cases hq
    rw [worded_orUnknown, Query.worded_term, Worded]
  · obtain ⟨-, hq⟩ := Option.ite_none_left_eq_some.1 hq
    cases hq
    rw [Query.worded_anyOf, worded_alternatives, Worded]

end Filter

/-- Search texts hold no numbers. -/
theorem Catalog.worded_textQuery? {text : Value} {q : Query}
    (h : c.textQuery? text = .ok (some q)) : q.Worded := by
  obtain ⟨names, -, h⟩ := bind_eq_ok.1 h
  obtain ⟨s, -, h⟩ := bind_eq_ok.1 h
  have hterm (term : String) : (termQuery names term).Worded := by
    have hlength : (Value.ofInt fuzzyLength).Worded :=
      Value.worded_ofInt.2 (isShort_iff.2 (by decide))
    rw [termQuery, Query.worded_acrossFields]
    simp [hlength]
  split at h
  · cases h
  · cases h
    simp [Query.worded_anyOf, Query.worded_allOf, hterm]

namespace SearchPlan

variable {settings : PlanSettings} {r : SearchRequest} {p : SearchPlan}

theorem writable_queryOf {text : Value} {text? : Option Query}
    {filters : Record String FilterSlot} {queries : List Query}
    (htext : c.textQuery? text = .ok text?) (hfilters : c.filterQueries filters = .ok queries) :
    (queryOf settings r text? queries).Writable := by
  have hclauses : ∀ q ∈ text?.toList ++ queries, q.Writable := by
    intro q hq
    rcases List.mem_append.1 hq with hq | hq
    · rw [Option.mem_toList.1 hq] at htext
      exact Catalog.writable_textQuery? htext
    · exact Catalog.writable_filterQueries hfilters q hq
  have hall : (combine (text?.toList ++ queries)).Writable := by
    unfold combine
    refine Query.writable_allOf ?_
    split
    · simpa using Query.writable_matchAll _
    · exact hclauses
  rw [queryOf]
  split
  · exact Query.writable_random hall _ _ _
  · exact hall

/-- The query of a plan can be written. -/
theorem writable_query (h : ofRequest c settings r = .ok p) : p.query.Writable := by
  obtain ⟨text?, filters, -, htext, hfilters, -, -, hquery, -⟩ := ofRequest_eq_ok h
  rw [hquery]
  exact writable_queryOf htext hfilters

theorem worded_combine {clauses : List Query} :
    (combine clauses).Worded ↔ ∀ q ∈ clauses, q.Worded := by
  rw [combine, Query.worded_allOf]
  cases clauses with
  | nil => simp [Query.worded_matchAll]
  | cons q qs => simp

/-- A random order of texts brings no number into the query. -/
theorem worded_queryOf {text : Value} {text? : Option Query} {queries : List Query}
    {seed idField : String} (htext : c.textQuery? text = .ok text?) (hseed : r.seed = .str seed)
    (hid : settings.idField = .str idField) :
    (queryOf settings r text? queries).Worded ↔ ∀ q ∈ queries, q.Worded := by
  have hall : (combine (text?.toList ++ queries)).Worded ↔ ∀ q ∈ queries, q.Worded := by
    rw [worded_combine, List.forall_mem_append, and_iff_right]
    intro q hq
    rw [Option.mem_toList.1 hq] at htext
    exact Catalog.worded_textQuery? htext
  rw [queryOf]
  split
  · rw [Query.worded_shuffled, hall, hseed, hid]
    simp
  · exact hall

/-- A plan whose query has an object can be put on the log, unless a number in it is too long. -/
theorem logged_succeedsIff (h : p.query.Writable) : SucceedsIff p.query.Worded tooLong p.logged := by
  obtain ⟨v, hv⟩ := h
  rw [logged, logLine, hv, Query.worded_iff_of_render hv]
  exact v.text_succeedsIff.bind_ok.bind_ok

end SearchPlan

end FacetSearch
