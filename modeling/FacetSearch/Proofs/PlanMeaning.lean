import Mathlib.Data.List.Nodup
import FacetSearch.Proofs.Matching
import FacetSearch.Proofs.Outcome
import FacetSearch.Search.Plan

/-!
# The documents that a plan asks for

`SearchRequest.Wants` says in the terms of a request which documents it is for: those that hold its
text and pass its filters. It names the fields of the catalog and of the index by itself, apart from
what plans are made with. The query of a request's plan stands for exactly these documents. Each step
from the request to the query has its own lemma; where a step may give no query, the lemma says what
the absence means.
-/

namespace FacetSearch

open Outcome

variable {reading : Reading} {d : Document} {c : Catalog}

namespace Filter

/-- The flag that lets documents without a value pass. -/
def includeUnknown : Filter → Value
  | integer f => f.includeUnknown
  | string f => f.includeUnknown
  | boolean f => f.includeUnknown

/-- The filter does not let every document pass: it has a bound, a choice or a truth value, or it is
a choice of no text at all for documents without one. -/
def Restricts : Filter → Prop
  | integer f => f.minimum.isNull = false ∨ f.maximum.isNull = false
  | string f => f.values ≠ [] ∨ f.includeUnknown.isPresent = true
  | boolean f => f.value.isNull = false

theorem isEmpty_eq_false_iff {f : Filter} : f.isEmpty = false ↔ f.Restricts := by
  cases f with
  | integer f => simp [isEmpty, Restricts, imp_iff_not_or]
  | string f => simp [isEmpty, Restricts, Value.isPresent, imp_iff_not_or]
  | boolean f => rfl

theorem isEmpty_iff {f : Filter} : f.isEmpty = true ↔ ¬ f.Restricts := by
  rw [← isEmpty_eq_false_iff, Bool.not_eq_false]

instance (f : Filter) : Decidable f.Restricts := decidable_of_iff _ isEmpty_eq_false_iff

/-- The document has a value in the field, and it is one that the filter asks for. Texts are compared
as wholes, which the index keeps under a name of their own. -/
def Selects (field : Field) (d : Document) : Filter → Prop
  | integer f =>
    ∃ v, d.valueOf (.str field.name) = some v ∧ f.minimum.AtLeast v ∧ f.maximum.AtMost v
  | string f =>
    ∃ v, d.valueOf (.str (field.name ++ ".keyword")) = some v ∧ ∃ w ∈ f.values, v.eqv w = true
  | boolean f => ∃ v, d.valueOf (.str field.name) = some v ∧ v.eqv f.value = true

/-- The document passes the filter on a field. -/
def Admits (field : Field) (d : Document) (f : Filter) : Prop :=
  f.Selects field d ∨
    (f.includeUnknown.isPresent = true ∧ d.valueOf (.str field.name) = none)

end Filter

namespace Catalog

/-- The names that texts are looked up under: those of the freetext fields in the catalog's order,
each with its boost behind it. -/
def LooksUpIn (c : Catalog) (names : List String) : Prop :=
  List.Forall₂
    (fun f name => ∃ boost, Boost.text f.boost = .ok boost ∧ name = f.name ++ "^" ++ boost)
    (c.fields.filter fun f => f.freetext.isPresent) names

theorem boostedNames_eq_ok_iff {names : List String} :
    c.boostedNames = .ok names ↔ c.LooksUpIn names := by
  rw [boostedNames, mapM_eq_ok_iff, freetext, LooksUpIn]
  simp only [Field.boostedName, map_eq_ok, @eq_comm String]

theorem find?_of_mem {f : Field} (hf : f ∈ c.fields) : c.find? f.name = some f := by
  cases hfind : c.find? f.name with
  | none =>
    rw [find?, List.find?_eq_none] at hfind
    exact absurd (decide_eq_true rfl) (hfind f hf)
  | some g =>
    have hg : g ∈ c.fields := List.mem_of_find?_eq_some hfind
    rw [List.inj_on_of_nodup_map c.nodup hg hf (name_of_find? hfind)]

/-- No two fields share a name, so the field found is the one there is. -/
theorem find?_eq_some_iff {name : String} {f : Field} :
    c.find? name = some f ↔ f ∈ c.fields ∧ f.name = name := by
  constructor
  · exact fun h => ⟨List.mem_of_find?_eq_some h, name_of_find? h⟩
  · rintro ⟨hf, rfl⟩
    exact find?_of_mem hf

end Catalog

namespace SearchRequest

/-- The document holds all terms of some clause of the text, or there is none. -/
def FindsText (reading : Reading) (d : Document) (names : List String) (text : String) : Prop :=
  Clauses.ofText text = [] ∨
    ∃ terms ∈ Clauses.ofText text, ∀ term ∈ terms,
      reading.acrossFields (.str term) (.arr (names.map .str)) d

/-- If an entry of the filters restricts a field of the catalog, the document passes it. -/
def PassesEntry (c : Catalog) (d : Document) (entry : String × FilterSlot) : Prop :=
  ∀ field ∈ c.fields, field.name = entry.1 → ∀ f, entry.2 = .filter f → f.Restricts →
    f.Admits field d

/-- The document is one that the request is for. -/
def Wants (c : Catalog) (r : SearchRequest) (reading : Reading) (d : Document) : Prop :=
  (∃ text names, r.text.toText = .ok text ∧ c.LooksUpIn names ∧
      FindsText reading d names text) ∧
    ∀ entry ∈ r.filters, PassesEntry c d entry

end SearchRequest

namespace Filter

theorem matches_orUnknown {name : String} {flag : Value} {query : Query} :
    (orUnknown name flag query).Matches reading d ↔
      query.Matches reading d ∨ (flag.isPresent = true ∧ d.valueOf (.str name) = none) := by
  unfold orUnknown
  split
  · rename_i h
    rw [Query.matches_anyOf (List.cons_ne_nil _ _)]
    simp [Query.matches_missing, h]
  · rename_i h
    simp [h]

/-- A field has at most one value, so bounds that hold one by one hold of the same value. -/
theorem matches_boundQueries {name : String} {minimum maximum : Value}
    (h : (minimum.isNull && maximum.isNull) = false) :
    (∀ q ∈ boundQueries name minimum maximum, q.Matches reading d) ↔
      ∃ v, d.valueOf (.str name) = some v ∧ minimum.AtLeast v ∧ maximum.AtMost v := by
  unfold boundQueries
  cases hmin : minimum.isNull with
  | true =>
    cases hmax : maximum.isNull with
    | true => simp [hmin, hmax] at h
    | false => simp [Query.matches_range, Value.isNull_iff.1 hmin]
  | false =>
    cases hmax : maximum.isNull with
    | true => simp [Query.matches_range, Value.isNull_iff.1 hmax]
    | false =>
      simp only [Bool.false_eq_true, if_false, List.singleton_append]
      rw [List.forall_mem_cons, List.forall_mem_singleton, Query.matches_range, Query.matches_range]
      constructor
      · rintro ⟨⟨v, hv, hlow, -⟩, w, hw, -, hhigh⟩
        obtain rfl : v = w := Option.some.inj (hv.symm.trans hw)
        exact ⟨v, hv, hlow, hhigh⟩
      · rintro ⟨v, hv, hlow, hhigh⟩
        exact ⟨⟨v, hv, hlow, Value.atMost_null v⟩, v, hv, Value.atLeast_null v, hhigh⟩

theorem boundQueries_ne_nil {name : String} {minimum maximum : Value}
    (h : (minimum.isNull && maximum.isNull) = false) : boundQueries name minimum maximum ≠ [] := by
  unfold boundQueries
  cases hmin : minimum.isNull with
  | true => cases hmax : maximum.isNull <;> simp_all
  | false => simp

theorem integerQuery?_spec {field : Field} {f : IntegerFilter}
    (h : (integer f).isEmpty = false) :
    ∃ q, integerQuery? field.name f = some q ∧
      (q.Matches reading d ↔ (integer f).Admits field d) := by
  unfold integerQuery?
  split
  · rename_i hnil
    exact absurd hnil (boundQueries_ne_nil h)
  · exact ⟨_, rfl, by rw [matches_orUnknown, Query.matches_allOf, matches_boundQueries h]; rfl⟩

theorem booleanQuery?_spec {field : Field} {f : BooleanFilter}
    (h : (boolean f).isEmpty = false) :
    ∃ q, booleanQuery? field.name f = some q ∧
      (q.Matches reading d ↔ (boolean f).Admits field d) := by
  have hvalue : ¬ f.value.isNull = true := by simpa [isEmpty] using h
  rw [booleanQuery?, if_neg hvalue]
  exact ⟨_, rfl, by rw [matches_orUnknown, Query.matches_term]; rfl⟩

theorem alternatives_ne_nil {field : Field} {f : StringFilter} (h : (string f).isEmpty = false) :
    f.values.map (Query.term (.named field.exactName)) ++
      (if f.includeUnknown.isPresent then [.missing (.str field.name)] else []) ≠ [] := by
  intro hnil
  obtain ⟨hvalues, hunknown⟩ := List.append_eq_nil_iff.1 hnil
  simp_all [isEmpty, Value.isPresent]

theorem stringQuery?_spec {field : Field} {f : StringFilter} (h : (string f).isEmpty = false) :
    ∃ q, stringQuery? field f = some q ∧
      (q.Matches reading d ↔ (string f).Admits field d) := by
  unfold stringQuery?
  have hne := @alternatives_ne_nil field f h
  rw [if_neg (by rwa [List.isEmpty_iff])]
  refine ⟨_, rfl, ?_⟩
  rw [Query.matches_anyOf hne]
  simp only [List.mem_append, or_and_right, exists_or]
  apply or_congr
  · constructor
    · rintro ⟨q, hq, hmatch⟩
      obtain ⟨w, hw, rfl⟩ := List.mem_map.1 hq
      obtain ⟨v, hv, heqv⟩ := Query.matches_term.1 hmatch
      exact ⟨v, hv, w, hw, heqv⟩
    · rintro ⟨v, hv, w, hw, heqv⟩
      exact ⟨_, List.mem_map_of_mem hw, Query.matches_term.2 ⟨v, hv, heqv⟩⟩
  · cases hunknown : f.includeUnknown.isPresent with
    | true => simp [Query.matches_missing, includeUnknown, hunknown]
    | false => simp [includeUnknown, hunknown]

/-- There is a query for a filter only if it is of the field's type, and then it is the one that
filters of this type have. -/
theorem query?_eq_ok {slot : FilterSlot} {field : Field} {q? : Option Query}
    (h : slot.query? field = .ok q?) :
    (∃ f, slot = .filter (.integer f) ∧ integerQuery? field.name f = q?) ∨
      (∃ f, slot = .filter (.boolean f) ∧ booleanQuery? field.name f = q?) ∨
      ∃ f, slot = .filter (.string f) ∧ stringQuery? field f = q? := by
  unfold FilterSlot.query? at h
  split at h
  · exact .inl ⟨_, rfl, Except.ok.inj h⟩
  · exact .inr (.inl ⟨_, rfl, Except.ok.inj h⟩)
  · exact .inr (.inr ⟨_, rfl, Except.ok.inj h⟩)
  · cases h

/-- A filter that restricts something and fits the field's type becomes the query for it. -/
theorem query?_spec {field : Field} {f : Filter} {q? : Option Query} (hne : f.isEmpty = false)
    (h : (FilterSlot.filter f).query? field = .ok q?) :
    ∃ q, q? = some q ∧ (q.Matches reading d ↔ f.Admits field d) := by
  obtain ⟨g, hslot, rfl⟩ | ⟨g, hslot, rfl⟩ | ⟨g, hslot, rfl⟩ := query?_eq_ok h
  all_goals cases hslot
  · exact integerQuery?_spec hne
  · exact booleanQuery?_spec hne
  · exact stringQuery?_spec hne

end Filter

namespace Catalog

theorem passesEntry_iff {entry : String × FilterSlot} :
    SearchRequest.PassesEntry c d entry ↔
      ∀ field, c.find? entry.1 = some field → ∀ f, entry.2 = .filter f → f.isEmpty = false →
        f.Admits field d := by
  simp only [SearchRequest.PassesEntry, find?_eq_some_iff, and_imp, Filter.isEmpty_eq_false_iff]

theorem filterQuery?_spec {entry : String × FilterSlot} {q? : Option Query}
    (h : c.filterQuery? entry = .ok q?) :
    (∀ q, q? = some q → q.Matches reading d) ↔ SearchRequest.PassesEntry c d entry := by
  rw [passesEntry_iff]
  unfold filterQuery? at h
  split at h
  · rename_i hnone
    rw [← Except.ok.inj h, hnone]
    simp
  · rename_i field hfield
    obtain ⟨empty, hempty, h⟩ := bind_eq_ok.1 h
    cases hslot : entry.2 with
    | other v => rw [hslot] at hempty; cases hempty
    | filter f =>
      rw [hslot] at hempty h
      rw [hfield]
      obtain rfl : f.isEmpty = empty := Except.ok.inj hempty
      cases hf : f.isEmpty with
      | true =>
        rw [hf, if_pos rfl] at h
        rw [← Except.ok.inj h]
        simp [hf]
      | false =>
        rw [hf, if_neg (by simp)] at h
        obtain ⟨q, rfl, hq⟩ : ∃ q, q? = some q ∧ (q.Matches reading d ↔ f.Admits field d) :=
          Filter.query?_spec hf h
        simp [hq, hf]

/-- What the query of each single filter says of it the queries of all of them say of all. -/
theorem forall_filterQueries {P : Query → Prop} {R : String × FilterSlot → Prop}
    {filters : Record String FilterSlot} {qs : List Query}
    (hstep : ∀ entry q?, c.filterQuery? entry = .ok q? →
      ((∀ q, q? = some q → P q) ↔ R entry))
    (h : c.filterQueries filters = .ok qs) : (∀ q ∈ qs, P q) ↔ ∀ entry ∈ filters, R entry := by
  obtain ⟨qs?, hqs, rfl⟩ := map_eq_ok.1 h
  replace hqs := mapM_eq_ok_iff.1 hqs
  clear h
  induction hqs with
  | nil => simp
  | cons hq hqs ih =>
    rename_i entry q? filters qs?
    rw [List.forall_mem_cons]
    refine Iff.trans ?_ (and_congr (hstep entry q? hq) ih)
    cases q? with
    | none => simp
    | some q => simp

theorem filterQueries_spec {filters : Record String FilterSlot} {qs : List Query}
    (h : c.filterQueries filters = .ok qs) :
    (∀ q ∈ qs, q.Matches reading d) ↔ ∀ entry ∈ filters, SearchRequest.PassesEntry c d entry :=
  forall_filterQueries (fun _ _ => filterQuery?_spec) h

theorem matches_termQuery {fields : List String} {term : String} :
    (termQuery fields term).Matches reading d ↔
      reading.acrossFields (.str term) (.arr (fields.map .str)) d := by
  rw [termQuery, Query.Matches]

theorem textQuery?_spec {text : Value} {q? : Option Query} (h : c.textQuery? text = .ok q?) :
    ∃ s names, text.toText = .ok s ∧ c.boostedNames = .ok names ∧
      ((∀ q, q? = some q → q.Matches reading d) ↔
        SearchRequest.FindsText reading d names s) := by
  obtain ⟨names, hnames, h⟩ := bind_eq_ok.1 h
  obtain ⟨s, hs, h⟩ := bind_eq_ok.1 h
  refine ⟨s, names, hs, hnames, ?_⟩
  unfold SearchRequest.FindsText
  split at h
  · rename_i hnil
    rw [← Except.ok.inj h, hnil]
    simp
  · rename_i clauses hne
    rw [← Except.ok.inj h]
    have hmap : (Clauses.ofText s).map
        (fun terms => Query.allOf (terms.map (termQuery names))) ≠ [] := by
      simpa using hne
    rw [or_iff_right hne]
    simp only [Option.some.injEq, forall_eq', Query.matches_anyOf hmap]
    constructor
    · rintro ⟨q, hq, hmatch⟩
      obtain ⟨terms, hterms, rfl⟩ := List.mem_map.1 hq
      refine ⟨terms, hterms, fun term hterm => matches_termQuery.1 ?_⟩
      exact Query.matches_allOf.1 hmatch _ (List.mem_map_of_mem hterm)
    · rintro ⟨terms, hterms, hall⟩
      refine ⟨_, List.mem_map_of_mem hterms, Query.matches_allOf.2 fun q hq => ?_⟩
      obtain ⟨term, hterm, rfl⟩ := List.mem_map.1 hq
      exact matches_termQuery.2 (hall term hterm)

end Catalog

namespace SearchPlan

theorem matches_combine {qs : List Query} :
    (combine qs).Matches reading d ↔ ∀ q ∈ qs, q.Matches reading d := by
  unfold combine
  rw [Query.matches_allOf]
  cases qs with
  | nil => simp [Query.Matches]
  | cons q qs => simp

theorem matches_queryOf {settings : PlanSettings} {r : SearchRequest} {text? : Option Query}
    {filters : List Query} :
    (queryOf settings r text? filters).Matches reading d ↔
      (∀ q, text? = some q → q.Matches reading d) ∧ ∀ q ∈ filters, q.Matches reading d := by
  have hall : (combine (text?.toList ++ filters)).Matches reading d ↔
      (∀ q, text? = some q → q.Matches reading d) ∧ ∀ q ∈ filters, q.Matches reading d := by
    rw [matches_combine, List.forall_mem_append]
    cases text? with
    | none => simp
    | some q => simp
  unfold queryOf
  split
  · rw [Query.matches_shuffled, hall]
  · exact hall

theorem logged_eq_ok {p p' : SearchPlan} (h : p.logged = .ok p') :
    p' = p ∧ ∃ line, p.logLine = .ok line := by
  obtain ⟨line, hline, h⟩ := bind_eq_ok.1 h
  cases h
  exact ⟨rfl, line, hline⟩

theorem logged_of_logLine {p : SearchPlan} {line : String} (h : p.logLine = .ok line) :
    p.logged = .ok p := by
  rw [logged, h]
  rfl

/-- The steps that make a plan, each with its outcome. -/
theorem ofRequest_eq_ok {settings : PlanSettings} {r : SearchRequest} {p : SearchPlan}
    (h : ofRequest c settings r = .ok p) :
    ∃ text? filters, r.isOutside settings.maxResultWindow = .ok false ∧
      c.textQuery? r.text = .ok text? ∧ c.filterQueries r.filters = .ok filters ∧
      Aggregation.plan c.filterable = .ok p.aggregations ∧ r.offset = .ok p.offset ∧
      p.query = queryOf settings r text? filters ∧ p.sort = r.sortKey.criteria ∧
      p.size = r.perPage ∧ p.hasQuery = text?.isSome ∧ ∃ line, p.logLine = .ok line := by
  obtain ⟨outside, houtside, h⟩ := bind_eq_ok.1 h
  cases outside with
  | true =>
    obtain ⟨e, -, h⟩ := bind_eq_ok.1 h
    cases h
  | false =>
    obtain ⟨text?, htext, h⟩ := bind_eq_ok.1 h
    obtain ⟨filters, hfilters, h⟩ := bind_eq_ok.1 h
    obtain ⟨aggregations, haggregations, h⟩ := bind_eq_ok.1 h
    obtain ⟨offset, hoffset, h⟩ := bind_eq_ok.1 h
    obtain ⟨rfl, hline⟩ := logged_eq_ok h
    exact ⟨text?, filters, houtside, htext, hfilters, haggregations, hoffset, rfl, rfl, rfl, rfl,
      hline⟩

/-- A page inside the window gets its plan from text and filters that make queries. -/
theorem ofRequest_of_inside {settings : PlanSettings} {r : SearchRequest} {text? : Option Query}
    {filters : List Query} (hinside : r.isOutside settings.maxResultWindow = .ok false)
    (htext : c.textQuery? r.text = .ok text?) (hfilters : c.filterQueries r.filters = .ok filters) :
    ofRequest c settings r = (do
      let aggregations ← Aggregation.plan c.filterable
      let offset ← r.offset
      logged {
        query := queryOf settings r text? filters
        sort := r.sortKey.criteria
        aggregations
        offset
        size := r.perPage
        hasQuery := text?.isSome }) := by
  rw [ofRequest, hinside, ok_bind, if_neg Bool.false_ne_true, htext, hfilters]
  rfl

theorem ofRequest_of_outside {settings : PlanSettings} {r : SearchRequest}
    (houtside : r.isOutside settings.maxResultWindow = .ok true) :
    ofRequest c settings r = r.outOfRange settings.maxResultWindow >>= .error := by
  rw [ofRequest, houtside, ok_bind, if_pos rfl]
  cases r.outOfRange settings.maxResultWindow <;> rfl

/-- The query of a plan stands for the documents that the request is for, and for no others. -/
theorem matches_query_iff {settings : PlanSettings} {r : SearchRequest} {p : SearchPlan}
    (h : ofRequest c settings r = .ok p) (reading : Reading) (d : Document) :
    p.query.Matches reading d ↔ r.Wants c reading d := by
  obtain ⟨text?, filters, -, htext, hfilters, -, -, hquery, -⟩ := ofRequest_eq_ok h
  obtain ⟨s, names, hs, hnames, hfinds⟩ := Catalog.textQuery?_spec htext
  rw [hquery, matches_queryOf, hfinds, Catalog.filterQueries_spec hfilters]
  unfold SearchRequest.Wants
  simp only [← Catalog.boostedNames_eq_ok_iff]
  refine and_congr ?_ Iff.rfl
  constructor
  · intro hfound
    exact ⟨s, names, hs, hnames, hfound⟩
  · rintro ⟨s', names', hs', hnames', hfound⟩
    rw [hs] at hs'
    rw [hnames] at hnames'
    cases hs'
    cases hnames'
    exact hfound

/-- A catalog of toys. -/
def toys : Catalog where
  fields := [
    { name := "title", type := .text, freetext := .bool true, boost := .ofInt 2 },
    { name := "tags", type := .string, filterable := .bool true, freetext := .bool true },
    { name := "price", type := .integer, filterable := .bool true },
    { name := "new", type := .boolean, filterable := .bool true }]
  nodup := by decide

/-- Dragons, red ones or blue ones, with three filters and one that no field has. -/
def dragons : SearchRequest where
  text := .str "red dragon OR blue dragon"
  filters := [
    ("tags", .filter (.string ⟨[.str "toy"], .bool false⟩)),
    ("price", .filter (.integer (.of (.ofInt 5) .null (.bool true)))),
    ("new", .filter (.boolean (.of (.bool true) (.bool false)))),
    ("colour", .filter (.string ⟨[.str "red"], .bool false⟩))]

/-- Looks terms up among the words of the title, provided that they are asked for in the title and
in the tags, with these boosts. -/
def titleWords : Reading where
  fullText _ _ _ _ _ := False
  acrossFields term names d :=
    names = .arr [.str "title^2", .str "tags^1"] ∧
      ∃ words, d "title" = some (.arr words) ∧ term ∈ words
  phrasePrefix _ _ _ := False
  share _ _ := 0

/-- A new dragon of two words, without a price, under two tags: one of its parts and one of the
whole. -/
def dragonToy (colour part whole : String) : Document
  | "title" => some (.arr [.str colour, .str "dragon"])
  | "tags" => some (.str part)
  | "tags.keyword" => some (.str whole)
  | "new" => some (.bool true)
  | _ => none

/-- The tag is compared as a whole, and the words are those of one clause. -/
theorem matches_query_iff_dragons :
    ∃ p, ofRequest toys {} dragons = .ok p ∧
      (∀ reading d, p.query.Matches reading d ↔ dragons.Wants toys reading d) ∧
      p.query.Matches titleWords (dragonToy "blue" "soft" "toy") ∧
      ¬ p.query.Matches titleWords (dragonToy "green" "soft" "toy") ∧
      ¬ p.query.Matches titleWords (dragonToy "blue" "toy" "soft toy") := by
  obtain ⟨p, hp⟩ : ∃ p, ofRequest toys {} dragons = .ok p := exists_of_toBool (by decide +kernel)
  have hwants := @matches_query_iff toys {} dragons p hp
  have htext : dragons.text.toText = .ok "red dragon OR blue dragon" := rfl
  have hnames : toys.LooksUpIn ["title^2", "tags^1"] :=
    .cons ⟨"2", by decide +kernel, rfl⟩ (.cons ⟨"1", by decide +kernel, rfl⟩ .nil)
  have hclauses : Clauses.ofText "red dragon OR blue dragon" =
      [["red", "dragon"], ["blue", "dragon"]] := by decide +kernel
  have hpasses : ∀ entry ∈ dragons.filters,
      SearchRequest.PassesEntry toys (dragonToy "blue" "soft" "toy") entry := by
    simp only [dragons, List.forall_mem_cons, Catalog.passesEntry_iff]
    refine ⟨?_, ?_, ?_, ?_, by simp⟩ <;> rintro field ⟨⟩ f ⟨⟩ -
    · exact .inl ⟨.str "toy", rfl, .str "toy", by simp, rfl⟩
    · exact .inr ⟨rfl, rfl⟩
    · exact .inl ⟨.bool true, rfl, rfl⟩
  refine ⟨p, hp, hwants, (hwants _ _).2 ⟨⟨_, _, htext, hnames, .inr ?_⟩, hpasses⟩, ?_, ?_⟩
  · rw [hclauses]
    refine ⟨["blue", "dragon"], by simp, fun term hterm => ⟨rfl, _, rfl, ?_⟩⟩
    simpa using hterm
  · rw [hwants]
    rintro ⟨⟨text, names, htext', -, hfound⟩, -⟩
    rw [htext] at htext'
    cases htext'
    rw [SearchRequest.FindsText, hclauses] at hfound
    simp [titleWords, dragonToy] at hfound
  · rw [hwants]
    rintro ⟨-, hall⟩
    have htags := hall _ List.mem_cons_self _ (.tail _ (.head _)) rfl _ rfl (.inl (by simp))
    obtain ⟨v, hv, w, hw, heqv⟩ | ⟨hunknown, -⟩ := htags
    · cases hv
      cases List.mem_singleton.1 hw
      simp [Value.eqv] at heqv
    · cases hunknown

end SearchPlan

end FacetSearch
