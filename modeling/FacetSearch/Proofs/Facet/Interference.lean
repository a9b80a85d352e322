import FacetSearch.Proofs.Facet.Pipeline
import FacetSearch.Proofs.SameValues

/-!
# Facets do not interfere

Whatever the fields are called, as long as no two have one name: no two of their statistics are
asked for under the same name, and the statistic that is read back for a field depends on the
answers under the names of that field and on nothing else. This holds for answers of any shape that
can be read at all (`facets_apart`). Answers under these names that are identical give identical
statistics, and answers that are equal as values (`Value.Same`) give equal ones (`FieldStat.Same`).
-/

namespace FacetSearch

open Outcome

/-- The answer under a name, if there is one. What is no object has none. -/
def Value.answer? (answers : Value) (name : String) : Option Value :=
  match answers with
  | .obj entries => Record.get? entries (.str name)
  | _ => none

/-- The names under which the statistics of a field are answered. -/
def Field.answerNames (f : Field) : List String :=
  [f.missingName, f.minName, f.maxName, f.termsName]

/-- Both buckets are for equal values and have the same count. -/
def SameBucket (b c : Value × Int) : Prop := b.1.Same c.1 ∧ b.2 = c.2

/-- The statistics are equal. -/
inductive FieldStat.Same : FieldStat → FieldStat → Prop
  | refl (stat : FieldStat) : Same stat stat
  | string {countUnknown : Int} {buckets buckets' : List (Value × Int)} :
      List.Forall₂ SameBucket buckets buckets' →
      Same (.string countUnknown buckets) (.string countUnknown buckets')

namespace FieldStat

variable {answers answers' : Value} {name : String} {v w : Value} {f : Field}

/-! ## Buckets -/

theorem alike_docCount (h : v.Same w) : Alike Eq (docCount v) (docCount w) := by
  refine (h.alike_memberOr "doc_count" (.ofInt 0)).bind fun a b hab => ?_
  rw [hab.toInteger]
  exact alike_self _

theorem truthOfKey?_congr (h : v.Same w) : truthOfKey? v = truthOfKey? w := by
  cases h with
  | refl => rfl
  | number hv hw heqv =>
    have hmagnitude := (Magnitude.eqv_iff.1 heqv).1
    rw [truthOfKey?, truthOfKey?, hv, hw]
    simp only [Number.eqv, hmagnitude]
    rfl
  | items => rfl
  | entries => rfl

theorem alike_countTruth {counts : Int × Int} (h : v.Same w) :
    Alike Eq (countTruth counts v) (countTruth counts w) := by
  refine (h.alike_memberOr "key" .null).bind fun a b hab => ?_
  rw [truthOfKey?_congr hab]
  split
  · exact (alike_docCount h).bind fun m n hmn => alike_ok (by rw [hmn])
  · exact (alike_docCount h).bind fun m n hmn => alike_ok (by rw [hmn])
  · exact alike_self _

theorem alike_readBucket (h : v.Same w) : Alike SameBucket (readBucket v) (readBucket w) :=
  (h.alike_memberOr "key" .null).bind fun _ _ hkey =>
    (alike_docCount h).bind fun _ _ hcount => alike_ok ⟨hkey, hcount⟩

/-- A key of an object is no bucket: a row of keys is read to its end only if it is empty. -/
theorem eq_nil_of_keys {xs : List Value} (hkeys : ∀ x ∈ xs, ∃ key, x = .ofKey key)
    (hread : ∀ x ∈ xs, ∃ key, x.memberOr "key" .null = .ok key) : xs = [] := by
  cases xs with
  | nil => rfl
  | cons x xs =>
    obtain ⟨key, rfl⟩ := hkeys x List.mem_cons_self
    obtain ⟨member, hmember⟩ := hread _ List.mem_cons_self
    rw [Value.memberOr_of_entries_error (Value.entries_ofKey key)] at hmember
    cases hmember

theorem eq_nil_of_mapM_keys {xs : List Value} {read : List (Value × Int)}
    (hkeys : ∀ x ∈ xs, ∃ key, x = .ofKey key) (h : xs.mapM readBucket = .ok read) : xs = [] := by
  refine eq_nil_of_keys hkeys fun x hx => ?_
  obtain ⟨bucket, hbucket⟩ := exists_of_mem_of_mapM h hx
  obtain ⟨key, hkey, -⟩ := bind_eq_ok.1 hbucket
  exact ⟨key, hkey⟩

theorem eq_nil_of_foldlM_keys {xs : List Value} {counts counts' : Int × Int}
    (hkeys : ∀ x ∈ xs, ∃ key, x = .ofKey key)
    (h : xs.foldlM countTruth counts = .ok counts') : xs = [] := by
  refine eq_nil_of_keys hkeys fun x hx => ?_
  obtain ⟨before, after, hstep⟩ := exists_of_mem_foldlM h hx
  obtain ⟨key, hkey, -⟩ := bind_eq_ok.1 hstep
  exact ⟨key, hkey⟩

section Elements

variable {xs ys : List Value} (h : Value.SameElements xs ys)

include h

theorem alike_mapM_readBucket :
    Alike (List.Forall₂ SameBucket) (xs.mapM readBucket) (ys.mapM readBucket) := by
  rcases h with hall | ⟨hxs, hys⟩
  · exact alike_mapM hall fun _ _ => alike_readBucket
  · intro read read' hread hread'
    rw [eq_nil_of_mapM_keys hxs hread] at hread
    rw [eq_nil_of_mapM_keys hys hread'] at hread'
    cases hread
    cases hread'
    exact .nil

theorem alike_foldlM_countTruth (counts : Int × Int) :
    Alike Eq (xs.foldlM countTruth counts) (ys.foldlM countTruth counts) := by
  rcases h with hall | ⟨hxs, hys⟩
  · refine alike_foldlM hall (fun c d _ _ hcd hab => ?_) rfl
    rw [hcd]
    exact alike_countTruth hab
  · intro final final' hfinal hfinal'
    rw [eq_nil_of_foldlM_keys hxs hfinal] at hfinal
    rw [eq_nil_of_foldlM_keys hys hfinal'] at hfinal'
    cases hfinal
    cases hfinal'
    rfl

end Elements

/-! ## One field -/

theorem memberOr_eq_ok {default v : Value} (h : answers.memberOr name default = .ok v) :
    v = (answers.answer? name).getD default := by
  cases answers with
  | obj entries => exact (Except.ok.inj h).symm
  | _ => cases h

section Answers

variable (h : Option.Rel Value.Same (answers.answer? name) (answers'.answer? name))

include h

theorem alike_memberOr_answers (default : Value) :
    Alike Value.Same (answers.memberOr name default) (answers'.memberOr name default) := by
  intro v w hv hw
  rw [memberOr_eq_ok hv, memberOr_eq_ok hw]
  exact Value.same_getD h default

theorem alike_extremum : Alike Eq (extremum answers name) (extremum answers' name) := by
  refine (alike_memberOr_answers h (.obj [])).bind fun a b hab => ?_
  refine (hab.alike_member? "value").bind fun v? w? hvw => ?_
  cases hvw with
  | none => exact alike_self _
  | some hvw =>
    rename_i v w
    have hinteger := hvw.toInteger
    have hnull := hvw.eq_null_iff
    cases v with
    | null =>
      obtain rfl := hnull.1 rfl
      exact alike_self _
    | _ =>
      cases w with
      | null => cases hnull.2 rfl
      | _ =>
        intro m n hm hn
        have hmn : (Except.ok m : Except Error Int) = .ok n := hm.symm.trans (hinteger.trans hn)
        exact Except.ok.inj hmn

theorem alike_buckets : Alike Value.SameElements (buckets answers name) (buckets answers' name) :=
  (alike_memberOr_answers h (.obj [])).bind fun _ _ hab =>
    (hab.alike_memberOr "buckets" (.arr [])).bind fun _ _ hvw => hvw.alike_elements

end Answers

/-- A field is read from the answer under its first name; the others are looked at after that. -/
theorem ofAnswers?_of_answer {answer : Value} (h : answers.answer? f.missingName = some answer) :
    ofAnswers? answers f = (docCount answer >>= fun countUnknown =>
      match f.type with
      | .integer => do
        let minimum ← extremum answers f.minName
        let maximum ← extremum answers f.maxName
        return some (integer minimum maximum countUnknown)
      | .boolean => do
        let (countNo, countYes) ← (← buckets answers f.termsName).foldlM countTruth (0, 0)
        return some (boolean (countUnknown + countNo + countYes) countUnknown countNo countYes)
      | .string => do
        return some (string countUnknown (← (← buckets answers f.termsName).mapM readBucket))
      | .text | .url => throw (.unsupportedAggregation f.name f.type)) := by
  cases answers with
  | obj entries =>
    have hget : Record.get? entries (.str f.missingName) = some answer := h
    have hholds : (Value.obj entries).holds f.missingName = .ok true := by
      rw [Value.holds, hget]
      rfl
    have hmember : (Value.obj entries).member f.missingName = .ok answer := by
      rw [Value.member, hget]
    unfold ofAnswers?
    rw [hholds, hmember]
    rfl
  | _ => cases h

/-- Without that answer there is no statistic, if the answers can be read at all. -/
theorem eq_none_of_no_answer {stat? : Option FieldStat}
    (h : answers.answer? f.missingName = none) (hread : ofAnswers? answers f = .ok stat?) :
    stat? = none := by
  obtain ⟨held, -, hread⟩ := bind_eq_ok.1 hread
  cases held with
  | false => exact (Except.ok.inj hread).symm
  | true =>
    obtain ⟨answer, hmember, -⟩ := bind_eq_ok.1 hread
    cases answers with
    | obj entries =>
      have hget : Record.get? entries (.str f.missingName) = none := h
      rw [Value.member, hget] at hmember
      cases hmember
    | _ => cases hmember

/-- Equal answers under the names of a field give it equal statistics. -/
theorem alike_ofAnswers? (h : ∀ name ∈ f.answerNames,
      Option.Rel Value.Same (answers.answer? name) (answers'.answer? name)) :
    Alike (Option.Rel Same) (ofAnswers? answers f) (ofAnswers? answers' f) := by
  simp only [Field.answerNames, List.forall_mem_cons] at h
  obtain ⟨hmissing, hmin, hmax, hterms, -⟩ := h
  generalize hv : answers.answer? f.missingName = v?,
    hw : answers'.answer? f.missingName = w? at hmissing
  cases hmissing with
  | none =>
    intro stat? stat?' hread hread'
    rw [eq_none_of_no_answer hv hread, eq_none_of_no_answer hw hread']
    exact .none
  | some hsame =>
    rw [ofAnswers?_of_answer hv, ofAnswers?_of_answer hw]
    refine (alike_docCount hsame).bind fun countUnknown _ hcount => ?_
    subst hcount
    cases f.type with
    | integer =>
      refine (alike_extremum hmin).bind fun minimum _ heqmin => ?_
      refine (alike_extremum hmax).bind fun maximum _ heqmax => ?_
      subst heqmin heqmax
      exact alike_ok (.some (.refl _))
    | boolean =>
      refine (alike_buckets hterms).bind fun xs ys hxys => ?_
      refine (alike_foldlM_countTruth hxys (0, 0)).bind fun counts _ heq => ?_
      subst heq
      exact alike_ok (.some (.refl _))
    | string =>
      refine (alike_buckets hterms).bind fun xs ys hxys => ?_
      refine (alike_mapM_readBucket hxys).bind fun read read' hread => ?_
      exact alike_ok (.some (.string hread))
    | text => exact alike_error _ _
    | url => exact alike_error _ _

/-- Objects with the same answer under a name. -/
theorem memberOr_congr {key key' : String} (hv : answers.answer? key = some v)
    (hw : answers'.answer? key' = some w) (h : answers.answer? name = answers'.answer? name)
    (default : Value) : answers.memberOr name default = answers'.memberOr name default := by
  cases answers with
  | obj entries =>
    cases answers' with
    | obj entries' => exact congrArg (fun v? : Option Value => Except.ok (v?.getD default)) h
    | _ => cases hw
  | _ => cases hv

/-- Identical answers under the names of a field give it identical statistics. -/
theorem ofAnswers?_congr
    (h : ∀ name ∈ f.answerNames, answers.answer? name = answers'.answer? name) :
    Alike Eq (ofAnswers? answers f) (ofAnswers? answers' f) := by
  simp only [Field.answerNames, List.forall_mem_cons] at h
  obtain ⟨hmissing, hmin, hmax, hterms, -⟩ := h
  cases hv : answers.answer? f.missingName with
  | none =>
    intro stat? stat?' hread hread'
    rw [eq_none_of_no_answer hv hread, eq_none_of_no_answer (hmissing ▸ hv) hread']
  | some answer =>
    have hw : answers'.answer? f.missingName = some answer := hmissing ▸ hv
    have hmember (name : String) (h : answers.answer? name = answers'.answer? name)
        (default : Value) : answers.memberOr name default = answers'.memberOr name default :=
      memberOr_congr hv hw h default
    have hlow : extremum answers f.minName = extremum answers' f.minName := by
      rw [extremum, extremum, hmember _ hmin]
    have hhigh : extremum answers f.maxName = extremum answers' f.maxName := by
      rw [extremum, extremum, hmember _ hmax]
    have hcounts : buckets answers f.termsName = buckets answers' f.termsName := by
      rw [buckets, buckets, hmember _ hterms]
    rw [ofAnswers?_of_answer hv, ofAnswers?_of_answer hw, hlow, hhigh, hcounts]
    exact alike_self _

/-! ## All fields -/

variable {fields : List Field}

/-- If the answers can be read at all, they can be read for each field. -/
theorem exists_of_ofAnswers {stats : Record String FieldStat}
    (h : ofAnswers fields answers = .ok stats) (hf : f ∈ fields) :
    ∃ stat?, ofAnswers? answers f = .ok stat? := by
  obtain ⟨before, after, hstep⟩ := exists_of_mem_foldlM h hf
  obtain ⟨stat?, hstat, -⟩ := bind_eq_ok.1 hstep
  exact ⟨stat?, hstat⟩

theorem get?_statsOf (hnames : (fields.map Field.name).Nodup) (hf : f ∈ fields) :
    (statsOf answers fields).get? f.name = statOf answers f := by
  cases hstat : statOf answers f with
  | some stat =>
    refine Record.get?_of_mem (apart_statsOf hnames) (beq_self_eq_true _) ?_
    exact List.mem_filterMap.2 ⟨f, hf, by rw [hstat, Option.map_some]⟩
  | none =>
    refine Record.get?_eq_none_iff.2 fun e he => beq_eq_false_iff_ne.2 fun hname => ?_
    obtain ⟨g, hg, hgname, hgstat⟩ := name_of_mem_statsOf he
    have hgf : g = f := List.inj_on_of_nodup_map hnames hg hf (hgname.trans hname)
    rw [hgf, hstat] at hgstat
    cases hgstat

/-- What is read for a field among others is what is read for it alone. -/
theorem get?_of_ofAnswers {stats : Record String FieldStat}
    (hnames : (fields.map Field.name).Nodup) (h : ofAnswers fields answers = .ok stats)
    (hf : f ∈ fields) : ofAnswers? answers f = .ok (stats.get? f.name) := by
  have hall := ofAnswers_eq_ok hnames fun g hg => exists_of_ofAnswers h hg
  rw [h] at hall
  cases hall
  obtain ⟨stat?, hstat⟩ := exists_of_ofAnswers h hf
  rw [get?_statsOf hnames hf, statOf_eq hstat, hstat]

theorem nodup_statisticNames (h : (fields.map Field.name).Nodup) :
    ((fields.flatMap Field.statistics).map Aggregation.name).Nodup := by
  refine List.pairwise_map.2 ((Field.apart_statistics h).imp_of_mem fun {a b} ha _ hne heq => ?_)
  obtain ⟨g, -, hg⟩ := List.mem_flatMap.1 ha
  obtain ⟨target, -, kind, -, rfl⟩ := Field.mem_statistics_iff.1 hg
  rw [← heq, Bool.eq_false_iff] at hne
  exact hne (Key.beq_str_iff.2 rfl)

/-- The statistics of fields of different names are asked for under different names, so that each
stands in the request. And if two responses agree under the names of one field, it has the same
statistic from both of them or from none, whatever they hold under other names. -/
theorem facets_apart (hnames : (fields.map Field.name).Nodup)
    (htypes : ∀ f ∈ fields, f.type.isFilterable = true) :
    (∃ aggregations, Aggregation.plan fields = .ok aggregations ∧
      (aggregations.map Aggregation.name).Nodup ∧
      Aggregation.renderAll aggregations = aggregations.map fun a => (a.name, a.render)) ∧
    ∀ answers answers' stats stats', ofAnswers fields answers = .ok stats →
      ofAnswers fields answers' = .ok stats' → ∀ f ∈ fields,
        ((∀ name ∈ f.answerNames, answers.answer? name = answers'.answer? name) →
          stats.get? f.name = stats'.get? f.name) ∧
        ((∀ name ∈ f.answerNames,
            Option.Rel Value.Same (answers.answer? name) (answers'.answer? name)) →
          Option.Rel Same (stats.get? f.name) (stats'.get? f.name)) := by
  refine ⟨⟨_, Field.plan_eq_ok htypes, nodup_statisticNames hnames,
    Field.renderAll_statistics hnames⟩, fun answers answers' stats stats' h h' f hf => ?_⟩
  have hread := get?_of_ofAnswers hnames h hf
  have hread' := get?_of_ofAnswers hnames h' hf
  exact ⟨fun hagree => ofAnswers?_congr hagree _ _ hread hread',
    fun hagree => alike_ofAnswers? hagree _ _ hread hread'⟩

def pagesField : Field :=
  { name := "pages", type := .integer, aggregationTarget := .str "pages" }

/-- The name of the second field is also the name of a statistic of the first one. -/
def nestedNames : List Field := [
  pagesField,
  { name := "pages_min", type := .string, aggregationTarget := .str "pages_min.keyword" }]

/-- Answers that count the documents without pages, and say something else for the second field. -/
def pageAnswers (unknown other : Value) : Value := .object [
  ("pages_missing", .object [("doc_count", unknown)]),
  ("pages_min", .object [("value", .str " 12 ")]),
  ("pages_min_missing", other)]

theorem facets_apart_nestedNames :
    (nestedNames.map Field.name).Nodup ∧ (∀ f ∈ nestedNames, f.type.isFilterable = true) ∧
      ∃ stats stats', ofAnswers nestedNames (pageAnswers (.ofInt 1) (.obj [])) = .ok stats ∧
        ofAnswers nestedNames (pageAnswers (.bool true) (.object [("doc_count", .str "7")])) =
          .ok stats' ∧
        stats.keys = ["pages", "pages_min"] ∧
        Option.Rel Same (stats.get? "pages") (stats'.get? "pages") := by
  have hnames : (nestedNames.map Field.name).Nodup := by decide
  have htypes : ∀ f ∈ nestedNames, f.type.isFilterable = true := by
    simp [nestedNames, pagesField, FieldType.isFilterable]
  -- One and true are the same count, written in different ways.
  have hcount : (Value.ofInt 1).Same (.bool true) := .number rfl rfl (by decide)
  have hmissing : (Value.object [("doc_count", .ofInt 1)]).Same
      (.object [("doc_count", .bool true)]) := by
    refine .entries fun key => ?_
    cases hkey : Key.str "doc_count" == key with
    | true =>
      simp only [List.map_cons, List.map_nil, Record.get?, hkey, if_true]
      exact .some hcount
    | false => simp [Record.get?, hkey]
  have hagree (other other' : Value) : ∀ name ∈ pagesField.answerNames,
      Option.Rel Value.Same ((pageAnswers (.ofInt 1) other).answer? name)
        ((pageAnswers (.bool true) other').answer? name) := by
    simp only [Field.answerNames, List.forall_mem_cons, List.not_mem_nil, false_imp_iff,
      implies_true, and_true]
    exact ⟨.some hmissing, .some (.refl _), .none, .none⟩
  have hapart := (facets_apart hnames htypes).2 (pageAnswers (.ofInt 1) (.obj []))
    (pageAnswers (.bool true) (.object [("doc_count", .str "7")])) _ _ rfl rfl pagesField
    List.mem_cons_self
  exact ⟨hnames, htypes, _, _, rfl, rfl, rfl, hapart.2 (hagree _ _)⟩

end FieldStat

end FacetSearch
