import FacetSearch.Proofs.Facet.Report

/-!
# Facets are true

Fields of different names ask an index for their statistics in one request and read its answers
back. If the answers are true, so is what is read: first for one field (`ofAnswers?_spec`), then for
all of them, since no field touches the statistic of another one (`foldlM_statsOf`).
-/

namespace FacetSearch

open Outcome

namespace FieldStat

variable {answers : Record Key Value} {docs : List Document} {fields : List Field} {f : Field}
  {target : Value}

/-- True answers to the statistics of a field are read back as one that is right. -/
theorem ofAnswers?_spec (htype : f.type.isFilterable = true)
    (hvalues : ∀ v ∈ valuesIn docs target, f.type.Holds v)
    (htrue : ∀ kind ∈ f.type.statistics, ∃ answer,
      Record.get? answers (.str (f.name ++ kind.suffix)) = some answer ∧
        Truthful docs target answer kind) :
    ∃ stat, ofAnswers? (.obj answers) f = .ok (some stat) ∧
      stat.Describes docs f.type target := by
  have hmissing : AggregationKind.missing ∈ f.type.statistics := by
    cases f.type <;> simp [FieldType.statistics]
  obtain ⟨answer, hget, hunknown⟩ := htrue _ hmissing
  have hcount := docCount_eq_ok hunknown
  cases hf : f.type with
  | integer =>
    rw [hf] at hvalues htrue
    obtain ⟨lowest, hgetMin, hlowest⟩ := htrue .min (by simp [FieldType.statistics])
    obtain ⟨highest, hgetMax, hhighest⟩ := htrue .max (by simp [FieldType.statistics])
    obtain ⟨minimum, hmin, hmin0, hminFirst⟩ := extremum_spec hgetMin hlowest hvalues
    obtain ⟨maximum, hmax, hmax0, hmaxFirst⟩ := extremum_spec hgetMax hhighest hvalues
    refine ⟨_, ofAnswers?_integer hget hcount hf hmin hmax, rfl, rfl,
      fun hnil => ⟨hmin0 hnil, hmax0 hnil⟩, fun hne => ⟨?_, ?_⟩⟩
    · exact ⟨(hminFirst hne).1, fun n hn => Value.atLeast_ofInt.1 ((hminFirst hne).2 _ hn)⟩
    · exact ⟨(hmaxFirst hne).1, fun n hn => Value.atMost_ofInt.1 ((hmaxFirst hne).2 _ hn)⟩
  | boolean =>
    rw [hf] at hvalues htrue
    obtain ⟨terms, hgetTerms, hterms⟩ :=
      htrue (.terms (.ofInt Field.booleanTermsSize)) (by simp [FieldType.statistics])
    obtain ⟨items, buckets, hbuckets, hitems, hhistogram⟩ := buckets_spec (n := 2) hgetTerms hterms
    refine ⟨_, ofAnswers?_boolean hget hcount hf hbuckets
      (countTruth_spec hitems hvalues hhistogram), rfl, rfl, rfl, rfl, ?_⟩
    have hknown := occurrences_false_add_true hvalues
    have hall := unknownIn_add_length docs target
    omega
  | string =>
    rw [hf] at hvalues htrue
    obtain ⟨terms, hgetTerms, hterms⟩ :=
      htrue (.terms (.ofInt Field.stringTermsSize)) (by simp [FieldType.statistics])
    obtain ⟨items, buckets, hbuckets, hitems, hhistogram⟩ :=
      buckets_spec (n := 1000) hgetTerms hterms
    refine ⟨_, ofAnswers?_string hget hcount hf hbuckets
      (mapM_readBucket hitems fun b hb => hvalues _ (hhistogram.mem_values b hb)), rfl, rfl,
      hhistogram, fun texts hsub hlength v hv => ?_⟩
    exact hhistogram.mem_of_few hvalues hsub hlength hv
  | text => rw [hf] at htype; cases htype
  | url => rw [hf] at htype; cases htype

/-- The statistic that is read for a field, if there is one. -/
def statOf (answers : Value) (f : Field) : Option FieldStat :=
  (ofAnswers? answers f).toOption.join

theorem statOf_eq {answers : Value} {stat? : Option FieldStat}
    (h : ofAnswers? answers f = .ok stat?) : statOf answers f = stat? := by
  unfold statOf
  rw [h]
  rfl

/-- The statistics of the fields that have one, under their names and in their order. -/
def statsOf (answers : Value) (fields : List Field) : Record String FieldStat :=
  fields.filterMap fun f => (statOf answers f).map fun stat => (f.name, stat)

theorem name_of_mem_statsOf {answers : Value} {e : String × FieldStat}
    (h : e ∈ statsOf answers fields) : ∃ f ∈ fields, f.name = e.1 ∧ statOf answers f = some e.2 := by
  obtain ⟨f, hf, hmap⟩ := List.mem_filterMap.1 h
  obtain ⟨stat, hstat, rfl⟩ := Option.map_eq_some_iff.1 hmap
  exact ⟨f, hf, rfl, hstat⟩

theorem apart_statsOf {answers : Value} (h : (fields.map Field.name).Nodup) :
    Record.Apart (statsOf answers fields) := by
  refine List.pairwise_filterMap.2 ((List.pairwise_map.1 h).imp fun hne e he e' he' => ?_)
  obtain ⟨_, -, rfl⟩ := Option.map_eq_some_iff.1 he
  obtain ⟨_, -, rfl⟩ := Option.map_eq_some_iff.1 he'
  exact beq_eq_false_iff_ne.2 hne

theorem statsOf_concat {answers : Value} {stat? : Option FieldStat}
    (h : ofAnswers? answers f = .ok stat?) :
    statsOf answers (fields ++ [f]) =
      statsOf answers fields ++ (stat?.map fun stat => (f.name, stat)).toList := by
  rw [statsOf, List.filterMap_append, List.filterMap_cons, List.filterMap_nil, statOf_eq h]
  cases stat? <;> rfl

theorem keys_statsOf {answers : Value} :
    (statsOf answers fields).keys =
      (fields.filter fun f => (statOf answers f).isSome).map Field.name := by
  unfold statsOf Record.keys
  induction fields with
  | nil => rfl
  | cons f fields ih =>
    rw [List.filterMap_cons, List.filter_cons]
    cases hstat : statOf answers f with
    | none => exact ih
    | some stat =>
      rw [Option.map_some, Option.isSome_some, if_pos rfl, List.map_cons, List.map_cons, ih]

/-- A field adds its statistic behind those of other fields, which stay as they are. -/
theorem set_statsOf {answers : Value} {done : List Field} {stat? : Option FieldStat}
    (h : ofAnswers? answers f = .ok stat?) (hname : f.name ∉ done.map Field.name) :
    stat?.elim (statsOf answers done) (Record.set (statsOf answers done) f.name) =
      statsOf answers (done ++ [f]) := by
  rw [statsOf_concat h]
  cases stat? with
  | none => rw [Option.map_none, Option.toList_none, List.append_nil]; rfl
  | some stat =>
    rw [Option.map_some, Option.toList_some]
    refine Record.set_of_absent fun e he => ?_
    obtain ⟨g, hg, hgname, -⟩ := name_of_mem_statsOf he
    rw [beq_eq_false_iff_ne]
    exact fun heq => hname (List.mem_map.2 ⟨g, hg, hgname.trans heq⟩)

/-- A loop that enters the statistic of one field after the other has read those of all fields that
it went through. -/
theorem foldlM_statsOf {answers : Value} {done : List Field}
    {step : Record String FieldStat → Field → Except Error (Record String FieldStat)}
    (hstep : ∀ stats f stat?, ofAnswers? answers f = .ok stat? →
      step stats f = .ok (stat?.elim stats (Record.set stats f.name)))
    (hnames : ((done ++ fields).map Field.name).Nodup)
    (h : ∀ f ∈ fields, ∃ stat?, ofAnswers? answers f = .ok stat?) :
    fields.foldlM step (statsOf answers done) = .ok (statsOf answers (done ++ fields)) := by
  induction fields generalizing done with
  | nil => rw [List.append_nil]; rfl
  | cons f fields ih =>
    rw [List.forall_mem_cons] at h
    obtain ⟨stat?, hstat⟩ := h.1
    rw [List.append_cons] at hnames ⊢
    rw [List.foldlM_cons, hstep _ _ _ hstat, set_statsOf hstat]
    · exact ih hnames h.2
    · rw [List.map_append, List.map_append] at hnames
      intro hmem
      exact (List.nodup_append.1 (List.nodup_append.1 hnames).1).2.2 _ hmem _ (by simp) rfl

theorem ofAnswers_eq_ok {answers : Value} (hnames : (fields.map Field.name).Nodup)
    (h : ∀ f ∈ fields, ∃ stat?, ofAnswers? answers f = .ok stat?) :
    ofAnswers fields answers = .ok (statsOf answers fields) := by
  refine @foldlM_statsOf fields answers [] _ (fun stats f stat? hstat => ?_) hnames h
  rw [hstat, ok_bind]
  cases stat? <;> rfl

/-- From true answers, a field has a statistic just if it has an aggregation target. -/
theorem ofAnswers?_of_trueAnswers (hnames : (fields.map Field.name).Nodup)
    (htypes : ∀ f ∈ fields, f.type.isFilterable = true)
    (hdocs : ∀ f ∈ fields, ∀ target, f.target? = some target →
      ∀ v ∈ valuesIn docs target, f.type.Holds v)
    (htrue : TrueAnswers docs (Aggregation.renderAll (fields.flatMap Field.statistics)) answers)
    (hf : f ∈ fields) :
    ∃ stat?, ofAnswers? (.obj answers) f = .ok stat? ∧ stat?.isSome = f.target?.isSome ∧
      ∀ target, f.target? = some target →
        ∃ stat, stat? = some stat ∧ stat.Describes docs f.type target := by
  cases htarget : f.target? with
  | none =>
    have habsent := Field.get?_renderAll_eq_none (k := .missing) hnames hf htarget
    exact ⟨none, ofAnswers?_eq_none (htrue.asked _ habsent), rfl, fun _ h => by cases h⟩
  | some target =>
    have hanswered : ∀ kind ∈ f.type.statistics, ∃ answer,
        Record.get? answers (.str (f.name ++ kind.suffix)) = some answer ∧
          Truthful docs target answer kind := fun kind hkind => by
      have hmem : f.statistic target kind ∈ fields.flatMap Field.statistics :=
        List.mem_flatMap.2 ⟨f, hf, Field.mem_statistics_iff.2 ⟨target, htarget, kind, hkind, rfl⟩⟩
      obtain ⟨answer, hanswer, htruth⟩ := htrue.answered _ _ (Field.get?_renderAll hnames hmem)
      exact ⟨answer, hanswer, htruth _ rfl⟩
    obtain ⟨stat, hstat, hdescribes⟩ :=
      ofAnswers?_spec (htypes f hf) (hdocs f hf target htarget) hanswered
    refine ⟨some stat, hstat, rfl, fun target' htarget' => ⟨stat, rfl, ?_⟩⟩
    rwa [← Option.some.inj htarget']

/-- Read back from true answers, every field with an aggregation target has the statistic that
describes the documents, and no other field has one. -/
theorem ofAnswers_of_trueAnswers (hnames : (fields.map Field.name).Nodup)
    (htypes : ∀ f ∈ fields, f.type.isFilterable = true)
    (hdocs : ∀ f ∈ fields, ∀ target, f.target? = some target →
      ∀ v ∈ valuesIn docs target, f.type.Holds v) :
    ∃ aggregations, Aggregation.plan fields = .ok aggregations ∧
      ∀ answers, TrueAnswers docs (Aggregation.renderAll aggregations) answers →
        ∃ stats, ofAnswers fields (.obj answers) = .ok stats ∧
          stats.keys = (fields.filter fun f => f.target?.isSome).map Field.name ∧
          ∀ f ∈ fields, ∀ target, f.target? = some target →
            ∃ stat, stats.get? f.name = some stat ∧ stat.Describes docs f.type target := by
  refine ⟨_, Field.plan_eq_ok htypes, fun answers htrue => ?_⟩
  have hread := fun f hf => @ofAnswers?_of_trueAnswers answers docs fields f hnames htypes hdocs
    htrue hf
  refine ⟨_, ofAnswers_eq_ok hnames fun f hf => ?_, ?_, fun f hf target htarget => ?_⟩
  · obtain ⟨stat?, hstat, -⟩ := hread f hf
    exact ⟨stat?, hstat⟩
  · rw [keys_statsOf]
    congr 1
    refine List.filter_congr fun f hf => ?_
    obtain ⟨stat?, hstat, hsome, -⟩ := hread f hf
    rw [statOf_eq hstat, hsome]
  · obtain ⟨stat?, hstat, -, hdescribed⟩ := hread f hf
    obtain ⟨stat, rfl, hdescribes⟩ := hdescribed target htarget
    refine ⟨stat, Record.get?_of_mem (apart_statsOf hnames) (beq_self_eq_true _) ?_, hdescribes⟩
    refine List.mem_filterMap.2 ⟨f, hf, ?_⟩
    rw [statOf_eq hstat, Option.map_some]

/-! ## A shelf of three toys -/

def shelf : List Field := [
  { name := "price", type := .integer, aggregationTarget := .str "price" },
  { name := "new", type := .boolean, aggregationTarget := .str "new" },
  { name := "brand", type := .string, aggregationTarget := .str "brand.keyword" },
  { name := "note", type := .string }]

def shelved : List Document := [
  fun field => [("price", Value.ofInt 5), ("new", .bool true), ("brand.keyword", .str "Oak")].lookup
    field,
  fun field => [("price", Value.ofInt 3), ("brand.keyword", .str "Oak")].lookup field,
  fun field => [("brand.keyword", Value.str "Elm"), ("new", .bool true)].lookup field]

def shelfAnswers : Record Key Value := [
  ("price_missing", .object [("doc_count", .ofInt 1)]),
  ("price_max", .object [("value", .ofInt 5)]),
  ("price_min", .object [("value", .ofInt 3)]),
  ("new_missing", .object [("doc_count", .ofInt 1)]),
  ("new_terms", .object [("buckets", .arr [.object [("key", .ofInt 1), ("doc_count", .ofInt 2)]])]),
  ("brand_missing", .object [("doc_count", .ofInt 0)]),
  ("brand_terms", .object [("buckets", .arr [
    .object [("key", .str "Oak"), ("doc_count", .ofInt 2)],
    .object [("key", .str "Elm"), ("doc_count", .ofInt 1)]])])]

theorem valuesIn_price : valuesIn shelved (.str "price") = [.ofInt 5, .ofInt 3] := rfl

theorem valuesIn_new : valuesIn shelved (.str "new") = [.bool true, .bool true] := rfl

theorem valuesIn_brand :
    valuesIn shelved (.str "brand.keyword") = [.str "Oak", .str "Oak", .str "Elm"] := rfl

theorem shelf_answered : ∀ a ∈ shelf.flatMap Field.statistics, ∃ answer,
    Record.get? shelfAnswers a.name = some answer ∧ Truthful shelved a.field answer a.kind := by
  have hhistogramNew : Histogram [.bool true, .bool true] 2 [(.bool true, 2)] :=
    ⟨by decide, by simp, by decide, by decide, by decide⟩
  have hhistogramBrand :
      Histogram [.str "Oak", .str "Oak", .str "Elm"] 1000 [(.str "Oak", 2), (.str "Elm", 1)] :=
    ⟨by decide, by simp, by decide, by decide, by decide⟩
  have hstatistics : shelf.flatMap Field.statistics = [
      ⟨.missing, "price_missing", .str "price"⟩, ⟨.max, "price_max", .str "price"⟩,
      ⟨.min, "price_min", .str "price"⟩, ⟨.missing, "new_missing", .str "new"⟩,
      ⟨.terms (.ofInt 2), "new_terms", .str "new"⟩,
      ⟨.missing, "brand_missing", .str "brand.keyword"⟩,
      ⟨.terms (.ofInt 1000), "brand_terms", .str "brand.keyword"⟩] := rfl
  rw [hstatistics]
  simp only [List.forall_mem_cons, List.not_mem_nil, false_imp_iff, implies_true, and_true,
    Truthful, valuesIn_price, valuesIn_new, valuesIn_brand]
  refine ⟨⟨_, rfl, _, rfl, by decide⟩, ⟨_, rfl, .inr ⟨.ofInt 5, by simp, ⟨_, rfl, by decide⟩, ?_⟩⟩,
    ⟨_, rfl, .inr ⟨.ofInt 3, by simp, ⟨_, rfl, by decide⟩, ?_⟩⟩, ⟨_, rfl, _, rfl, by decide⟩,
    ⟨_, rfl, 2, _, fun _ => by decide, hhistogramNew, ?_⟩, ⟨_, rfl, _, rfl, by decide⟩,
    ⟨_, rfl, 1000, _, fun _ => by decide, hhistogramBrand, ?_⟩⟩
  · simp [Value.atMost_ofInt]
  · simp [Value.atLeast_ofInt]
  · exact ⟨_, rfl, .cons ⟨⟨_, rfl, by decide⟩, _, rfl, by decide⟩ .nil⟩
  · exact ⟨_, rfl, .cons ⟨⟨_, rfl, by decide⟩, _, rfl, by decide⟩
      (.cons ⟨⟨_, rfl, by decide⟩, _, rfl, by decide⟩ .nil)⟩

theorem ofAnswers_of_trueAnswers_shelf :
    ∃ stats, ofAnswers shelf (.obj shelfAnswers) = .ok stats ∧
      stats.keys = ["price", "new", "brand"] ∧
      ∀ f ∈ shelf, ∀ target, f.target? = some target →
        ∃ stat, stats.get? f.name = some stat ∧ stat.Describes shelved f.type target := by
  have hnames : (shelf.map Field.name).Nodup := by decide
  have htypes : ∀ f ∈ shelf, f.type.isFilterable = true := by simp [shelf, FieldType.isFilterable]
  have hdocs : ∀ f ∈ shelf, ∀ target, f.target? = some target →
      ∀ v ∈ valuesIn shelved target, f.type.Holds v := by
    simp [shelf, Field.target?, Value.isPresent, Value.isAbsent, FieldType.Holds, valuesIn_price,
      valuesIn_new, valuesIn_brand]
  obtain ⟨aggregations, hplan, hall⟩ := ofAnswers_of_trueAnswers hnames htypes hdocs
  rw [Field.plan_eq_ok htypes] at hplan
  cases hplan
  have hkeys : (shelf.flatMap Field.statistics).map Aggregation.name = shelfAnswers.keys := rfl
  refine hall shelfAnswers (trueAnswers_of_statistics hnames shelf_answered fun e he => ?_)
  exact List.mem_map.1 (hkeys ▸ List.mem_map_of_mem he)

end FieldStat

end FacetSearch
