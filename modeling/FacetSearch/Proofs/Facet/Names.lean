import Mathlib.Data.List.Nodup
import FacetSearch.Facet
import FacetSearch.Proofs.Outcome
import FacetSearch.Proofs.Records

/-!
# The names of statistics

A field asks for several statistics, each under the field's name with a suffix of its kind. The
suffixes end in different letters, so a name gives the field's name and the kind back
(`append_suffix_inj`), whatever the field is called. Hence the statistics of fields of different
names go under different names (`apart_statistics`), and none is lost when they are put into one
request (`renderAll_statistics`).
-/

namespace FacetSearch

open Outcome

def AggregationKind.suffix : AggregationKind → String
  | missing => "_missing"
  | min => "_min"
  | max => "_max"
  | terms _ => "_terms"

/-- The statistics of a field of the type. -/
def FieldType.statistics : FieldType → List AggregationKind
  | integer => [.missing, .max, .min]
  | boolean => [.missing, .terms (.ofInt Field.booleanTermsSize)]
  | _ => [.missing, .terms (.ofInt Field.stringTermsSize)]

namespace Field

variable {f g : Field} {fields : List Field}

/-- One statistic of a field, over an index field. -/
def statistic (f : Field) (target : Value) (kind : AggregationKind) : Aggregation :=
  ⟨kind, .str (f.name ++ kind.suffix), target⟩

def statistics (f : Field) : List Aggregation :=
  match f.target? with
  | none => []
  | some target => f.type.statistics.map (f.statistic target)

theorem aggregations_eq_ok (h : f.type.isFilterable = true) :
    f.aggregations = .ok f.statistics := by
  rw [aggregations, if_pos h, statistics]
  cases f.target? with
  | none => rfl
  | some target =>
    cases htype : f.type with
    | integer => rfl
    | string => rfl
    | boolean => rfl
    | text => rw [htype] at h; cases h
    | url => rw [htype] at h; cases h

theorem plan_eq_ok (h : ∀ f ∈ fields, f.type.isFilterable = true) :
    Aggregation.plan fields = .ok (fields.flatMap statistics) := by
  have hall : fields.mapM aggregations = .ok (fields.map statistics) := by
    rw [mapM_eq_ok_iff, List.forall₂_map_right_iff, List.forall₂_same]
    exact fun f hf => aggregations_eq_ok (h f hf)
  rw [Aggregation.plan, hall]
  rfl

theorem mem_statistics_iff {a : Aggregation} :
    a ∈ f.statistics ↔
      ∃ target, f.target? = some target ∧ ∃ kind ∈ f.type.statistics,
        a = f.statistic target kind := by
  unfold statistics
  cases f.target? with
  | none => simp
  | some target => simp [eq_comm]

theorem append_suffix_inj {s t : String} {k k' : AggregationKind}
    (h : s ++ k.suffix = t ++ k'.suffix) : s = t ∧ k.suffix = k'.suffix := by
  have hlist : s.toList ++ k.suffix.toList = t.toList ++ k'.suffix.toList := by
    rw [← String.toList_append, ← String.toList_append, h]
  -- The last letter tells the suffixes apart.
  have hsuffix : k.suffix = k'.suffix := by
    have hlast := congrArg List.getLast? hlist
    cases k <;> cases k' <;> first | rfl | simp [AggregationKind.suffix] at hlast
  rw [hsuffix] at hlist
  exact ⟨String.toList_inj.1 (List.append_cancel_right hlist), hsuffix⟩

theorem suffixes_nodup (type : FieldType) :
    (type.statistics.map AggregationKind.suffix).Nodup := by
  cases type <;> decide

theorem statisticName_ne {k k' : AggregationKind}
    (h : f.name ≠ g.name ∨ k.suffix ≠ k'.suffix) :
    (Key.str (f.name ++ k.suffix) == Key.str (g.name ++ k'.suffix)) = false := by
  rw [Bool.eq_false_iff]
  intro heq
  obtain ⟨hname, hsuffix⟩ := append_suffix_inj (Key.str.inj (Key.beq_str_iff.1 heq))
  exact h.elim (absurd hname) (absurd hsuffix)

/-- No two statistics of fields of different names have the same name. -/
theorem apart_statistics (h : (fields.map Field.name).Nodup) :
    (fields.flatMap statistics).Pairwise fun a b => (a.name == b.name) = false := by
  rw [List.pairwise_flatMap]
  constructor
  · intro f _
    unfold statistics
    cases f.target? with
    | none => exact .nil
    | some target =>
      have hsuffixes := List.pairwise_map.1 (suffixes_nodup f.type)
      exact List.pairwise_map.2 (hsuffixes.imp fun hne => statisticName_ne (.inr hne))
  · refine (List.pairwise_map.1 h).imp fun hne a ha b hb => ?_
    obtain ⟨_, -, _, -, rfl⟩ := mem_statistics_iff.1 ha
    obtain ⟨_, -, _, -, rfl⟩ := mem_statistics_iff.1 hb
    exact statisticName_ne (.inl hne)

theorem renderAll_statistics (h : (fields.map Field.name).Nodup) :
    Aggregation.renderAll (fields.flatMap statistics) =
      (fields.flatMap statistics).map fun a => (a.name, a.render) :=
  Record.ofList_of_apart (List.pairwise_map.2 (apart_statistics h))

/-- Each statistic stands in the request under its name. -/
theorem get?_renderAll {a : Aggregation} (h : (fields.map Field.name).Nodup)
    (ha : a ∈ fields.flatMap statistics) :
    Record.get? (Aggregation.renderAll (fields.flatMap statistics)) a.name = some a.render := by
  rw [renderAll_statistics h]
  refine Record.get?_of_mem (List.pairwise_map.2 (apart_statistics h)) ?_
    (List.mem_map_of_mem (f := fun a => (a.name, a.render)) ha)
  obtain ⟨f, -, hf⟩ := List.mem_flatMap.1 ha
  obtain ⟨_, -, _, -, rfl⟩ := mem_statistics_iff.1 hf
  exact Key.beq_str_iff.2 rfl

/-- The request has nothing under the names of a field that has no statistics. -/
theorem get?_renderAll_eq_none {k : AggregationKind} (h : (fields.map Field.name).Nodup)
    (hf : f ∈ fields) (htarget : f.target? = none) :
    Record.get? (Aggregation.renderAll (fields.flatMap statistics)) (.str (f.name ++ k.suffix)) =
      none := by
  rw [renderAll_statistics h, Record.get?_eq_none_iff, List.forall_mem_map]
  intro a ha
  obtain ⟨g, hg, hag⟩ := List.mem_flatMap.1 ha
  obtain ⟨target, hg?, _, -, rfl⟩ := mem_statistics_iff.1 hag
  refine statisticName_ne (.inl fun hname => ?_)
  rw [List.inj_on_of_nodup_map h hg hf hname, htarget] at hg?
  cases hg?

end Field

end FacetSearch
