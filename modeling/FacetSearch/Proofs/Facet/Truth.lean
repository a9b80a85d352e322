import Mathlib.Order.Bounds.Defs
import FacetSearch.Facet.Stat
import FacetSearch.Proofs.Facet.Histogram
import FacetSearch.Proofs.Facet.Names

/-!
# True answers

`Truthful` says what an index answers to a statistic that counts its documents rightly. It writes
numbers and values in its own way (`Value.Gives`): a count as a whole number or a double, a truth
value as 0 or 1. `TrueAnswers` is about a whole request, which holds each statistic only as it is
written out under its name. `FieldStat.Describes` says of the statistic of a field that it is right.
-/

namespace FacetSearch

/-- The value is an object with a member that stands for `w`. -/
def Value.Gives (v : Value) (key : String) (w : Value) : Prop :=
  ∃ member, v.member? key = .ok (some member) ∧ member.eqv w = true

/-- The answer names the first of the values in some order, or says that there is none. -/
def GivesFirst (before : Value → Value → Prop) (values : List Value) (answer : Value) : Prop :=
  (values = [] ∧ answer.Gives "value" .null) ∨
    ∃ m ∈ values, answer.Gives "value" m ∧ ∀ v ∈ values, before m v

/-- The item is a bucket with this key and this count. -/
def GivesBucket (item : Value) (bucket : Value × Int) : Prop :=
  item.Gives "key" bucket.1 ∧ item.Gives "doc_count" (.ofInt bucket.2)

def GivesBuckets (buckets : List (Value × Int)) (answer : Value) : Prop :=
  ∃ items, answer.member? "buckets" = .ok (some (.arr items)) ∧
    List.Forall₂ GivesBucket items buckets

/-- The answer to a statistic is true of the documents. -/
def Truthful (docs : List Document) (field answer : Value) : AggregationKind → Prop
  | .missing => answer.Gives "doc_count" (.ofInt (unknownIn docs field))
  | .min => GivesFirst Value.AtLeast (valuesIn docs field) answer
  | .max => GivesFirst Value.AtMost (valuesIn docs field) answer
  | .terms size =>
    ∃ (n : Nat) (buckets : List (Value × Int)), (size.isNull = false → size.eqv (.ofInt n) = true) ∧
      Histogram (valuesIn docs field) n buckets ∧ GivesBuckets buckets answer

/-- The answers to a request: a true one for each statistic asked for, and no others. -/
structure TrueAnswers (docs : List Document) (request answers : Record Key Value) : Prop where
  answered : ∀ name body, Record.get? request name = some body →
    ∃ answer, Record.get? answers name = some answer ∧
      ∀ a : Aggregation, a.render = body → Truthful docs a.field answer a.kind
  asked : ∀ name, Record.get? request name = none → Record.get? answers name = none

/-- A statistic of a field is right about the documents. -/
def FieldStat.Describes (docs : List Document) (type : FieldType) (target : Value) :
    FieldStat → Prop
  | integer minimum maximum countUnknown =>
    type = .integer ∧ countUnknown = unknownIn docs target ∧
      (valuesIn docs target = [] → minimum = 0 ∧ maximum = 0) ∧
      (valuesIn docs target ≠ [] →
        IsLeast {n | Value.ofInt n ∈ valuesIn docs target} minimum ∧
          IsGreatest {n | Value.ofInt n ∈ valuesIn docs target} maximum)
  | boolean countAll countUnknown countNo countYes =>
    type = .boolean ∧ countUnknown = unknownIn docs target ∧
      countNo = occurrences (valuesIn docs target) (.bool false) ∧
      countYes = occurrences (valuesIn docs target) (.bool true) ∧ countAll = docs.length
  | string countUnknown buckets =>
    type = .string ∧ countUnknown = unknownIn docs target ∧
      Histogram (valuesIn docs target) 1000 buckets ∧
      ∀ texts : List Value, valuesIn docs target ⊆ texts → texts.length ≤ 1000 →
        ∀ v ∈ valuesIn docs target, (v, (occurrences (valuesIn docs target) v : Int)) ∈ buckets

theorem Value.object_inj {r s : Record String Value} : object r = object s ↔ r = s := by
  rw [object, object, obj.injEq]
  refine List.map_inj_right fun e e' h => ?_
  rw [Prod.mk.injEq, Key.str.injEq] at h
  exact Prod.ext h.1 h.2

theorem Value.memberIfGiven_inj {key : String} {v w : Value}
    (h : v.memberIfGiven key = w.memberIfGiven key) : v = w := by
  unfold memberIfGiven at h
  cases hv : v.isNull with
  | true =>
    cases hw : w.isNull with
    | true => rw [isNull_iff.1 hv, isNull_iff.1 hw]
    | false => simp [hv, hw] at h
  | false =>
    cases hw : w.isNull with
    | true => simp [hv, hw] at h
    | false => simpa [hv, hw] using h

/-- What an index is sent says which statistic of which field is meant. -/
theorem Aggregation.render_inj {a b : Aggregation} (h : a.render = b.render) :
    a.kind = b.kind ∧ a.field = b.field := by
  obtain ⟨k, _, field⟩ := a
  obtain ⟨k', _, field'⟩ := b
  rw [render, render, Value.object_inj, List.cons.injEq, Prod.mk.injEq, Value.object_inj,
    List.cons.injEq, Prod.mk.injEq] at h
  obtain ⟨⟨hkey, ⟨-, hfield⟩, hoptions⟩, -⟩ := h
  refine ⟨?_, hfield⟩
  cases k with
  | terms size =>
    cases k' with
    | terms size' => rw [Value.memberIfGiven_inj hoptions]
    | _ => simp [AggregationKind.key] at hkey
  | _ => cases k' <;> first | rfl | simp [AggregationKind.key] at hkey

theorem Key.str_beq_iff {k : Key} {s : String} : (Key.str s == k) = true ↔ k = .str s := by
  change Key.eqv (.str s) k = true ↔ _
  cases k <;> simp [Key.eqv, Key.number?]
  exact eq_comm

/-- To answer the statistics of some fields is to answer each one of them. -/
theorem trueAnswers_of_statistics {fields : List Field} {docs : List Document} {answers : Record Key Value}
    (hnames : (fields.map Field.name).Nodup)
    (hanswered : ∀ a ∈ fields.flatMap Field.statistics, ∃ answer,
      Record.get? answers a.name = some answer ∧ Truthful docs a.field answer a.kind)
    (hasked : ∀ e ∈ answers, ∃ a ∈ fields.flatMap Field.statistics, a.name = e.1) :
    TrueAnswers docs (Aggregation.renderAll (fields.flatMap Field.statistics)) answers where
  answered name body h := by
    rw [Field.renderAll_statistics hnames] at h
    obtain ⟨k, hk, hmem⟩ := Record.mem_of_get? h
    obtain ⟨a, ha, heq⟩ := List.mem_map.1 hmem
    obtain ⟨rfl, rfl⟩ := Prod.mk.inj heq
    obtain ⟨answer, hget, htrue⟩ := hanswered a ha
    have hname : name = a.name := by
      obtain ⟨f, -, hf⟩ := List.mem_flatMap.1 ha
      obtain ⟨target, -, kind, -, rfl⟩ := Field.mem_statistics_iff.1 hf
      exact Key.str_beq_iff.1 hk
    refine ⟨answer, by rw [hname]; exact hget, fun b hb => ?_⟩
    obtain ⟨hkind, hfield⟩ := Aggregation.render_inj hb
    rw [hkind, hfield]
    exact htrue
  asked name h := by
    rw [Field.renderAll_statistics hnames, Record.get?_eq_none_iff, List.forall_mem_map] at h
    refine Record.get?_eq_none_iff.2 fun e he => ?_
    obtain ⟨a, ha, hname⟩ := hasked e he
    rw [← hname]
    exact h a ha

end FacetSearch
