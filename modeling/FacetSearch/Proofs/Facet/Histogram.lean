import Mathlib.Data.List.Perm.Subperm
import FacetSearch.FieldType
import FacetSearch.Proofs.Matching

/-!
# Counting values

The values that documents have in a field, and what a histogram of them is. Values of one field type
are equivalent only if they are equal (`FieldType.eqv_iff`), so of few enough of them all have a
bucket (`Histogram.mem_of_few`).
-/

namespace FacetSearch

/-- The values that the documents have in a field. -/
def valuesIn (docs : List Document) (field : Value) : List Value :=
  docs.filterMap fun d => d.valueOf field

/-- The number of documents without a value in a field. -/
def unknownIn (docs : List Document) (field : Value) : Nat :=
  docs.countP fun d => (d.valueOf field).isNone

/-- The number of times that a value occurs. -/
def occurrences (values : List Value) (v : Value) : Nat := values.countP fun w => v.eqv w

/-- One bucket for each of the values that differ, or for as many of them as asked for. -/
structure Histogram (values : List Value) (size : Nat) (buckets : List (Value × Int)) : Prop where
  distinct : buckets.Pairwise fun b c => b.1.eqv c.1 = false
  mem_values : ∀ b ∈ buckets, b.1 ∈ values
  counted : ∀ b ∈ buckets, b.2 = occurrences values b.1
  length_le : buckets.length ≤ size
  complete : buckets.length < size → ∀ v ∈ values, ∃ b ∈ buckets, b.1.eqv v = true

/-- A value of a field of the type. -/
def FieldType.Holds : FieldType → Value → Prop
  | integer, v => ∃ n, v = .ofInt n
  | boolean, v => ∃ b, v = .bool b
  | _, v => ∃ s, v = .str s

theorem unknownIn_add_length (docs : List Document) (field : Value) :
    unknownIn docs field + (valuesIn docs field).length = docs.length := by
  unfold unknownIn valuesIn
  induction docs with
  | nil => rfl
  | cons d docs ih =>
    rw [List.countP_cons, List.filterMap_cons, List.length_cons]
    cases d.valueOf field with
    | none =>
      simp only [Option.isNone_none, if_true]
      omega
    | some v =>
      simp only [Option.isNone_some, Bool.false_eq_true, if_false, List.length_cons]
      omega

namespace FieldType

variable {type : FieldType} {v w : Value}

theorem eqv_iff (hv : type.Holds v) (hw : type.Holds w) : v.eqv w = true ↔ v = w := by
  have htext {s t : String} : (Value.str s).eqv (.str t) = true ↔ Value.str s = .str t := by
    rw [Value.eqv, beq_iff_eq, Value.str.injEq]
  cases type with
  | integer =>
    obtain ⟨m, rfl⟩ := hv
    obtain ⟨n, rfl⟩ := hw
    change Number.eqv (.int m) (.int n) = true ↔ _
    simp [Number.eqv, Number.magnitude, Magnitude.eqv, Value.ofInt]
  | boolean =>
    obtain ⟨b, rfl⟩ := hv
    obtain ⟨c, rfl⟩ := hw
    rw [Value.bool.injEq]
    revert b c
    decide
  | string => obtain ⟨s, rfl⟩ := hv; obtain ⟨t, rfl⟩ := hw; exact htext
  | text => obtain ⟨s, rfl⟩ := hv; obtain ⟨t, rfl⟩ := hw; exact htext
  | url => obtain ⟨s, rfl⟩ := hv; obtain ⟨t, rfl⟩ := hw; exact htext

end FieldType

variable {type : FieldType} {values : List Value} {size : Nat} {buckets : List (Value × Int)}

theorem occurrences_eq_zero {v : Value} (hvalues : ∀ w ∈ values, type.Holds w) (hv : type.Holds v)
    (h : v ∉ values) : occurrences values v = 0 := by
  refine List.countP_eq_zero.2 fun w hw heqv => h ?_
  rwa [(FieldType.eqv_iff hv (hvalues w hw)).1 heqv]

theorem occurrences_false_add_true (h : ∀ v ∈ values, FieldType.boolean.Holds v) :
    occurrences values (.bool false) + occurrences values (.bool true) = values.length := by
  unfold occurrences
  induction values with
  | nil => rfl
  | cons v values ih =>
    rw [List.forall_mem_cons] at h
    obtain ⟨b, rfl⟩ := h.1
    have ih := ih h.2
    rw [List.countP_cons, List.countP_cons, List.length_cons]
    cases b with
    | false =>
      rw [if_pos (by decide), if_neg (by decide)]
      omega
    | true =>
      rw [if_neg (by decide), if_pos (by decide)]
      omega

namespace Histogram

theorem distinct_keys (h : Histogram values size buckets) (hvalues : ∀ v ∈ values, type.Holds v) :
    buckets.Pairwise fun b c => b.1 ≠ c.1 := by
  refine h.distinct.imp_of_mem fun hb hc hne heq => ?_
  have hkey := hvalues _ (h.mem_values _ hb)
  rw [← heq, (FieldType.eqv_iff hkey hkey).2 rfl] at hne
  cases hne

/-- Among few enough values, each one has a bucket. -/
theorem mem_of_few {few : List Value} {v : Value} (h : Histogram values size buckets)
    (hvalues : ∀ v ∈ values, type.Holds v) (hfew : values ⊆ few) (hlength : few.length ≤ size)
    (hv : v ∈ values) : (v, (occurrences values v : Int)) ∈ buckets := by
  have hbucket : ∃ b ∈ buckets, b.1 = v := by
    rcases Nat.lt_or_ge buckets.length size with hless | hge
    · obtain ⟨b, hb, heqv⟩ := h.complete hless v hv
      exact ⟨b, hb, (FieldType.eqv_iff (hvalues _ (h.mem_values b hb)) (hvalues v hv)).1 heqv⟩
    · -- The keys are as many different ones as there can be, so none of the values is left out.
      have hnodup : (buckets.map Prod.fst).Nodup :=
        List.pairwise_map.2 (h.distinct_keys hvalues)
      have hsub : buckets.map Prod.fst ⊆ few := fun k hk => by
        obtain ⟨b, hb, rfl⟩ := List.mem_map.1 hk
        exact hfew (h.mem_values b hb)
      have hperm : (buckets.map Prod.fst).Perm few :=
        (List.subperm_of_subset hnodup hsub).perm_of_length_le (by rw [List.length_map]; omega)
      exact List.mem_map.1 (hperm.mem_iff.2 (hfew hv))
  obtain ⟨b, hb, rfl⟩ := hbucket
  rw [← h.counted b hb]
  exact hb

end Histogram

end FacetSearch
