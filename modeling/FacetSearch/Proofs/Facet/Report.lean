import FacetSearch.Proofs.Facet.Truth

/-!
# Statistics read back

The answers to the statistics of a field, when true, are read back as what they stand for, in
whichever way they are written: counts and extremes as whole numbers (`toInteger_of_eqv`), keys as
the values counted. The buckets of a truth field are gone through once, and each one counts for the
truth value of its key (`countTruth_foldlM`).
-/

namespace FacetSearch

open Outcome

namespace Value

variable {v w : Value}

theorem toInteger_of_eqv {n : Int} (h : v.eqv (.ofInt n) = true) : v.toInteger = .ok n := by
  cases v with
  | bool b =>
    have hb : Number.eqv (.int (if b then 1 else 0)) (.int n) = true := h
    exact Number.truncate_of_eqv hb
  | num m =>
    have hm : m.eqv (.int n) = true := h
    exact Number.truncate_of_eqv hm
  | null => cases h
  | str s => cases h
  | arr items => cases h
  | obj entries => cases h

theorem eq_null_of_eqv (h : v.eqv null = true) : v = null := by
  cases v <;> first | rfl | cases h

theorem eq_str_of_eqv {s : String} (h : v.eqv (str s) = true) : v = str s := by
  cases v with
  | str t => rw [beq_iff_eq.1 (show (t == s) = true from h)]
  | null => cases h
  | bool b => cases h
  | num n => cases h
  | arr items => cases h
  | obj entries => cases h

theorem Gives.memberOr {key : String} (h : v.Gives key w) (default : Value) :
    ∃ member, v.memberOr key default = .ok member ∧ member.eqv w = true := by
  obtain ⟨member, hmember, heqv⟩ := h
  exact ⟨member, by rw [Value.memberOr, hmember]; rfl, heqv⟩

theorem memberOr_of_get? {answers : Record Key Value} {name : String} {answer : Value}
    (default : Value) (h : Record.get? answers (.str name) = some answer) :
    (obj answers).memberOr name default = .ok answer := by
  rw [memberOr, member?, entries, Except.map, Except.map, h]
  rfl

end Value

namespace FieldStat

variable {answers : Record Key Value} {name : String} {answer item : Value} {values : List Value}

theorem docCount_eq_ok {n : Int} (h : answer.Gives "doc_count" (.ofInt n)) :
    docCount answer = .ok n := by
  obtain ⟨member, hmember, heqv⟩ := h.memberOr (.ofInt 0)
  exact bind_eq_ok.2 ⟨member, hmember, Value.toInteger_of_eqv heqv⟩

theorem extremum_spec {before : Value → Value → Prop}
    (hget : Record.get? answers (.str name) = some answer) (h : GivesFirst before values answer)
    (hvalues : ∀ v ∈ values, FieldType.integer.Holds v) :
    ∃ n, extremum (.obj answers) name = .ok n ∧ (values = [] → n = 0) ∧
      (values ≠ [] → .ofInt n ∈ values ∧ ∀ v ∈ values, before (.ofInt n) v) := by
  have hanswer := Value.memberOr_of_get? (.obj []) hget
  rcases h with ⟨hnil, member, hmember, heqv⟩ | ⟨m, hm, ⟨member, hmember, heqv⟩, hfirst⟩
  · obtain rfl := Value.eq_null_of_eqv heqv
    refine ⟨0, ?_, fun _ => rfl, fun hne => absurd hnil hne⟩
    exact bind_eq_ok.2 ⟨answer, hanswer, bind_eq_ok.2 ⟨_, hmember, rfl⟩⟩
  · obtain ⟨n, rfl⟩ := hvalues m hm
    refine ⟨n, ?_, fun hnil => ?_, fun _ => ⟨hm, hfirst⟩⟩
    · refine bind_eq_ok.2 ⟨answer, hanswer, bind_eq_ok.2 ⟨_, hmember, ?_⟩⟩
      cases member with
      | null => cases heqv
      | _ => exact Value.toInteger_of_eqv heqv
    · rw [hnil] at hm
      cases hm

/-- The buckets read from a true answer make a histogram of the size asked for. -/
theorem buckets_spec {docs : List Document} {field : Value} {n : Nat}
    (hget : Record.get? answers (.str name) = some answer)
    (h : Truthful docs field answer (.terms (.ofInt n))) :
    ∃ items read, buckets (.obj answers) name = .ok items ∧
      List.Forall₂ GivesBucket items read ∧ Histogram (valuesIn docs field) n read := by
  obtain ⟨size, read, hsize, hhistogram, items, hmember, hitems⟩ := h
  have heq : (n : Int) = size := Except.ok.inj (Value.toInteger_of_eqv (hsize rfl))
  rw [← Int.ofNat_inj.1 heq] at hhistogram
  have hanswer := Value.memberOr_of_get? (.obj []) hget
  refine ⟨items, read, bind_eq_ok.2 ⟨answer, hanswer, bind_eq_ok.2 ⟨.arr items, ?_, rfl⟩⟩, hitems,
    hhistogram⟩
  rw [Value.memberOr, hmember]
  rfl

/-! ## Buckets of truth values -/

theorem truthOfKey?_of_eqv {key : Value} {b : Bool} (h : key.eqv (.bool b) = true) :
    truthOfKey? key = some b := by
  have hnumber : ∃ n, key.number? = some n ∧ n.eqv (.int (if b then 1 else 0)) = true := by
    cases key with
    | bool c => exact ⟨_, rfl, h⟩
    | num n => exact ⟨n, rfl, h⟩
    | null => cases h
    | str s => cases h
    | arr items => cases h
    | obj entries => cases h
  obtain ⟨n, hn, heqv⟩ := hnumber
  have hmagnitude := (Magnitude.eqv_iff.1 heqv).1
  rw [truthOfKey?, hn]
  simp only [Number.eqv, hmagnitude]
  cases b <;> decide

/-- The count of one of the truth values. -/
def countOf (b : Bool) (counts : Int × Int) : Int := if b then counts.2 else counts.1

def setCount (b : Bool) (n : Int) (counts : Int × Int) : Int × Int :=
  if b then (counts.1, n) else (n, counts.2)

theorem countOf_setCount {b c : Bool} {n : Int} {counts : Int × Int} :
    countOf b (setCount c n counts) = if b = c then n else countOf b counts := by
  cases b <;> cases c <;> rfl

theorem countTruth_eq_ok {b : Bool} {n : Int} {counts : Int × Int}
    (hkey : item.Gives "key" (.bool b)) (hcount : item.Gives "doc_count" (.ofInt n)) :
    countTruth counts item = .ok (setCount b n counts) := by
  obtain ⟨key, hmember, heqv⟩ := hkey.memberOr .null
  refine bind_eq_ok.2 ⟨key, hmember, ?_⟩
  rw [truthOfKey?_of_eqv heqv]
  cases b with
  | false => exact bind_eq_ok.2 ⟨n, docCount_eq_ok hcount, rfl⟩
  | true => exact bind_eq_ok.2 ⟨n, docCount_eq_ok hcount, rfl⟩

/-- A truth value has the count of its bucket in the end, and the one it had before if it has no
bucket. No two buckets are for the same, so none overwrites what another one counted. -/
theorem countTruth_foldlM {items : List Value} {buckets : List (Value × Int)}
    (hitems : List.Forall₂ GivesBucket items buckets)
    (hkeys : ∀ e ∈ buckets, FieldType.boolean.Holds e.1)
    (hdistinct : buckets.Pairwise fun e e' => e.1 ≠ e'.1) (counts : Int × Int) :
    ∃ counts', items.foldlM countTruth counts = .ok counts' ∧
      ∀ b, (∀ n, (.bool b, n) ∈ buckets → countOf b counts' = n) ∧
        ((∀ e ∈ buckets, e.1 ≠ .bool b) → countOf b counts' = countOf b counts) := by
  induction hitems generalizing counts with
  | nil => exact ⟨counts, rfl, fun b => ⟨fun n h => (by cases h), fun _ => rfl⟩⟩
  | cons hitem hitems ih =>
    rename_i item e items buckets
    obtain ⟨hfirst, hrest⟩ := List.pairwise_cons.1 hdistinct
    rw [List.forall_mem_cons] at hkeys
    obtain ⟨c, hc⟩ := hkeys.1
    rw [GivesBucket, hc] at hitem
    obtain ⟨counts', hfold, hcounts⟩ := ih hkeys.2 hrest (setCount c e.2 counts)
    refine ⟨counts', ?_, fun b => ⟨fun n hn => ?_, fun habsent => ?_⟩⟩
    · rw [List.foldlM_cons, countTruth_eq_ok hitem.1 hitem.2]
      exact hfold
    · rcases List.mem_cons.1 hn with rfl | hn
      · have hbc : b = c := Value.bool.inj hc
        rw [(hcounts b).2 fun e he => (hfirst e he).symm, countOf_setCount, if_pos hbc]
      · exact (hcounts b).1 n hn
    · rw [List.forall_mem_cons] at habsent
      have hne : b ≠ c := fun h => habsent.1 (by rw [hc, h])
      rw [(hcounts b).2 habsent.2, countOf_setCount, if_neg hne]

/-- Of truth values every one has a bucket, so the counts are right. -/
theorem countTruth_spec {items : List Value} {buckets : List (Value × Int)}
    (hitems : List.Forall₂ GivesBucket items buckets)
    (hvalues : ∀ v ∈ values, FieldType.boolean.Holds v) (h : Histogram values 2 buckets) :
    items.foldlM countTruth (0, 0) =
      .ok (occurrences values (.bool false), occurrences values (.bool true)) := by
  obtain ⟨counts, hfold, hcounts⟩ := countTruth_foldlM hitems
    (fun b hb => hvalues _ (h.mem_values b hb)) (h.distinct_keys hvalues) (0, 0)
  have hcount (b : Bool) : countOf b counts = occurrences values (.bool b) := by
    by_cases hb : Value.bool b ∈ values
    · have hsub : values ⊆ [.bool false, .bool true] := fun v hv => by
        obtain ⟨c, rfl⟩ := hvalues v hv
        cases c <;> simp
      exact (hcounts b).1 _ (h.mem_of_few hvalues hsub (Nat.le_refl 2) hb)
    · rw [occurrences_eq_zero hvalues ⟨b, rfl⟩ hb, (hcounts b).2 fun e he heq =>
        hb (heq ▸ h.mem_values e he)]
      cases b <;> rfl
  rw [hfold, ← hcount false, ← hcount true]
  rfl

/-! ## Buckets of texts -/

theorem mapM_readBucket {items : List Value} {buckets : List (Value × Int)}
    (hitems : List.Forall₂ GivesBucket items buckets)
    (hkeys : ∀ e ∈ buckets, FieldType.string.Holds e.1) :
    items.mapM readBucket = .ok buckets := by
  rw [mapM_eq_ok_iff]
  induction hitems with
  | nil => exact .nil
  | cons hitem hitems ih =>
    rw [List.forall_mem_cons] at hkeys
    refine .cons ?_ (ih hkeys.2)
    obtain ⟨s, hs⟩ := hkeys.1
    obtain ⟨key, hkey, heqv⟩ := hitem.1.memberOr .null
    rw [hs] at heqv
    obtain rfl := Value.eq_str_of_eqv heqv
    rw [← hs] at hkey
    exact bind_eq_ok.2 ⟨_, hkey, bind_eq_ok.2 ⟨_, docCount_eq_ok hitem.2, rfl⟩⟩

/-! ## The statistic of a field -/

variable {f : Field} {target : Value} {docs : List Document}

theorem ofAnswers?_eq_none (h : Record.get? answers (.str f.missingName) = none) :
    ofAnswers? (.obj answers) f = .ok none := by
  have hholds : (Value.obj answers).holds f.missingName = .ok false := by
    rw [Value.holds, h]
    rfl
  rw [ofAnswers?, hholds]
  rfl

section Answered

variable {countUnknown : Int} (hget : Record.get? answers (.str f.missingName) = some answer)
  (hcount : docCount answer = .ok countUnknown)

include hget hcount

theorem ofAnswers?_integer {minimum maximum : Int} (htype : f.type = .integer)
    (hmin : extremum (.obj answers) f.minName = .ok minimum)
    (hmax : extremum (.obj answers) f.maxName = .ok maximum) :
    ofAnswers? (.obj answers) f = .ok (some (integer minimum maximum countUnknown)) := by
  simp only [ofAnswers?, Value.holds, Value.member, hget, Option.isSome_some, if_true, ok_bind,
    hcount, htype, hmin, hmax]
  rfl

theorem ofAnswers?_boolean {items : List Value} {countNo countYes : Int}
    (htype : f.type = .boolean) (hitems : buckets (.obj answers) f.termsName = .ok items)
    (hfold : items.foldlM countTruth (0, 0) = .ok (countNo, countYes)) :
    ofAnswers? (.obj answers) f =
      .ok (some (boolean (countUnknown + countNo + countYes) countUnknown countNo countYes)) := by
  simp only [ofAnswers?, Value.holds, Value.member, hget, Option.isSome_some, if_true, ok_bind,
    hcount, htype, hitems, hfold]
  rfl

theorem ofAnswers?_string {items : List Value} {read : List (Value × Int)}
    (htype : f.type = .string) (hitems : buckets (.obj answers) f.termsName = .ok items)
    (hread : items.mapM readBucket = .ok read) :
    ofAnswers? (.obj answers) f = .ok (some (string countUnknown read)) := by
  simp only [ofAnswers?, Value.holds, Value.member, hget, Option.isSome_some, if_true, ok_bind,
    hcount, htype, hitems, hread]
  rfl

end Answered

end FieldStat

end FacetSearch
