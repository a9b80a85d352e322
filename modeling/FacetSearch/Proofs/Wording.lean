import FacetSearch.Proofs.Outcome
import FacetSearch.Query.Render

/-!
# What can be put into a text

A value has a wording unless a whole number somewhere in it is too long to be written
(`Value.Worded`); that is all that can be wrong with it (`Value.text_succeedsIff`). The same is asked
of the object of a query tree when the tree is put on the log (`Query.Worded`), and each kind of node
adds the values that it is written with.
-/

namespace FacetSearch

open Outcome

/-- The failure of reading or writing a number of too many digits. -/
abbrev tooLong : Error := .fault .tooManyDigits

theorem decimal_succeedsIff (n : Int) : SucceedsIff (IsShort n) tooLong (decimal n) :=
  ⟨fun h => ⟨_, decimal_of_isShort h⟩, decimal_of_not_isShort⟩

/-- The key is no number that is too long to be written. -/
def Key.Worded : Key → Prop
  | num (.int n) => IsShort n
  | _ => True

theorem Key.literal_succeedsIff (k : Key) : SucceedsIff k.Worded tooLong k.literal := by
  cases k with
  | num n =>
    cases n with
    | int n => exact decimal_succeedsIff n
    | float x => exact succeedsIff_ok trivial _
  | _ => exact succeedsIff_ok trivial _

namespace Value

mutual

/-- No whole number in the value is too long to be written. -/
def Worded : Value → Prop
  | null | bool _ | str _ => True
  | num n => (Key.num n).Worded
  | arr items => ItemsWorded items
  | obj entries => EntriesWorded entries

def ItemsWorded : List Value → Prop
  | [] => True
  | v :: vs => v.Worded ∧ ItemsWorded vs

def EntriesWorded : List (Key × Value) → Prop
  | [] => True
  | (k, v) :: rest => (k.Worded ∧ v.Worded) ∧ EntriesWorded rest

end

attribute [local simp] Worded ItemsWorded EntriesWorded

@[simp]
theorem worded_null : Worded null := by simp

@[simp]
theorem worded_bool (b : Bool) : (bool b).Worded := by simp

@[simp]
theorem worded_str (s : String) : (str s).Worded := by simp

theorem worded_ofInt {n : Int} : (ofInt n).Worded ↔ IsShort n := by
  rw [ofInt, Worded, Key.Worded]

@[simp]
theorem worded_arr {items : List Value} : (arr items).Worded ↔ ∀ v ∈ items, v.Worded := by
  rw [Worded]
  induction items with
  | nil => simp
  | cons v vs ih => rw [ItemsWorded, ih, List.forall_mem_cons]

@[simp]
theorem worded_obj {entries : List (Key × Value)} :
    (obj entries).Worded ↔ ∀ e ∈ entries, e.1.Worded ∧ e.2.Worded := by
  rw [Worded]
  induction entries with
  | nil => simp
  | cons e rest ih => rw [EntriesWorded, ih, List.forall_mem_cons]

@[simp]
theorem worded_object {members : Record String Value} :
    (object members).Worded ↔ ∀ m ∈ members, m.2.Worded := by
  rw [object, worded_obj, List.forall_mem_map]
  simp [Key.Worded]

mutual

theorem literal_succeedsIff : ∀ v : Value, SucceedsIff v.Worded tooLong v.literal
  | null => succeedsIff_ok worded_null _
  | bool b => succeedsIff_ok (worded_bool b) _
  | str s => succeedsIff_ok (worded_str s) _
  | num n => by
    rw [Worded, literal]
    exact (Key.num n).literal_succeedsIff
  | arr items => by
    rw [Worded, literal]
    exact (itemLiterals_succeedsIff items).bind_ok
  | obj entries => by
    rw [Worded, literal]
    exact (entryLiterals_succeedsIff entries).bind_ok

theorem itemLiterals_succeedsIff :
    ∀ items : List Value, SucceedsIff (ItemsWorded items) tooLong (itemLiterals items)
  | [] => succeedsIff_ok (by simp) _
  | v :: vs => by
    rw [ItemsWorded, itemLiterals]
    exact (literal_succeedsIff v).bind fun _ _ => (itemLiterals_succeedsIff vs).bind_ok

theorem entryLiterals_succeedsIff :
    ∀ entries : List (Key × Value), SucceedsIff (EntriesWorded entries) tooLong
      (entryLiterals entries)
  | [] => succeedsIff_ok (by simp) _
  | (k, v) :: rest => by
    rw [EntriesWorded, entryLiterals, and_assoc]
    exact k.literal_succeedsIff.bind fun _ _ => (literal_succeedsIff v).bind fun _ _ =>
      (entryLiterals_succeedsIff rest).bind_ok

end

theorem text_succeedsIff (v : Value) : SucceedsIff v.Worded tooLong v.text := by
  cases v with
  | str s => exact succeedsIff_ok (worded_str s) _
  | _ => exact literal_succeedsIff _

theorem text_ofInt {n : Int} (h : IsShort n) : (ofInt n).text = .ok (toString n) :=
  decimal_of_isShort h

end Value

/-! ## Query trees -/

namespace Value

theorem worded_memberIfGiven (key : String) (v : Value) :
    (∀ m ∈ v.memberIfGiven key, m.2.Worded) ↔ v.Worded := by
  unfold memberIfGiven
  cases v <;> simp [isNull]

theorem worded_memberIfAny (key : String) (items : List Value) :
    (∀ m ∈ memberIfAny key items, m.2.Worded) ↔ ∀ v ∈ items, v.Worded := by
  unfold memberIfAny
  cases items <;> simp

end Value

namespace Query

/-- The tree has an object, and no whole number in it is too long to be written. -/
def Worded (q : Query) : Prop := ∃ v, q.render = .ok v ∧ v.Worded

variable {q : Query} {v : Value}

theorem worded_iff_of_render (h : q.render = .ok v) : q.Worded ↔ v.Worded := by
  simp [Worded, h]

theorem worded_term {name : String} {value : Value} :
    (term (.named name) value).Worded ↔ value.Worded := by
  have hrender : (term (.named name) value).render =
      .ok (.object [("term", .obj [(.str name, value)])]) := by
    rw [render, Target.named, Boost.isNeutral_neutral]
    rfl
  rw [worded_iff_of_render hrender]
  simp [Key.Worded]

theorem worded_range {name : String} {gte lte : Value} :
    (range (.named name) gte lte).Worded ↔ gte.Worded ∧ lte.Worded := by
  have hrender : (range (.named name) gte lte).render = .ok (.object [("range",
      .obj [(.str name, .object (gte.memberIfGiven "gte" ++ lte.memberIfGiven "lte"))])]) := by
    rw [render]
    rfl
  rw [worded_iff_of_render hrender, ← Value.worded_memberIfGiven "gte" gte,
    ← Value.worded_memberIfGiven "lte" lte, ← List.forall_mem_append]
  simp [Key.Worded]

theorem worded_hasValue {t : Target} : (hasValue t).Worded ↔ t.field.Worded := by
  rw [worded_iff_of_render (by rw [render])]
  simp

theorem worded_matchAll (t : Target) : (matchAll t).Worded := by
  rw [worded_iff_of_render (by rw [render])]
  simp

theorem worded_acrossFields {text scoring fuzziness length : Value} {names : List Value} :
    (acrossFields {} text (.arr names) scoring fuzziness length).Worded ↔
      text.Worded ∧ (∀ v ∈ names, v.Worded) ∧ scoring.Worded ∧
        (fuzziness.isAbsent = true ∨ fuzziness.Worded ∧ length.Worded) := by
  rw [worded_iff_of_render rfl, Boost.member, Boost.isNeutral_neutral]
  cases fuzziness.isAbsent <;> simp

theorem worded_renderAll {qs : List Query} :
    (∃ vs, renderAll qs = .ok vs ∧ ∀ v ∈ vs, v.Worded) ↔ ∀ q ∈ qs, q.Worded := by
  rw [renderAll_eq_mapM]
  induction qs with
  | nil => exact iff_of_true ⟨[], rfl, by simp⟩ (by simp)
  | cons q qs ih =>
    rw [List.forall_mem_cons, ← ih, List.mapM_cons]
    constructor
    · rintro ⟨vs, h, hvs⟩
      obtain ⟨v, hv, h⟩ := bind_eq_ok.1 h
      obtain ⟨ws, hws, h⟩ := bind_eq_ok.1 h
      cases h
      rw [List.forall_mem_cons] at hvs
      exact ⟨⟨v, hv, hvs.1⟩, ws, hws, hvs.2⟩
    · rintro ⟨⟨v, hv, hworded⟩, vs, hvs, hall⟩
      exact ⟨v :: vs, by rw [hv, ok_bind, hvs]; rfl, List.forall_mem_cons.2 ⟨hworded, hall⟩⟩

/-- The clauses are written one by one, and beside alternatives how many of them have to match. -/
theorem worded_bool {must should mustNot : List Query} {least : Value} :
    (bool {} must should mustNot least).Worded ↔
      (∀ q ∈ must, q.Worded) ∧ (∀ q ∈ should, q.Worded) ∧ (∀ q ∈ mustNot, q.Worded) ∧
        (should = [] ∨ least.Worded) := by
  have hleast : (∀ m ∈ if should.isEmpty then [] else
      least.memberIfGiven "minimum_should_match", m.2.Worded) ↔ should = [] ∨ least.Worded := by
    cases should with
    | nil => simp
    | cons q qs => simpa using Value.worded_memberIfGiven _ least
  have hobject (ms ss ns : List Value) : (Value.object [("bool", .object (
      Value.memberIfAny "must" ms ++ Value.memberIfAny "should" ss ++
        (if should.isEmpty then [] else least.memberIfGiven "minimum_should_match") ++
        Value.memberIfAny "must_not" ns ++ Boost.member Boost.neutral))]).Worded ↔
      (∀ v ∈ ms, v.Worded) ∧ (∀ v ∈ ss, v.Worded) ∧ (∀ v ∈ ns, v.Worded) ∧
        (should = [] ∨ least.Worded) := by
    rw [Boost.member, Boost.isNeutral_neutral, if_pos rfl, List.append_nil, Value.worded_object,
      List.forall_mem_singleton, Value.worded_object, List.forall_mem_append,
      List.forall_mem_append, List.forall_mem_append, hleast, Value.worded_memberIfAny,
      Value.worded_memberIfAny, Value.worded_memberIfAny]
    tauto
  rw [← worded_renderAll, ← worded_renderAll, ← worded_renderAll, Worded, render]
  constructor
  · rintro ⟨v, h, hv⟩
    obtain ⟨ms, hms, h⟩ := bind_eq_ok.1 h
    obtain ⟨ss, hss, h⟩ := bind_eq_ok.1 h
    obtain ⟨ns, hns, h⟩ := bind_eq_ok.1 h
    cases h
    obtain ⟨hm, hs, hn, hl⟩ := (hobject ms ss ns).1 hv
    exact ⟨⟨ms, hms, hm⟩, ⟨ss, hss, hs⟩, ⟨ns, hns, hn⟩, hl⟩
  · rintro ⟨⟨ms, hms, hm⟩, ⟨ss, hss, hs⟩, ⟨ns, hns, hn⟩, hl⟩
    rw [hms, hss, hns]
    exact ⟨_, rfl, (hobject ms ss ns).2 ⟨hm, hs, hn, hl⟩⟩

theorem worded_allOf {clauses : List Query} :
    (allOf clauses).Worded ↔ ∀ q ∈ clauses, q.Worded := by
  rw [allOf, worded_bool]
  simp

theorem worded_anyOf {clauses : List Query} :
    (anyOf clauses).Worded ↔ ∀ q ∈ clauses, q.Worded := by
  have hone : (Value.ofInt 1).Worded := Value.worded_ofInt.2 (isShort_iff.2 (by decide))
  rw [anyOf, worded_bool]
  simp [hone]

theorem worded_missing (name : String) : (missing (.str name)).Worded := by
  rw [missing, worded_bool]
  simp [worded_hasValue]

theorem worded_shuffled {target : Target} {seed : Value} :
    (shuffled target q seed).Worded ↔ q.Worded ∧ seed.Worded ∧ target.field.Worded := by
  have hfield : (if target.field.isNull then .str "id" else target.field).Worded ↔
      target.field.Worded := by
    cases target.field <;> simp [Value.isNull]
  rw [← hfield, shuffled, Worded, render, Worded]
  constructor
  · rintro ⟨v, h, hv⟩
    obtain ⟨w, hw, h⟩ := bind_eq_ok.1 h
    cases h
    obtain ⟨hworded, hseed, hfield⟩ : w.Worded ∧ seed.Worded ∧ _ := by simpa using hv
    exact ⟨⟨w, hw, hworded⟩, hseed, hfield⟩
  · rintro ⟨⟨w, hw, hworded⟩, hseed, hfield⟩
    rw [hw]
    exact ⟨_, rfl, by simpa using ⟨hworded, hseed, hfield⟩⟩

end Query

end FacetSearch
