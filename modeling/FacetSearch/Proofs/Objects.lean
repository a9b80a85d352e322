import Mathlib.Data.List.Nodup
import FacetSearch.Proofs.Records
import FacetSearch.Value

/-!
# Objects that leave members out

An object that leaves out the members that say nothing is written slot by slot (`Value.ofSlots`): a
slot has a key, and a value unless it is left out. Two objects of the same slots are equal exactly if
they leave out the same slots and are equal in all others (`eqv_ofSlots`), so nothing is lost by
leaving a member out as long as it is known what its absence stands for.
-/

namespace FacetSearch.Value

/-- A member under a key, or its absence. -/
abbrev Slot := String × Option Value

/-- The members that are not left out. -/
def membersOf (slots : List Slot) : Record String Value :=
  slots.filterMap fun s => s.2.map (s.1, ·)

/-- The object of the members that are not left out. -/
def ofSlots (slots : List Slot) : Value := object (membersOf slots)

/-- Both members are left out, or both are there and hold the same. -/
def agree : Option Value → Option Value → Bool
  | none, none => true
  | some v, some w => v.eqv w
  | _, _ => false

theorem agree_some (v w : Value) : agree (some v) (some w) = v.eqv w := rfl

/-- The members agree slot by slot. -/
def agreeAll : List Slot → List Slot → Bool
  | [], [] => true
  | s :: ss, t :: ts => agree s.2 t.2 && agreeAll ss ts
  | _, _ => false

/-- A member under the same key that holds the same. -/
def foundIn (others : Record String Value) (m : String × Value) : Bool :=
  match Record.get? others m.1 with
  | some w => m.2.eqv w
  | none => false

section Objects

variable {ms ns : Record String Value} {k : String} {v w : Value}

theorem get?_object (ms : Record String Value) (k : String) :
    Record.get? (ms.map fun m => (Key.str m.1, m.2)) (.str k) = Record.get? ms k := by
  induction ms with
  | nil => rfl
  | cons m ms ih =>
    have hkey : (Key.str m.1 == Key.str k) = (m.1 == k) := rfl
    rw [List.map_cons, Record.get?, Record.get?, ih, hkey]

theorem eqvEntries_object (ms ns : Record String Value) :
    eqvEntries (ms.map fun m => (Key.str m.1, m.2)) (ns.map fun m => (Key.str m.1, m.2)) =
      ms.all (foundIn ns) := by
  induction ms with
  | nil => rfl
  | cons m ms ih => rw [List.map_cons, eqvEntries, get?_object, ih, List.all_cons]; rfl

/-- Objects are equal if they have as many members and each is found in the other object. -/
theorem object_eqv_object (ms ns : Record String Value) :
    (object ms).eqv (object ns) = (ms.length == ns.length && ms.all (foundIn ns)) := by
  rw [object, object, eqv, List.length_map, List.length_map, eqvEntries_object]

theorem object_singleton_eqv {k' : String} :
    (object [(k, v)]).eqv (object [(k', w)]) = (k == k' && v.eqv w) := by
  have hkey : (k' == k) = (k == k') := Bool.beq_comm
  rw [object_eqv_object, List.all_cons, List.all_nil, Bool.and_true, foundIn, Record.get?, hkey]
  cases k == k' <;> simp [Record.get?]

theorem get?_eq_none_of_not_mem (h : k ∉ ns.keys) : Record.get? ns k = none := by
  rw [Record.get?_eq_none_iff]
  intro e he
  have hne : e.1 ≠ k := fun heq => h (heq ▸ List.mem_map_of_mem he)
  simpa using hne

theorem foundIn_of_not_mem (h : k ∉ ns.keys) : foundIn ns (k, v) = false := by
  rw [foundIn, get?_eq_none_of_not_mem h]

/-- A further member is of no use to members of other keys. -/
theorem all_foundIn_cons (h : k ∉ ms.keys) :
    ms.all (foundIn ((k, w) :: ns)) = ms.all (foundIn ns) := by
  rw [Bool.eq_iff_iff, List.all_eq_true, List.all_eq_true]
  have hsame : ∀ m ∈ ms, foundIn ((k, w) :: ns) m = foundIn ns m := by
    intro m hm
    have hne : ¬ k = m.1 := fun heq => h (heq ▸ List.mem_map_of_mem hm)
    simp [foundIn, Record.get?, hne]
  exact forall₂_congr fun m hm => by rw [hsame m hm]

/-- Members of different keys can only be found in an object of as many. -/
theorem length_le_of_foundIn (hms : ms.keys.Nodup) (h : ms.all (foundIn ns) = true) :
    ms.length ≤ ns.length := by
  have hsubset : ms.keys ⊆ ns.keys := by
    intro key hkey
    obtain ⟨m, hm, rfl⟩ := List.mem_map.1 hkey
    by_contra hnot
    have hfound := List.all_eq_true.1 h m hm
    rw [foundIn_of_not_mem hnot] at hfound
    cases hfound
  simpa [Record.keys] using hms.length_le_of_subset hsubset

end Objects

section Slots

variable {ss ts : List Slot} {k : String}

theorem membersOf_append (ss ts : List Slot) :
    membersOf (ss ++ ts) = membersOf ss ++ membersOf ts := List.filterMap_append

theorem keys_membersOf_subset (ss : List Slot) : (membersOf ss).keys ⊆ ss.map Prod.fst := by
  intro key hkey
  obtain ⟨m, hm, rfl⟩ := List.mem_map.1 hkey
  obtain ⟨s, hs, hsm⟩ := List.mem_filterMap.1 hm
  obtain ⟨v, -, rfl⟩ := Option.map_eq_some_iff.1 hsm
  exact List.mem_map_of_mem hs

theorem nodup_keys_membersOf (h : (ss.map Prod.fst).Nodup) : (membersOf ss).keys.Nodup := by
  induction ss with
  | nil => exact List.nodup_nil
  | cons s ss ih =>
    obtain ⟨k, v?⟩ := s
    obtain ⟨hfresh, hrest⟩ := List.nodup_cons.1 h
    cases v? with
    | none => exact ih hrest
    | some v =>
      exact List.nodup_cons.2 ⟨fun hk => hfresh (keys_membersOf_subset ss hk), ih hrest⟩

/-- Objects of the same slots are equal exactly if they agree in every slot. -/
theorem eqv_ofSlots (keys : List String) (hss : ss.map Prod.fst = keys)
    (hts : ts.map Prod.fst = keys) (h : keys.Nodup) :
    (ofSlots ss).eqv (ofSlots ts) = agreeAll ss ts := by
  induction keys generalizing ss ts with
  | nil => rw [List.map_eq_nil_iff.1 hss, List.map_eq_nil_iff.1 hts]; rfl
  | cons k keys ih =>
    obtain ⟨⟨k₁, v?⟩, ss, rfl, hk₁, hss'⟩ := List.map_eq_cons_iff.1 hss
    obtain ⟨⟨k₂, w?⟩, ts, rfl, hk₂, hts'⟩ := List.map_eq_cons_iff.1 hts
    obtain rfl : k₁ = k := hk₁
    obtain rfl : k₂ = k₁ := hk₂
    obtain ⟨hfresh, hnodup⟩ := List.nodup_cons.1 h
    have hms : k₂ ∉ (membersOf ss).keys := fun hk =>
      hfresh (hss' ▸ keys_membersOf_subset ss hk)
    have hns : k₂ ∉ (membersOf ts).keys := fun hk =>
      hfresh (hts' ▸ keys_membersOf_subset ts hk)
    have ih := ih hss' hts' hnodup
    rw [ofSlots, ofSlots, object_eqv_object] at ih
    rw [agreeAll, ← ih, ofSlots, ofSlots, object_eqv_object]
    -- Only one of two objects having the first slot makes the other one too short.
    cases v? with
    | none =>
      cases w? with
      | none => rfl
      | some w =>
        change ((membersOf ss).length == (membersOf ts).length + 1 &&
          (membersOf ss).all (foundIn ((k₂, w) :: membersOf ts))) = false
        rw [all_foundIn_cons hms, Bool.and_eq_false_imp, beq_iff_eq]
        intro hlength
        cases hfound : (membersOf ss).all (foundIn (membersOf ts)) with
        | false => rfl
        | true =>
          have hle := length_le_of_foundIn (nodup_keys_membersOf (hss' ▸ hnodup)) hfound
          omega
    | some v =>
      cases w? with
      | none =>
        change ((membersOf ss).length + 1 == (membersOf ts).length &&
          (foundIn (membersOf ts) (k₂, v) && (membersOf ss).all (foundIn (membersOf ts)))) = false
        rw [foundIn_of_not_mem hns, Bool.false_and, Bool.and_false]
      | some w =>
        have hfirst : foundIn ((k₂, w) :: membersOf ts) (k₂, v) = v.eqv w := by
          simp [foundIn, Record.get?]
        change ((membersOf ss).length + 1 == (membersOf ts).length + 1 &&
          (foundIn ((k₂, w) :: membersOf ts) (k₂, v) &&
            (membersOf ss).all (foundIn ((k₂, w) :: membersOf ts)))) = _
        rw [hfirst, all_foundIn_cons hms, agree, Bool.and_left_comm]
        congr 2
        rw [Bool.eq_iff_iff]
        simp

end Slots

end FacetSearch.Value
