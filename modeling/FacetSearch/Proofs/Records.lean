import Mathlib.Data.List.Basic
import FacetSearch.Record

/-!
# Entries under different keys

A list of entries no two of which have the same key is the record it makes (`ofList_of_apart`), and
looking a key up finds its entry. Nothing is asked of the comparison of keys but that the keys
looked up are the same as themselves.
-/

namespace FacetSearch.Record

variable {κ α : Type} [BEq κ] {r entries : Record κ α} {key : κ} {value : α}

/-- No two of the entries have the same key. -/
def Apart (entries : List (κ × α)) : Prop :=
  entries.Pairwise fun e e' => (e.1 == e'.1) = false

theorem set_of_absent (h : ∀ e ∈ r, (e.1 == key) = false) :
    set r key value = r ++ [(key, value)] := by
  induction r with
  | nil => rfl
  | cons e rest ih =>
    rw [List.forall_mem_cons] at h
    simp [set, h.1, ih h.2]

theorem ofList_of_apart (h : Apart entries) : ofList entries = entries := by
  -- What has been entered so far goes first, and the rest is appended entry by entry.
  suffices hall : ∀ r : Record κ α, Apart (r ++ entries) →
      entries.foldl (fun r e => set r e.1 e.2) r = r ++ entries from hall [] h
  clear h
  induction entries with
  | nil => intro r _; simp
  | cons e rest ih =>
    intro r h
    have habsent : ∀ e' ∈ r, (e'.1 == e.1) = false := fun e' he' =>
      (List.pairwise_append.1 h).2.2 e' he' e List.mem_cons_self
    rw [List.foldl_cons, set_of_absent habsent, List.append_cons r e rest]
    exact ih _ (by rwa [List.append_cons] at h)

theorem get?_eq_none_iff : get? r key = none ↔ ∀ e ∈ r, (e.1 == key) = false := by
  induction r with
  | nil => simp [get?]
  | cons e rest ih =>
    rw [List.forall_mem_cons, ← ih, get?]
    cases h : e.1 == key with
    | true => simp
    | false => simp

theorem get?_of_mem (h : Apart r) (hself : (key == key) = true) (hmem : (key, value) ∈ r) :
    get? r key = some value := by
  induction r with
  | nil => cases hmem
  | cons e rest ih =>
    obtain ⟨hfirst, hrest⟩ := List.pairwise_cons.1 h
    rw [get?]
    rcases List.mem_cons.1 hmem with rfl | hmem
    · rw [if_pos hself]
    · have hne : (e.1 == key) = false := hfirst _ hmem
      rw [hne]
      exact ih hrest hmem

theorem mem_of_get? (h : get? r key = some value) : ∃ k, (k == key) = true ∧ (k, value) ∈ r := by
  induction r with
  | nil => cases h
  | cons e rest ih =>
    rw [get?] at h
    cases hkey : e.1 == key with
    | true =>
      rw [if_pos hkey] at h
      exact ⟨e.1, hkey, by rw [← Option.some.inj h]; exact List.mem_cons_self⟩
    | false =>
      rw [hkey] at h
      obtain ⟨k, hk, hmem⟩ := ih h
      exact ⟨k, hk, List.mem_cons_of_mem _ hmem⟩

end FacetSearch.Record
