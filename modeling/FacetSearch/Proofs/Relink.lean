import FacetSearch.Filter.Link
import FacetSearch.Proofs.Tilde.Reread

/-!
# Links written for filters

A filter is written into a link, and whoever follows the link gets the filter that is read from it:
`Filter.relink`, and `Filter.relinked` after several rounds. A string filter survives a round just
if it is writable (`relink_eq_self_iff`), and one that was itself read from a link just if that link
ends in neither of two ways (`relink_decode_iff`).
-/

namespace FacetSearch

open Tilde (Writable SlotBehindEscape DropsOptionBehindUnknown)

namespace StringFilter

/-- The choice of some texts. -/
def ofTexts (values : List String) (includeUnknown : Bool) : StringFilter :=
  ⟨values.map .str, .bool includeUnknown⟩

theorem ofTexts_inj {vs ws : List String} {b c : Bool} :
    ofTexts vs b = ofTexts ws c ↔ vs = ws ∧ b = c := by
  simp only [ofTexts, StringFilter.mk.injEq, Value.bool.injEq]
  rw [List.map_inj_right fun _ _ h => Value.str.inj h]

theorem decode_eq_ofTexts (text : List Char) :
    decode text = ofTexts ((Tilde.decode text).1.map String.ofList) (Tilde.decode text).2 := by
  simp [decode, ofTexts]

theorem mapM_valueChars (values : List String) :
    (values.map Value.str).mapM valueChars = .ok (values.map String.toList) := by
  induction values with
  | nil => rfl
  | cons s rest ih =>
    rw [List.map_cons, List.mapM_cons, ih]
    rfl

theorem encode_ofTexts (values : List String) (b : Bool) :
    (ofTexts values b).encode = .ok (String.ofList (Tilde.encode (values.map String.toList) b)) := by
  rw [encode, ofTexts, mapM_valueChars]
  cases b <;> rfl

end StringFilter

namespace Filter

/-- The filter that is read from the link written for a filter. -/
def relink (f : Filter) : Except Error Filter := do decode f.type (← f.encode)

/-- The filter after so many rounds of writing and reading. -/
def relinked : Nat → Filter → Except Error Filter
  | 0, f => .ok f
  | n + 1, f => do relinked n (← f.relink)

theorem relinked_of_relink {f : Filter} (h : f.relink = .ok f) (n : Nat) :
    f.relinked n = .ok f := by
  induction n with
  | zero => rfl
  | succ n ih =>
    rw [relinked, h]
    exact ih

theorem forall_relinked_iff {f : Filter} : (∀ n, f.relinked n = .ok f) ↔ f.relink = .ok f := by
  constructor
  · intro h
    have hone := h 1
    rw [relinked] at hone
    cases hrelink : f.relink with
    | error e =>
      rw [hrelink] at hone
      cases hone
    | ok g =>
      rw [hrelink] at hone
      exact hone
  · exact relinked_of_relink

theorem decode_string (raw : String) : decode .string raw = .ok (string (.decode raw.toList)) := rfl

theorem relink_ofTexts (values : List String) (b : Bool) :
    relink (string (.ofTexts values b)) =
      .ok (string (.decode (Tilde.encode (values.map String.toList) b))) := by
  simp only [relink, type, encode, StringFilter.encode_ofTexts]
  change decode .string _ = _
  rw [decode_string, String.toList_ofList]

theorem map_ofList_eq_iff {texts : List (List Char)} {values : List String} :
    texts.map String.ofList = values ↔ texts = values.map String.toList := by
  constructor
  · rintro rfl
    simp
  · rintro rfl
    simp

theorem relink_eq_self_iff {values : List String} {b : Bool} :
    relink (string (.ofTexts values b)) = .ok (string (.ofTexts values b)) ↔
      Tilde.decode (Tilde.encode (values.map String.toList) b) = (values.map String.toList, b) := by
  rw [relink_ofTexts, Except.ok.injEq, Filter.string.injEq, StringFilter.decode_eq_ofTexts,
    StringFilter.ofTexts_inj, map_ofList_eq_iff, Prod.ext_iff]

/-- A filter read from a link survives a round unless the link ends in one of two ways. -/
theorem relink_decode_iff (raw : String) :
    relink (string (.decode raw.toList)) = .ok (string (.decode raw.toList)) ↔
      ¬ SlotBehindEscape raw.toList ∧ ¬ DropsOptionBehindUnknown raw.toList := by
  have hchars : ((Tilde.decode raw.toList).1.map String.ofList).map String.toList =
      (Tilde.decode raw.toList).1 := by simp
  rw [StringFilter.decode_eq_ofTexts, relink_eq_self_iff, hchars,
    ← Tilde.decode_encode_decode_iff]

/-! ## String filters -/

/-- A string filter is read back from its own link exactly if it is writable: no value is empty, no
tilde stands beside the tilde between two values or before the options, and a last value `unknown`
behind others has the options slot behind it. -/
theorem relink_ofTexts_iff (values : List String) (includeUnknown : Bool) :
    relink (string (.ofTexts values includeUnknown)) =
        .ok (string (.ofTexts values includeUnknown)) ↔
      Writable (values.map String.toList) includeUnknown := by
  rw [relink_eq_self_iff, Tilde.decode_encode_iff]

/-- A filter read from a link stays the same however often it is written and read again, unless the
options slot of the link stands right behind a doubled tilde. -/
theorem relinked_decode_string_iff (raw : String)
    (h : ¬ DropsOptionBehindUnknown raw.toList) :
    ∃ f, decode .string raw = .ok f ∧
      ((∀ n, f.relinked n = .ok f) ↔ ¬ SlotBehindEscape raw.toList) := by
  refine ⟨string (.decode raw.toList), decode_string raw, ?_⟩
  rw [forall_relinked_iff, relink_decode_iff]
  exact and_iff_left h

theorem relinked_decode_string_iff_of_slot :
    ¬ DropsOptionBehindUnknown "a~~b~c~unknown~".toList ∧
      ∃ f, decode .string "a~~b~c~unknown~" = .ok f ∧
        ((∀ n, f.relinked n = .ok f) ↔ ¬ SlotBehindEscape "a~~b~c~unknown~".toList) := by
  have hslot : Tilde.optionsSlot? "a~~b~c~unknown~".toList = some (true, "a~~b~c~".toList) := by
    decide
  have h : ¬ DropsOptionBehindUnknown "a~~b~c~unknown~".toList := by
    rw [Tilde.dropsOptionBehindUnknown_iff, hslot]
    simp
  exact ⟨h, relinked_decode_string_iff _ h⟩

/-- A round does change filters read from links of either ending: the one gets a tilde more, the
other loses its last value. -/
theorem relink_decode_string_changes :
    (decode .string "a~~unknown~" = .ok (string (.ofTexts ["a~"] true)) ∧
      relink (string (.ofTexts ["a~"] true)) = .ok (string (.ofTexts ["a~~"] true)) ∧
      StringFilter.ofTexts ["a~"] true ≠ .ofTexts ["a~~"] true) ∧
    (decode .string "a~unknown~x~" = .ok (string (.ofTexts ["a", "unknown"] false)) ∧
      relink (string (.ofTexts ["a", "unknown"] false)) = .ok (string (.ofTexts ["a"] true)) ∧
      StringFilter.ofTexts ["a", "unknown"] false ≠ .ofTexts ["a"] true) := by
  refine ⟨⟨rfl, ?_, ?_⟩, rfl, ?_, ?_⟩
  · rw [relink_ofTexts]
    rfl
  · rw [Ne, StringFilter.ofTexts_inj]
    decide
  · rw [relink_ofTexts]
    rfl
  · rw [Ne, StringFilter.ofTexts_inj]
    decide

end Filter

end FacetSearch
