import FacetSearch.Proofs.Matching
import FacetSearch.Proofs.Objects
import FacetSearch.Proofs.Outcome
import FacetSearch.Query.Render

/-!
# The objects of query nodes

A node of a query tree is written under the name of its kind (`Query.tag`), its attributes in slots
some of which stay empty: a neutral boost, an absent or null value, a list without clauses. Two slots
agree exactly if the attributes do as far as they are written (`agree_present?`, `Boost.agree_written?`),
and the object of each kind of node is given in slots (`render_fullText` and the others).
-/

namespace FacetSearch

open Outcome Value

/-- A boost as far as it is written: a neutral one is not. -/
def Boost.shown (boost : Value) : Value := if isNeutral boost then neutral else boost

/-- A value as far as it is written: an absent one is not. -/
def Value.shown (v : Value) : Value := if v.isAbsent then null else v

/-! ## Slots -/

/-- The boost, unless it is neutral. -/
def Boost.written? (boost : Value) : Option Value := if isNeutral boost then none else some boost

namespace Value

variable {v w : Value}

/-- The value, unless it is absent. -/
def present? (v : Value) : Option Value := if v.isAbsent then none else some v

/-- The value, unless it is null. -/
def given? (v : Value) : Option Value := if v.isNull then none else some v

/-- The list, unless it is empty. -/
def any? (items : List Value) : Option Value := if items.isEmpty then none else some (arr items)

theorem memberIfPresent_eq (key : String) (v : Value) :
    v.memberIfPresent key = membersOf [(key, v.present?)] := by
  unfold memberIfPresent present?
  cases v.isAbsent <;> rfl

theorem memberIfGiven_eq (key : String) (v : Value) :
    v.memberIfGiven key = membersOf [(key, v.given?)] := by
  unfold memberIfGiven given?
  cases v.isNull <;> rfl

theorem memberIfAny_eq (key : String) (items : List Value) :
    memberIfAny key items = membersOf [(key, any? items)] := by
  unfold memberIfAny any?
  cases items.isEmpty <;> rfl

theorem isAbsent_of_isNull (h : v.isNull = true) : v.isAbsent = true := by
  cases v with
  | null => rfl
  | _ => cases h

theorem null_eqv (v : Value) : null.eqv v = v.isNull := by rw [eqv]

theorem eqv_null (v : Value) : v.eqv null = v.isNull := by
  cases v with
  | null => rw [null_eqv]
  | _ => simp [eqv, number?, isNull]

/-- An absent value and one that is not differ once the absent one is not written. -/
theorem agree_present? (v w : Value) : agree v.present? w.present? = v.shown.eqv w.shown := by
  have hnull : ∀ u : Value, u.isAbsent = false → u.isNull = false := fun u hu =>
    Bool.eq_false_iff.2 fun h => by rw [isAbsent_of_isNull h] at hu; cases hu
  unfold present? shown
  cases hv : v.isAbsent <;> cases hw : w.isAbsent
  · rfl
  · simp [agree, eqv_null, hnull v hv]
  · simp [agree, null_eqv, hnull w hw]
  · simp [agree, null_eqv, isNull]

theorem agree_given? (v w : Value) : agree v.given? w.given? = v.eqv w := by
  unfold given?
  cases hv : v.isNull with
  | true =>
    rw [isNull_iff.1 hv, null_eqv]
    cases w.isNull <;> rfl
  | false =>
    cases hw : w.isNull with
    | true => rw [isNull_iff.1 hw, eqv_null, hv]; rfl
    | false => rfl

theorem agree_any? (xs ys : List Value) : agree (any? xs) (any? ys) = eqvItems xs ys := by
  cases xs <;> cases ys <;> simp [any?, agree, eqv, eqvItems]

end Value

namespace Boost

theorem member_eq (boost : Value) : member boost = membersOf [("boost", written? boost)] := by
  unfold member written?
  cases isNeutral boost <;> rfl

theorem eqv_one (n : Number) : n.eqv (.float 1.0) = n.eqv (.int 1) := by
  have hone : (Number.float 1.0).magnitude = (Number.int 1).magnitude := by decide +kernel
  rw [Number.eqv, Number.eqv, hone]

theorem eqv_neutral (boost : Value) : boost.eqv neutral = isNeutral boost := by
  cases boost <;> simp [neutral, isNeutral, Value.ofInt, eqv, Value.number?, isNull, eqv_one]

theorem neutral_eqv (boost : Value) : neutral.eqv boost = isNeutral boost := by
  cases boost <;> simp [neutral, isNeutral, Value.ofInt, eqv, Value.number?, isNull,
    Number.eqv_comm (.float 1.0), eqv_one]

theorem agree_written? (b b' : Value) :
    agree (written? b) (written? b') = (shown b).eqv (shown b') := by
  unfold written? shown
  cases hb : isNeutral b <;> cases hb' : isNeutral b'
  · rfl
  · simp [agree, eqv_neutral, hb]
  · simp [agree, neutral_eqv, hb']
  · simp [agree, eqv_neutral, isNeutral_neutral]

end Boost

/-! ## Objects of nodes -/

namespace Query

/-- The name that a node is written under. -/
def tag : Query → String
  | term .. => "term"
  | fullText .. => "match"
  | acrossFields .. => "multi_match"
  | phrasePrefix .. => "match_phrase_prefix"
  | bool .. => "bool"
  | range .. => "range"
  | hasValue _ => "exists"
  | matchAll _ => "match_all"
  | random .. => "function_score"

section Render

variable {t : Target} {name : String}

theorem render_term (h : t.field = .str name) (value : Value) :
    render (term t value) = .ok (object [("term", object [(name,
      if Boost.isNeutral t.boost then value
      else ofSlots [("value", some value), ("boost", some t.boost)])])]) := by
  rw [render, h]
  rfl

theorem render_fullText (h : t.field = .str name) (text operator fuzziness : Value) :
    render (fullText t text operator fuzziness) = .ok (object [("match", object [(name,
      ofSlots [("query", some text), ("operator", operator.present?),
        ("fuzziness", fuzziness.present?), ("boost", Boost.written? t.boost)])])]) := by
  have hquery : ("query", text) :: membersOf [("operator", operator.present?)] =
      membersOf [("query", some text), ("operator", operator.present?)] := rfl
  rw [render, h, memberIfPresent_eq, memberIfPresent_eq, Boost.member_eq, hquery,
    ← membersOf_append, ← membersOf_append]
  rfl

theorem render_acrossFields (text scoring fuzziness length : Value) (names : List Value) :
    render (acrossFields t text (.arr names) scoring fuzziness length) =
      .ok (object [("multi_match", ofSlots [("query", some text), ("fields", some (.arr names)),
        ("type", some scoring), ("fuzziness", fuzziness.present?),
        ("prefix_length", if fuzziness.isAbsent then none else some length),
        ("boost", Boost.written? t.boost)])]) := by
  have hfuzziness : (if fuzziness.isAbsent then []
      else [("fuzziness", fuzziness), ("prefix_length", length)]) =
        membersOf [("fuzziness", fuzziness.present?),
          ("prefix_length", if fuzziness.isAbsent then none else some length)] := by
    unfold present?
    cases fuzziness.isAbsent <;> rfl
  rw [render, elements, ok_bind, hfuzziness, Boost.member_eq, List.append_assoc,
    ← membersOf_append]
  rfl

theorem render_phrasePrefix (h : t.field = .str name) (text : Value) :
    render (phrasePrefix t text) =
      .ok (object [("match_phrase_prefix", object [(name, text)])]) := by
  rw [render, h]
  rfl

theorem render_bool {must should mustNot : List Query} {ms ss ns : List Value}
    (hmust : renderAll must = .ok ms) (hshould : renderAll should = .ok ss)
    (hmustNot : renderAll mustNot = .ok ns) (least : Value) :
    render (bool t must should mustNot least) =
      .ok (object [("bool", ofSlots [("must", any? ms), ("should", any? ss),
        ("minimum_should_match", given? (if should.isEmpty then .null else least)),
        ("must_not", any? ns), ("boost", Boost.written? t.boost)])]) := by
  have hleast : (if should.isEmpty then [] else least.memberIfGiven "minimum_should_match") =
      (if should.isEmpty then .null else least).memberIfGiven "minimum_should_match" := by
    cases should.isEmpty <;> rfl
  rw [render, hmust, hshould, hmustNot, hleast, memberIfGiven_eq, Boost.member_eq]
  simp only [ok_bind, memberIfAny_eq, ← membersOf_append]
  rfl

theorem render_range (h : t.field = .str name) (gte lte : Value) :
    render (range t gte lte) = .ok (object [("range", object [(name,
      ofSlots [("gte", gte.given?), ("lte", lte.given?)])])]) := by
  rw [render, h, memberIfGiven_eq, memberIfGiven_eq, ← membersOf_append]
  rfl

end Render

end Query

end FacetSearch
