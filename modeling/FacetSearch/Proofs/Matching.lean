import FacetSearch.Proofs.Numbers
import FacetSearch.Query

/-!
# Documents that match a query

A document gives each index field at most one value, and `Query.Matches` says which documents a
query stands for. How texts are looked up is the index's own affair (`Reading`); all other nodes
have one meaning. `matches_allOf`, `matches_anyOf` and `matches_missing` read the combinations that
searches are built of.
-/

namespace FacetSearch

/-- The value of each index field that has one. -/
abbrev Document := String → Option Value

namespace Document

/-- The value in the field that a node names; null is none. -/
def valueOf (d : Document) : Value → Option Value
  | .str name => (d name).filter fun v => !v.isNull
  | _ => none

end Document

/-- What an index decides by itself: which documents hold the words of a text, and how many clauses
a least number asks for that is not a plain count. -/
structure Reading where
  fullText (field text operator fuzziness : Value) (d : Document) : Prop
  acrossFields (text fields : Value) (d : Document) : Prop
  phrasePrefix (field text : Value) (d : Document) : Prop
  share (least : Value) (clauses : Nat) : Nat

/-- How many of the `should` clauses have to match. Where no number is given, one has to if nothing
else must, and otherwise none. -/
def Reading.required (reading : Reading) (least : Value) (must should : List Query) : Nat :=
  match least with
  | .null => if must.isEmpty then 1 else 0
  | .num (.int (.ofNat n)) => n
  | least => reading.share least should.length

namespace Value

/-- The value is a number not below the bound, if there is a bound. -/
def AtLeast (bound v : Value) : Prop :=
  bound.isNull = false → ∃ m n, bound.number? = some m ∧ v.number? = some n ∧ m.le n = true

/-- The value is a number not above the bound, if there is a bound. -/
def AtMost (bound v : Value) : Prop :=
  bound.isNull = false → ∃ m n, bound.number? = some m ∧ v.number? = some n ∧ n.le m = true

theorem isNull_iff {v : Value} : v.isNull = true ↔ v = null := by
  cases v <;> simp [isNull]

@[simp]
theorem atLeast_null (v : Value) : null.AtLeast v := fun h => absurd h (by simp [isNull])

@[simp]
theorem atMost_null (v : Value) : null.AtMost v := fun h => absurd h (by simp [isNull])

theorem atLeast_ofInt {m n : Int} : (ofInt m).AtLeast (ofInt n) ↔ m ≤ n := by
  constructor
  · intro h
    obtain ⟨_, _, hm, hn, hle⟩ := h rfl
    cases hm
    cases hn
    exact Number.le_int.1 hle
  · exact fun h _ => ⟨_, _, rfl, rfl, Number.le_int.2 h⟩

theorem atMost_ofInt {m n : Int} : (ofInt m).AtMost (ofInt n) ↔ n ≤ m := by
  constructor
  · intro h
    obtain ⟨_, _, hm, hn, hle⟩ := h rfl
    cases hm
    cases hn
    exact Number.le_int.1 hle
  · exact fun h _ => ⟨_, _, rfl, rfl, Number.le_int.2 h⟩

end Value

namespace Query

mutual

/-- The document is among those that the query stands for. -/
def Matches (reading : Reading) (d : Document) : Query → Prop
  | term t value => ∃ v, d.valueOf t.field = some v ∧ v.eqv value = true
  | fullText t text operator fuzziness => reading.fullText t.field text operator fuzziness d
  | acrossFields _ text fields _ _ _ => reading.acrossFields text fields d
  | phrasePrefix t text => reading.phrasePrefix t.field text d
  | bool _ must should mustNot least =>
    MatchesAll reading d must ∧ MatchesNone reading d mustNot ∧
      (should = [] ∨ MatchesSome reading d (reading.required least must should) should)
  | range t gte lte => ∃ v, d.valueOf t.field = some v ∧ gte.AtLeast v ∧ lte.AtMost v
  | hasValue t => d.valueOf t.field ≠ none
  | matchAll _ => True
  | random _ _ query _ => Matches reading d query

def MatchesAll (reading : Reading) (d : Document) : List Query → Prop
  | [] => True
  | q :: qs => Matches reading d q ∧ MatchesAll reading d qs

def MatchesNone (reading : Reading) (d : Document) : List Query → Prop
  | [] => True
  | q :: qs => ¬ Matches reading d q ∧ MatchesNone reading d qs

/-- At least so many of the queries match. -/
def MatchesSome (reading : Reading) (d : Document) (least : Nat) : List Query → Prop
  | [] => least = 0
  | q :: qs =>
    (Matches reading d q ∧ MatchesSome reading d (least - 1) qs) ∨ MatchesSome reading d least qs

end

attribute [local simp] Matches MatchesAll MatchesNone MatchesSome

variable {reading : Reading} {d : Document}

theorem matchesAll_iff {qs : List Query} :
    MatchesAll reading d qs ↔ ∀ q ∈ qs, q.Matches reading d := by
  induction qs with
  | nil => simp
  | cons q qs ih => rw [MatchesAll, ih, List.forall_mem_cons]

theorem matchesNone_iff {qs : List Query} :
    MatchesNone reading d qs ↔ ∀ q ∈ qs, ¬ q.Matches reading d := by
  induction qs with
  | nil => simp
  | cons q qs ih => rw [MatchesNone, ih, List.forall_mem_cons]

/-- So many of the queries can be picked out that all match. -/
theorem matchesSome_iff {least : Nat} {qs : List Query} :
    MatchesSome reading d least qs ↔
      ∃ ms : List Query, ms.Sublist qs ∧ ms.length = least ∧ ∀ q ∈ ms, q.Matches reading d := by
  induction qs generalizing least with
  | nil =>
    rw [MatchesSome]
    constructor
    · rintro rfl
      exact ⟨[], List.Sublist.refl [], rfl, by simp⟩
    · rintro ⟨ms, hsub, rfl, -⟩
      rw [List.sublist_nil.1 hsub]
      rfl
  | cons q qs ih =>
    rw [MatchesSome, ih, ih]
    constructor
    · rintro (⟨hq, ms, hsub, hlength, hms⟩ | ⟨ms, hsub, hlength, hms⟩)
      · cases least with
        | zero => exact ⟨ms, hsub.cons q, hlength, hms⟩
        | succ n =>
          exact ⟨q :: ms, hsub.cons_cons q, by rw [List.length_cons, hlength]; rfl,
            List.forall_mem_cons.2 ⟨hq, hms⟩⟩
      · exact ⟨ms, hsub.cons q, hlength, hms⟩
    · rintro ⟨ms, hsub, rfl, hms⟩
      cases hsub with
      | cons _ hsub => exact .inr ⟨ms, hsub, rfl, hms⟩
      | cons_cons _ hsub =>
        rw [List.forall_mem_cons] at hms
        exact .inl ⟨hms.1, _, hsub, rfl, hms.2⟩

theorem matches_allOf {qs : List Query} :
    (allOf qs).Matches reading d ↔ ∀ q ∈ qs, q.Matches reading d := by
  simp only [allOf, Matches, matchesAll_iff, MatchesNone, true_or, and_true]

theorem matches_anyOf {qs : List Query} (h : qs ≠ []) :
    (anyOf qs).Matches reading d ↔ ∃ q ∈ qs, q.Matches reading d := by
  have hleast : reading.required (.ofInt 1) [] qs = 1 := rfl
  simp only [anyOf, Matches, MatchesAll, MatchesNone, true_and, hleast, h, false_or]
  rw [matchesSome_iff]
  constructor
  · rintro ⟨ms, hsub, hlength, hms⟩
    obtain ⟨q, rfl⟩ := List.length_eq_one_iff.1 hlength
    exact ⟨q, hsub.subset (by simp), hms q (by simp)⟩
  · rintro ⟨q, hq, hmatch⟩
    exact ⟨[q], List.singleton_sublist.2 hq, rfl, by simpa using hmatch⟩

theorem matches_missing {field : Value} :
    (missing field).Matches reading d ↔ d.valueOf field = none := by
  simp only [missing, Matches, MatchesAll, true_and, true_or, and_true]
  rw [matchesNone_iff, List.forall_mem_singleton, Matches, Classical.not_not]

theorem matches_term {name : String} {value : Value} :
    (term (.named name) value).Matches reading d ↔
      ∃ v, d.valueOf (.str name) = some v ∧ v.eqv value = true := by
  rw [Matches, Target.named]

theorem matches_range {name : String} {gte lte : Value} :
    (range (.named name) gte lte).Matches reading d ↔
      ∃ v, d.valueOf (.str name) = some v ∧ gte.AtLeast v ∧ lte.AtMost v := by
  rw [Matches, Target.named]

theorem matches_shuffled {target : Target} {query : Query} {seed : Value} :
    (shuffled target query seed).Matches reading d ↔ query.Matches reading d := by
  rw [shuffled, Matches]

end Query

end FacetSearch
