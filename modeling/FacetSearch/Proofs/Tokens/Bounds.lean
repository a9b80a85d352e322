import FacetSearch.Proofs.Readable

/-!
# The bounds in a filter text

Of the tokens of an integer filter three forms count: a lower bound, an upper bound, and the word
`unknown`. `BoundText` is the grammar of a bound behind its sign, and `LastBound` says which bound
the last token of a sign gives. Reading a text comes down to these
(`Filter.decode_integer_lastBounds`): each bound is that of the last token which gives one, and a
token of no such form might as well not be there.
-/

namespace FacetSearch

open Outcome

/-- What stands behind the sign of a bound: nothing, which takes the bound away, or a number not
beyond the limit, written in the digits `0` to `9` without zeros in front. -/
inductive BoundText : List Char → Option Int → Prop
  | absent : BoundText [] none
  | zero : BoundText ['0'] (some 0)
  | number {digits : List Char} (hne : digits ≠ []) (hdigits : ∀ c ∈ digits, c.isDigit = true)
      (hlead : digits.head? ≠ some '0') (hle : Nat.ofDigitChars 10 digits 0 ≤ boundLimit) :
      BoundText digits (some (Nat.ofDigitChars 10 digits 0 : Nat))

/-- The token is a sign with a bound behind it. -/
def GivesBound (sign : Char) (token : List Char) (bound : Option Int) : Prop :=
  ∃ text, token = sign :: text ∧ BoundText text bound

/-- The bound that the last of the tokens with a bound of this sign gives, and none if no token
gives any. -/
def LastBound (sign : Char) (tokens : List (List Char)) (bound : Option Int) : Prop :=
  (∃ before token after, tokens = before ++ token :: after ∧ GivesBound sign token bound ∧
    ∀ later ∈ after, ∀ b, ¬ GivesBound sign later b) ∨
  (bound = none ∧ ∀ token ∈ tokens, ∀ b, ¬ GivesBound sign token b)

/-! ## One bound -/

theorem isCanonicalDecimal_iff {digits : List Char} :
    isCanonicalDecimal digits = true ↔ digits = ['0'] ∨
      (digits ≠ [] ∧ (∀ c ∈ digits, c.isDigit = true) ∧ digits.head? ≠ some '0') := by
  fun_cases isCanonicalDecimal digits with
  | case1 => simp
  | case2 => simp
  | case3 c rest hne =>
    have hzero : c :: rest ≠ ['0'] := fun h => by
      injection h with hc hrest
      exact hne hc hrest
    simp [hzero, and_assoc, and_comm, and_left_comm]

theorem value_of_readDigits {digits : List Char} {n : Nat} (h : readDigits digits = .ok n) :
    n = Nat.ofDigitChars 10 digits 0 := by
  unfold readDigits numeral at h
  split at h
  · cases h
  · cases h
    rw [digitsValue, List.foldl_map, Nat.ofDigitChars_eq_foldl]

theorem boundText_iff {text : List Char} {b : Option Int} :
    BoundText text b ↔ (text = [] ∧ b = none) ∨ (isCanonicalDecimal text = true ∧
      Nat.ofDigitChars 10 text 0 ≤ boundLimit ∧ b = some (Nat.ofDigitChars 10 text 0 : Nat)) := by
  rw [isCanonicalDecimal_iff]
  constructor
  · rintro (_ | _ | ⟨hne, hdigits, hlead, hle⟩)
    · exact .inl ⟨rfl, rfl⟩
    · exact .inr ⟨.inl rfl, by decide, rfl⟩
    · exact .inr ⟨.inr ⟨hne, hdigits, hlead⟩, hle, rfl⟩
  · rintro (⟨rfl, rfl⟩ | ⟨rfl | ⟨hne, hdigits, hlead⟩, hle, rfl⟩)
    · exact .absent
    · exact .zero
    · exact .number hne hdigits hlead hle

/-- A bound that is read is the one that the grammar gives the text. -/
theorem readBound_spec {text : List Char} {found : Option (Option Int)}
    (h : readBound text = .ok found) (b : Option Int) : BoundText text b ↔ found = some b := by
  rw [boundText_iff]
  unfold readBound at h
  split at h
  · rename_i hempty
    rw [List.isEmpty_iff] at hempty
    cases h
    subst hempty
    simp [isCanonicalDecimal, eq_comm]
  · rename_i hempty
    rw [List.isEmpty_iff] at hempty
    split at h
    · rename_i hdecimal
      obtain ⟨n, hn, rfl⟩ := map_eq_ok.1 h
      rw [← value_of_readDigits hn]
      by_cases hle : n ≤ boundLimit
      · simp [hempty, hdecimal, hle, Nat.not_lt.2 hle, eq_comm]
      · simp [hempty, hle, Nat.not_le.1 hle]
    · rename_i hdecimal
      cases h
      simp [hempty, hdecimal]

theorem storable_of_boundText {text : List Char} {n : Int} (h : BoundText text (some n)) :
    0 ≤ n ∧ n ≤ boundLimit := by
  obtain ⟨-, h⟩ | ⟨-, hle, h⟩ := boundText_iff.1 h
  · cases h
  · cases h
    omega

theorem isShort_of_le_boundLimit {n : Int} (hlow : 0 ≤ n) (hhigh : n ≤ boundLimit) : IsShort n := by
  obtain ⟨m, rfl⟩ := Int.eq_ofNat_of_zero_le hlow
  have hlimit : IsShort boundLimit := isShort_iff.2 (by decide)
  exact hlimit.of_le (Int.ofNat_le.1 hhigh)

/-! ## One token -/

theorem givesBound_cons_iff {sign c : Char} {text : List Char} {b : Option Int} :
    GivesBound sign (c :: text) b ↔ c = sign ∧ BoundText text b := by
  constructor
  · rintro ⟨_, heq, htext⟩
    cases heq
    exact ⟨rfl, htext⟩
  · rintro ⟨rfl, htext⟩
    exact ⟨text, rfl, htext⟩

namespace IntegerToken

/-- The lower bound that a token gives, if it gives one. -/
def lower? : IntegerToken → Option (Option Int)
  | minimum bound => some bound
  | _ => none

/-- The upper bound that a token gives, if it gives one. -/
def upper? : IntegerToken → Option (Option Int)
  | maximum bound => some bound
  | _ => none

/-- A token sets what it says something about and leaves the rest. -/
theorem apply_eq (state : Option Int × Option Int × Bool) (t : IntegerToken) :
    apply state t =
      (t.lower?.getD state.1, t.upper?.getD state.2.1, state.2.2 || decide (t = unknown)) := by
  cases t <;> simp [apply, lower?, upper?]

/-- What a token says when it is read, in all its forms. -/
theorem read_spec {token : List Char} {t : IntegerToken} (h : read token = .ok t) :
    (∀ b, GivesBound '≥' token b ↔ t.lower? = some b) ∧
      (∀ b, GivesBound '≤' token b ↔ t.upper? = some b) ∧
      (token = "unknown".toList ↔ t = .unknown) := by
  unfold read at h
  split at h
  · rename_i hunknown
    cases h
    subst hunknown
    simp [givesBound_cons_iff, lower?, upper?]
  · rename_i hunknown
    split at h
    · obtain ⟨found, hfound, rfl⟩ := map_eq_ok.1 h
      simp only [givesBound_cons_iff, readBound_spec hfound]
      cases found <;> simp [lower?, upper?]
    · obtain ⟨found, hfound, rfl⟩ := map_eq_ok.1 h
      simp only [givesBound_cons_iff, readBound_spec hfound]
      cases found <;> simp [lower?, upper?]
    · rename_i hlower hupper
      cases h
      refine ⟨fun b => ?_, fun b => ?_, by simpa using hunknown⟩
      · simp only [lower?, reduceCtorEq, iff_false]
        rintro ⟨text, rfl, -⟩
        exact hlower text rfl
      · simp only [upper?, reduceCtorEq, iff_false]
        rintro ⟨text, rfl, -⟩
        exact hupper text rfl

end IntegerToken

/-! ## The last bound -/

section LastBound

variable {sign : Char} {tokens : List (List Char)} {token : List Char} {b : Option Int}

/-- Of tokens with one more at the end, each is that one or has it at the end of what follows. -/
theorem concat_eq_append_cons {before after : List (List Char)} {t : List Char}
    (h : tokens ++ [token] = before ++ t :: after) :
    (t = token ∧ after = []) ∨
      ∃ init, after = init ++ [token] ∧ tokens = before ++ t :: init := by
  rcases List.eq_nil_or_concat' after with rfl | ⟨init, last, rfl⟩
  · obtain ⟨-, rfl⟩ := List.append_singleton_inj.1 h
    exact .inl ⟨rfl, rfl⟩
  · rw [← List.cons_append, ← List.append_assoc] at h
    obtain ⟨rfl, rfl⟩ := List.append_singleton_inj.1 h
    exact .inr ⟨init, rfl, rfl⟩

theorem lastBound_nil : LastBound sign [] b ↔ b = none := by
  simp [LastBound]

/-- A bound given by the last token counts, whatever stood before. -/
theorem lastBound_concat_of_gives {given : Option Int}
    (h : ∀ b, GivesBound sign token b ↔ b = given) :
    LastBound sign (tokens ++ [token]) b ↔ b = given := by
  constructor
  · rintro (⟨before, t, after, heq, hgives, hlater⟩ | ⟨-, hnone⟩)
    · obtain ⟨rfl, -⟩ | ⟨init, rfl, -⟩ := concat_eq_append_cons heq
      · exact (h b).1 hgives
      · exact absurd ((h given).2 rfl) (hlater token (by simp) given)
    · exact absurd ((h given).2 rfl) (hnone token (by simp) given)
  · rintro rfl
    exact .inl ⟨tokens, token, [], rfl, (h b).2 rfl, by simp⟩

/-- A token without a bound of the sign leaves the last one in place. -/
theorem lastBound_concat_of_not (h : ∀ b, ¬ GivesBound sign token b) :
    LastBound sign (tokens ++ [token]) b ↔ LastBound sign tokens b := by
  constructor
  · rintro (⟨before, t, after, heq, hgives, hlater⟩ | ⟨rfl, hnone⟩)
    · obtain ⟨rfl, -⟩ | ⟨init, rfl, rfl⟩ := concat_eq_append_cons heq
      · exact absurd hgives (h b)
      · exact .inl ⟨before, t, init, rfl, hgives, fun x hx => hlater x (by simp [hx])⟩
    · exact .inr ⟨rfl, fun x hx => hnone x (by simp [hx])⟩
  · rintro (⟨before, t, after, rfl, hgives, hlater⟩ | ⟨rfl, hnone⟩)
    · refine .inl ⟨before, t, after ++ [token], by simp, hgives, ?_⟩
      rw [List.forall_mem_append, List.forall_mem_singleton]
      exact ⟨hlater, h⟩
    · refine .inr ⟨rfl, ?_⟩
      rw [List.forall_mem_append, List.forall_mem_singleton]
      exact ⟨hnone, h⟩

/-- The last bound after one more token. -/
theorem lastBound_concat {last : Option Int} {given? : Option (Option Int)}
    (h : ∀ b, LastBound sign tokens b ↔ b = last)
    (hgiven : ∀ b, GivesBound sign token b ↔ given? = some b) (b : Option Int) :
    LastBound sign (tokens ++ [token]) b ↔ b = given?.getD last := by
  cases given? with
  | none =>
    rw [lastBound_concat_of_not (by simp [hgiven])]
    exact h b
  | some given => exact lastBound_concat_of_gives (by simp [hgiven, eq_comm])

theorem storable_of_lastBound {n : Int} (h : LastBound sign tokens (some n)) :
    0 ≤ n ∧ n ≤ boundLimit := by
  obtain ⟨_, _, _, -, ⟨text, -, htext⟩, -⟩ | ⟨h, -⟩ := h
  · exact storable_of_boundText htext
  · cases h

end LastBound

/-! ## All tokens -/

namespace IntegerToken

variable {tokens rest : List (List Char)} {token : List Char} {ts : List IntegerToken}
  {t : IntegerToken} {state : Option Int × Option Int × Bool}

/-- The minimum, maximum and flag are what the tokens say together. -/
structure Sums (tokens : List (List Char)) (state : Option Int × Option Int × Bool) : Prop where
  minimum : ∀ b, LastBound '≥' tokens b ↔ b = state.1
  maximum : ∀ b, LastBound '≤' tokens b ↔ b = state.2.1
  unknown : state.2.2 = true ↔ "unknown".toList ∈ tokens

theorem sums_nil : Sums [] (none, none, false) :=
  ⟨fun _ => lastBound_nil, fun _ => lastBound_nil, by simp⟩

/-- One more token. -/
theorem Sums.concat (h : Sums tokens state) (hread : read token = .ok t) :
    Sums (tokens ++ [token]) (apply state t) := by
  obtain ⟨hlower, hupper, hword⟩ := read_spec hread
  rw [apply_eq]
  refine ⟨lastBound_concat h.minimum hlower, lastBound_concat h.maximum hupper, ?_⟩
  rw [Bool.or_eq_true, decide_eq_true_iff, h.unknown, ← hword, List.mem_append, List.mem_singleton,
    eq_comm (a := token)]

/-- All further tokens. -/
theorem Sums.foldl (hread : List.Forall₂ (fun token t => read token = .ok t) rest ts)
    (h : Sums tokens state) : Sums (tokens ++ rest) (ts.foldl apply state) := by
  induction hread generalizing tokens state with
  | nil => simpa using h
  | cons hfirst _ ih =>
    rw [List.append_cons, List.foldl_cons]
    exact ih (h.concat hfirst)

/-- The token says something. -/
def Counts (token : List Char) : Prop :=
  token = "unknown".toList ∨ ∃ b, GivesBound '≥' token b ∨ GivesBound '≤' token b

theorem read_of_not_counts (hshort : ¬ OverlongBound token) (h : ¬ Counts token) :
    read token = .ok malformed := by
  obtain ⟨t, hread⟩ := (integerToken_succeedsIff token).1 hshort
  obtain ⟨hlower, hupper, hword⟩ := read_spec hread
  cases t with
  | minimum b => exact absurd (.inr ⟨b, .inl ((hlower b).2 rfl)⟩) h
  | maximum b => exact absurd (.inr ⟨b, .inr ((hupper b).2 rfl)⟩) h
  | unknown => exact absurd (.inl (hword.2 rfl)) h
  | malformed => exact hread

end IntegerToken

namespace IntegerFilter

open IntegerToken (Sums Counts)

/-- The filter that tokens make together. -/
def ofTokens (ts : List IntegerToken) : IntegerFilter :=
  let state := ts.foldl IntegerToken.apply (none, none, false)
  .of (.ofInt? state.1) (.ofInt? state.2.1) (.bool state.2.2)

theorem decode_eq (text : List Char) :
    decode text = ((text.splitOn '~').mapM IntegerToken.read).map ofTokens := by
  rw [decode]
  cases (text.splitOn '~').mapM IntegerToken.read <;> rfl

theorem exists_sums_of_decode {text : List Char} {f : IntegerFilter} (h : decode text = .ok f) :
    ∃ low high flag, Sums (text.splitOn '~') (low, high, flag) ∧
      f = .of (.ofInt? low) (.ofInt? high) (.bool flag) := by
  rw [decode_eq] at h
  obtain ⟨ts, hts, rfl⟩ := map_eq_ok.1 h
  have hsums := IntegerToken.sums_nil.foldl (mapM_eq_ok_iff.1 hts)
  exact ⟨_, _, _, hsums, rfl⟩

theorem ofTokens_malformed (before after : List IntegerToken) :
    ofTokens (before ++ .malformed :: after) = ofTokens (before ++ after) := by
  simp only [ofTokens, List.foldl_append, List.foldl_cons]
  rfl

/-- A token that says nothing may be left out. -/
theorem decode_of_not_counts {text other : List Char} {before after : List (List Char)}
    {token : List Char} (htext : text.splitOn '~' = before ++ token :: after)
    (hother : other.splitOn '~' = before ++ after) (hshort : ¬ OverlongBound token)
    (h : ¬ Counts token) : decode text = decode other := by
  rw [decode_eq, decode_eq, htext, hother, List.mapM_append, List.mapM_append, List.mapM_cons,
    IntegerToken.read_of_not_counts hshort h, ok_bind]
  cases before.mapM IntegerToken.read with
  | error e => rfl
  | ok ts =>
    cases after.mapM IntegerToken.read with
    | error e => rfl
    | ok us => exact congrArg Except.ok (ofTokens_malformed ts us)

theorem isNull_ofInt? (b : Option Int) : (Value.ofInt? b).isNull = b.isNone := by
  cases b <;> rfl

theorem includeUnknown_of (low high : Option Int) (flag : Bool) :
    (of (.ofInt? low) (.ofInt? high) (.bool flag)).includeUnknown =
      .bool (flag && (low.isSome || high.isSome)) := by
  cases low <;> cases high <;> simp [of, isNull_ofInt?]

end IntegerFilter

namespace Filter

/-- Each bound of the filter that is read is the one given last, and the word `unknown` counts
beside a bound only. No other token changes anything, wherever it stands. -/
theorem decode_integer_lastBounds (raw : String)
    (h : ∀ token ∈ raw.toList.splitOn '~', ¬ OverlongBound token) :
    (∃ f low high, decode .integer raw = .ok (integer f) ∧
      (∀ b, LastBound '≥' (raw.toList.splitOn '~') b ↔ b = low) ∧ f.minimum = .ofInt? low ∧
      (∀ b, LastBound '≤' (raw.toList.splitOn '~') b ↔ b = high) ∧ f.maximum = .ofInt? high ∧
      f.includeUnknown = .bool (decide ("unknown".toList ∈ raw.toList.splitOn '~' ∧
        (low.isSome = true ∨ high.isSome = true)))) ∧
    ∀ other before token after, raw.toList.splitOn '~' = before ++ token :: after →
      other.toList.splitOn '~' = before ++ after → ¬ IntegerToken.Counts token →
      decode .integer raw = decode .integer other := by
  constructor
  · obtain ⟨f, hf⟩ := (integerFilter_succeedsIff raw.toList).1 h
    obtain ⟨low, high, flag, hsums, rfl⟩ := IntegerFilter.exists_sums_of_decode hf
    refine ⟨_, low, high, map_eq_ok.2 ⟨_, hf, rfl⟩, hsums.minimum, rfl, hsums.maximum, rfl, ?_⟩
    rw [IntegerFilter.includeUnknown_of, Value.bool.injEq, Bool.eq_iff_iff, Bool.and_eq_true,
      Bool.or_eq_true, decide_eq_true_iff, ← hsums.unknown]
  · intro other before token after hraw hother hnot
    have hshort : ¬ OverlongBound token := h token (by simp [hraw])
    rw [decode, decode, IntegerFilter.decode_of_not_counts hraw hother hshort hnot]

/-- A lower bound that is taken away and given again, and bounds that are none. -/
def secondThoughts : String := "≥10~unknown~≥~≥7~≥007~≤2000000000"

theorem decode_integer_lastBounds_secondThoughts :
    (∀ token ∈ secondThoughts.toList.splitOn '~', ¬ OverlongBound token) ∧
      decode .integer secondThoughts = .ok (integer (.of (.ofInt 7) .null (.bool true))) ∧
      LastBound '≥' (secondThoughts.toList.splitOn '~') (some 7) ∧
      LastBound '≤' (secondThoughts.toList.splitOn '~') none := by
  have hshort : ∀ token ∈ secondThoughts.toList.splitOn '~', ¬ OverlongBound token := by
    intro token htoken
    refine not_overlongBound_of_length ?_
    revert token
    decide
  have hdecode : decode .integer secondThoughts =
      .ok (integer (.of (.ofInt 7) .null (.bool true))) := rfl
  obtain ⟨⟨f, low, high, hf, hlower, hminimum, hupper, hmaximum, -⟩, -⟩ :=
    decode_integer_lastBounds secondThoughts hshort
  rw [hdecode] at hf
  cases hf
  refine ⟨hshort, rfl, (hlower _).2 ?_, (hupper _).2 ?_⟩
  · cases low with
    | none => cases hminimum
    | some n => cases hminimum; rfl
  · cases high with
    | none => rfl
    | some n => cases hmaximum

end Filter

end FacetSearch
