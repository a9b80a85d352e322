import FacetSearch.Proofs.Relink
import FacetSearch.Proofs.Tokens.Bounds

/-!
# Integer and boolean filters written and read

The text of an integer filter has a token for each of its bounds and one for its flag. A bound that
is `Storable` is written as a decimal which the grammar of bounds takes (`boundText_toDigits`), and
only storable bounds are ever read, so a filter of whole numbers is read back from its own text
exactly if its bounds are storable (`Filter.relink_tokens`). Filters that were read from some text,
whatever it is, are of this kind, and boolean filters always are.
-/

namespace FacetSearch

open Outcome

/-- The bound, if there is one, is within what a text may ask for. -/
def Storable (bound : Option Int) : Prop := ∀ n ∈ bound, 0 ≤ n ∧ n ≤ boundLimit

/-! ## Decimals -/

theorem head?_toDigits_ne_zero {n : Nat} (h : 0 < n) : (Nat.toDigits 10 n).head? ≠ some '0' := by
  induction n using Nat.strong_induction_on with
  | _ n ih =>
    rcases Nat.lt_or_ge n 10 with hlt | hge
    · rw [Nat.toDigits_of_lt_base hlt, List.head?_cons, Ne, Option.some.injEq,
        Nat.digitChar_eq_zero]
      omega
    · rw [Nat.toDigits_of_base_le (by decide) hge,
        List.head?_append_of_ne_nil _ Nat.toDigits_ne_nil]
      exact ih (n / 10) (by omega) (by omega)

/-- The usual writing of a number is one that the grammar takes. -/
theorem boundText_toDigits {n : Nat} (h : n ≤ boundLimit) :
    BoundText (Nat.toDigits 10 n) (some (n : Int)) := by
  rcases Nat.eq_zero_or_pos n with rfl | hpos
  · exact .zero
  · have hvalue : Nat.ofDigitChars 10 (Nat.toDigits 10 n) 0 = n := Nat.ofDigitChars_ten_toDigits
    have htext := BoundText.number Nat.toDigits_ne_nil
      (fun c hc => Nat.isDigit_of_mem_toDigits (by decide) (by decide) hc)
      (head?_toDigits_ne_zero hpos) (by rwa [hvalue])
    rwa [hvalue] at htext

theorem length_toDigits_le {n : Nat} (h : n ≤ boundLimit) : (Nat.toDigits 10 n).length ≤ 10 := by
  have hlimit : boundLimit < 10 ^ 10 := by decide
  exact (Nat.length_toDigits_le_iff (by decide) (by decide)).2 (by omega)

/-- Storable bounds are short. -/
theorem isShort_of_storable {bound : Option Int} (h : Storable bound) : ∀ n ∈ bound, IsShort n := by
  intro n hn
  obtain ⟨hlow, hhigh⟩ := h n hn
  exact isShort_of_le_boundLimit hlow hhigh

theorem toList_toString_natCast (n : Nat) : (toString (n : Int)).toList = Nat.toDigits 10 n := by
  rw [Int.toString_eq_repr, Int.repr_eq_if, if_pos (Int.natCast_nonneg n), Int.toNat_natCast,
    Nat.toList_repr]

theorem tilde_not_mem_toDigits (n : Nat) : '~' ∉ Nat.toDigits 10 n := by
  intro h
  have hdigit : '~'.isDigit = true := Nat.isDigit_of_mem_toDigits (by decide) (by decide) h
  exact absurd hdigit (by decide)

theorem tilde_not_mem_toString (n : Int) : '~' ∉ (toString n).toList := by
  rw [Int.toString_eq_repr, Int.repr_eq_if]
  split
  · rw [Nat.toList_repr]
    exact tilde_not_mem_toDigits _
  · rw [String.toList_append, Nat.toList_repr, List.mem_append, not_or]
    exact ⟨by decide, tilde_not_mem_toDigits _⟩

/-! ## The tokens of a filter -/

/-- The token of a bound, if there is one. -/
def boundTokens (sign : Char) (bound : Option Int) : List (List Char) :=
  bound.toList.map fun n => sign :: (toString n).toList

def flagTokens (flag : Bool) : List (List Char) := if flag then ["unknown".toList] else []

theorem tilde_not_mem_boundTokens {sign : Char} (hsign : sign ≠ '~') (bound : Option Int) :
    ∀ token ∈ boundTokens sign bound, '~' ∉ token := by
  intro token htoken
  obtain ⟨n, -, rfl⟩ := List.mem_map.1 htoken
  rw [List.mem_cons, not_or]
  exact ⟨hsign.symm, tilde_not_mem_toString n⟩

theorem tilde_not_mem_flagTokens (flag : Bool) : ∀ token ∈ flagTokens flag, '~' ∉ token := by
  cases flag <;> simp [flagTokens]

namespace IntegerToken

theorem eq_minimum_of_givesBound {token : List Char} {t : IntegerToken} {b : Option Int}
    (hread : read token = .ok t) (h : GivesBound '≥' token b) : t = minimum b := by
  have hlower := ((read_spec hread).1 b).1 h
  cases t <;> cases hlower
  rfl

theorem eq_maximum_of_givesBound {token : List Char} {t : IntegerToken} {b : Option Int}
    (hread : read token = .ok t) (h : GivesBound '≤' token b) : t = maximum b := by
  have hupper := ((read_spec hread).2.1 b).1 h
  cases t <;> cases hupper
  rfl

/-- A storable bound is read as it was written. -/
theorem mapM_read_boundTokens {sign : Char} {say : Option Int → IntegerToken}
    (hsign : sign = '≥' ∨ sign = '≤')
    (hsay : ∀ {token t b}, read token = .ok t → GivesBound sign token b → t = say b)
    {bound : Option Int} (h : Storable bound) :
    (boundTokens sign bound).mapM read = .ok (bound.toList.map fun n => say (some n)) := by
  cases bound with
  | none => rfl
  | some n =>
    obtain ⟨m, rfl⟩ := Int.eq_ofNat_of_zero_le (h n rfl).1
    have hm : m ≤ boundLimit := Int.ofNat_le.1 (h m rfl).2
    have hshort : ¬ OverlongBound (sign :: Nat.toDigits 10 m) := by
      rw [overlongBound_cons_iff hsign]
      exact fun _ => (length_toDigits_le hm).trans (by decide)
    obtain ⟨t, ht⟩ := (integerToken_succeedsIff _).1 hshort
    obtain rfl := hsay ht (givesBound_cons_iff.2 ⟨rfl, boundText_toDigits hm⟩)
    rw [← toList_toString_natCast] at ht
    exact mapM_eq_ok_iff.2 (.cons ht .nil)

theorem mapM_read_flagTokens (flag : Bool) :
    (flagTokens flag).mapM read = .ok (if flag then [unknown] else []) := by
  cases flag <;> rfl

end IntegerToken

namespace IntegerFilter

/-- The filter of whole numbers. -/
abbrev ofInts (low high : Option Int) (flag : Bool) : IntegerFilter :=
  of (.ofInt? low) (.ofInt? high) (.bool flag)

/-- The tokens that are written for a filter. -/
def tokens (low high : Option Int) (flag : Bool) : List (List Char) :=
  boundTokens '≥' low ++ boundTokens '≤' high ++ flagTokens (flag && (low.isSome || high.isSome))

theorem exists_boundToken (sign : Char) {bound : Option Int} (h : ∀ n ∈ bound, IsShort n) :
    ∃ texts, boundToken (String.singleton sign) (Value.ofInt? bound) = .ok texts ∧
      texts.map String.toList = boundTokens sign bound := by
  cases bound with
  | none => exact ⟨[], rfl, rfl⟩
  | some n =>
    have htext : (Value.ofInt? (some n)).text = .ok (toString n) := Value.text_ofInt (h n rfl)
    exact ⟨_, by rw [boundToken, htext]; rfl, by simp [boundTokens]⟩

/-- Bounds that are short are written. -/
theorem exists_encode {low high : Option Int} (hlow : ∀ n ∈ low, IsShort n)
    (hhigh : ∀ n ∈ high, IsShort n) (flag : Bool) :
    ∃ text, (ofInts low high flag).encode = .ok text ∧
      text.toList = List.intercalate ['~'] (tokens low high flag) := by
  have hflag : (if (Value.bool (flag && (low.isSome || high.isSome))).isPresent then ["unknown"]
      else []).map String.toList = flagTokens (flag && (low.isSome || high.isSome)) := by
    cases flag && (low.isSome || high.isSome) <;> rfl
  obtain ⟨lows, hlows, hlow⟩ := exists_boundToken '≥' hlow
  obtain ⟨highs, hhighs, hhigh⟩ := exists_boundToken '≤' hhigh
  have hencode : (ofInts low high flag).encode = .ok (String.intercalate "~" (lows ++ highs ++
      if (ofInts low high flag).includeUnknown.isPresent then ["unknown"] else [])) := by
    change (boundToken (String.singleton '≥') (Value.ofInt? low) >>= fun lows =>
      boundToken (String.singleton '≤') (Value.ofInt? high) >>= fun highs => _) = _
    rw [hlows, ok_bind, hhighs]
    rfl
  refine ⟨_, hencode, ?_⟩
  rw [String.toList_intercalate, includeUnknown_of, List.map_append, List.map_append, hflag, hlow,
    hhigh, tokens]
  rfl

theorem tilde_not_mem_tokens (low high : Option Int) (flag : Bool) :
    ∀ token ∈ tokens low high flag, '~' ∉ token := by
  simp only [tokens, List.forall_mem_append]
  exact ⟨⟨tilde_not_mem_boundTokens (by decide) low, tilde_not_mem_boundTokens (by decide) high⟩,
    tilde_not_mem_flagTokens _⟩

/-- Joined tokens are read one by one; no tokens at all are read as one that says nothing. -/
theorem decode_intercalate {tokens : List (List Char)} (h : ∀ token ∈ tokens, '~' ∉ token) :
    decode (List.intercalate ['~'] tokens) = (tokens.mapM IntegerToken.read).map ofTokens := by
  rw [decode_eq]
  cases tokens with
  | nil => rfl
  | cons token rest => rw [List.splitOn_intercalate '~' h (List.cons_ne_nil token rest)]

theorem decode_tokens {low high : Option Int} (hlow : Storable low) (hhigh : Storable high)
    (flag : Bool) :
    decode (List.intercalate ['~'] (tokens low high flag)) = .ok (ofInts low high flag) := by
  rw [decode_intercalate (tilde_not_mem_tokens low high flag), tokens, List.mapM_append,
    List.mapM_append,
    IntegerToken.mapM_read_boundTokens (.inl rfl) IntegerToken.eq_minimum_of_givesBound hlow,
    IntegerToken.mapM_read_boundTokens (.inr rfl) IntegerToken.eq_maximum_of_givesBound hhigh,
    IntegerToken.mapM_read_flagTokens]
  cases low <;> cases high <;> cases flag <;> rfl

end IntegerFilter

/-! ## Filters read from a text -/

namespace Filter

open IntegerFilter (ofInts)

/-- Only storable bounds are ever read. -/
theorem exists_ofInts_of_decode {text : List Char} {f : IntegerFilter}
    (h : IntegerFilter.decode text = .ok f) :
    ∃ low high flag, f = ofInts low high flag ∧ Storable low ∧ Storable high := by
  obtain ⟨low, high, flag, hsums, rfl⟩ := IntegerFilter.exists_sums_of_decode h
  refine ⟨low, high, flag, rfl, ?_, ?_⟩
  · rintro n rfl
    exact storable_of_lastBound ((hsums.minimum _).2 rfl)
  · rintro n rfl
    exact storable_of_lastBound ((hsums.maximum _).2 rfl)

theorem ofInt?_inj {a b : Option Int} : Value.ofInt? a = Value.ofInt? b ↔ a = b := by
  cases a <;> cases b <;> simp [Value.ofInt?, Value.ofInt]

theorem relink_integer_iff (low high : Option Int) (flag : Bool) :
    relink (integer (ofInts low high flag)) = .ok (integer (ofInts low high flag)) ↔
      Storable low ∧ Storable high := by
  constructor
  · intro h
    obtain ⟨text, -, h⟩ := bind_eq_ok.1 h
    obtain ⟨f, hf, heq⟩ := map_eq_ok.1 h
    cases heq
    obtain ⟨low', high', flag', heq, hlow, hhigh⟩ := exists_ofInts_of_decode hf
    rw [ofInt?_inj.1 (congrArg IntegerFilter.minimum heq),
      ofInt?_inj.1 (congrArg IntegerFilter.maximum heq)]
    exact ⟨hlow, hhigh⟩
  · rintro ⟨hlow, hhigh⟩
    obtain ⟨text, htext, hlist⟩ :=
      IntegerFilter.exists_encode (isShort_of_storable hlow) (isShort_of_storable hhigh) flag
    have hdecode : decode .integer text = .ok (integer (ofInts low high flag)) := by
      rw [decode, hlist, IntegerFilter.decode_tokens hlow hhigh]
      rfl
    exact bind_eq_ok.2 ⟨text, htext, hdecode⟩

theorem relink_boolean (value : Option Bool) (flag : Bool) :
    relink (boolean (.of (.ofBool? value) (.bool flag))) =
      .ok (boolean (.of (.ofBool? value) (.bool flag))) := by
  rcases value with _ | _ | _ <;> cases flag <;> rfl

/-- An integer filter is read back from its own text exactly if its bounds are storable, a boolean
filter always, and so is whatever was read from a text for a field of either type. -/
theorem relink_tokens :
    (∀ low high flag,
      relink (integer (.of (.ofInt? low) (.ofInt? high) (.bool flag))) =
          .ok (integer (.of (.ofInt? low) (.ofInt? high) (.bool flag))) ↔
        Storable low ∧ Storable high) ∧
    (∀ value flag,
      relink (boolean (.of (.ofBool? value) (.bool flag))) =
        .ok (boolean (.of (.ofBool? value) (.bool flag)))) ∧
    ∀ type raw f, type = .integer ∨ type = .boolean → decode type raw = .ok f →
      f.type = type ∧ relink f = .ok f := by
  refine ⟨relink_integer_iff, relink_boolean, ?_⟩
  rintro type raw f (rfl | rfl) h
  · obtain ⟨g, hg, rfl⟩ := map_eq_ok.1 h
    obtain ⟨low, high, flag, rfl, hlow, hhigh⟩ := exists_ofInts_of_decode hg
    exact ⟨rfl, (relink_integer_iff low high flag).2 ⟨hlow, hhigh⟩⟩
  · cases h
    exact ⟨rfl, relink_boolean _ _⟩

/-- A text that means less than it says: the link for the filter it gives is a shorter one. -/
theorem relink_tokens_rambling :
    ∃ f, decode .integer "≥010~≥5~unknown~≤~≤2000000000" = .ok f ∧ f.type = .integer ∧
      f.encode = .ok "≥5~unknown" ∧ relink f = .ok f := by
  obtain ⟨-, -, hread⟩ := relink_tokens
  have hdecode : decode .integer "≥010~≥5~unknown~≤~≤2000000000" =
      .ok (integer (.of (.ofInt 5) .null (.bool true))) := rfl
  obtain ⟨htype, hrelink⟩ := hread _ _ _ (.inl rfl) hdecode
  exact ⟨_, hdecode, htype, rfl, hrelink⟩

end Filter

end FacetSearch
