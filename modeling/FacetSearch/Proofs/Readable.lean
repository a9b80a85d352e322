import FacetSearch.Proofs.Params
import FacetSearch.Proofs.Wording
import FacetSearch.Search.Request

/-!
# Which links can be read

The parameters of a link are read leniently: whatever is no number or token is passed over. Only a
number that is written as it should be can stop the reading, by having more digits than are read at
all. `ReadableParams` says that no such number stands in the parameters, and it decides whether a
request comes out of them (`SearchRequest.succeedsIff_ofParams`). Each reader has its own condition,
and those of the readers it is made of add up to it.
-/

namespace FacetSearch

open Outcome

/-- The bound that a token gives is a decimal of more digits than are read. -/
def OverlongBound (token : List Char) : Prop :=
  ∃ sign digits, token = sign :: digits ∧ (sign = '≥' ∨ sign = '≤') ∧
    isCanonicalDecimal digits = true ∧ digitLimit < digits.length

/-- The digits that the text of a page begins with. -/
def pageDigits (text : List Char) : List Char :=
  (splitSign (text.dropWhile isBlank)).2.takeWhile Char.isDigit

/-- No number in the parameters has more digits than are read. -/
structure ReadableParams (c : Catalog) (params : Record Key Value) : Prop where
  page : ∀ s, param params "page" = .str s → (pageDigits s.toList).length ≤ digitLimit
  bounds : ∀ f ∈ c.filterable, f.type = .integer → ∀ s, param params f.name = .str s →
    ∀ token ∈ s.toList.splitOn '~', ¬ OverlongBound token

/-- What parameters hold: texts, or nothing. -/
def TextParams (params : Record Key Value) : Prop := ∀ e ∈ params, e.2 = .null ∨ ∃ s, e.2 = .str s

theorem param_cases {params : Record Key Value} (h : TextParams params) (name : String) :
    param params name = .null ∨ ∃ s, param params name = .str s := by
  unfold param
  cases hget : Record.get? params (.str name) with
  | none => exact .inl rfl
  | some v =>
    obtain ⟨k, -, hmem⟩ := Record.mem_of_get? hget
    exact h (k, v) hmem

/-! ## Numbers -/

theorem numeral_succeedsIff (digits : List Nat) :
    SucceedsIff (digits.length ≤ digitLimit) tooLong (numeral digits) :=
  ⟨fun h => ⟨_, numeral_of_length_le h⟩, fun h => by rw [numeral, if_pos (Nat.not_le.1 h)]⟩

theorem readDigits_succeedsIff (digits : List Char) :
    SucceedsIff (digits.length ≤ digitLimit) tooLong (readDigits digits) := by
  have h := numeral_succeedsIff (digits.map fun c => c.toNat - '0'.toNat)
  rwa [List.length_map] at h

theorem leadingInteger_succeedsIff (text : List Char) :
    SucceedsIff ((pageDigits text).length ≤ digitLimit) tooLong (leadingInteger text) := by
  obtain ⟨negative, body, hsign⟩ : ∃ negative body,
      splitSign (text.dropWhile isBlank) = (negative, body) := ⟨_, _, rfl⟩
  have hdigits : pageDigits text = body.takeWhile Char.isDigit := by rw [pageDigits, hsign]
  simp only [leadingInteger, hsign, ← hdigits]
  split
  · rename_i hnone
    rw [List.isEmpty_iff.1 hnone]
    exact succeedsIff_ok (Nat.zero_le _) 0
  · exact (readDigits_succeedsIff _).bind_ok.map

/-! ## Filters -/

theorem readBound_succeedsIff (text : List Char) :
    SucceedsIff (isCanonicalDecimal text = true → text.length ≤ digitLimit) tooLong
      (readBound text) := by
  unfold readBound
  split
  · rename_i hempty
    rw [List.isEmpty_iff.1 hempty]
    exact succeedsIff_ok (fun _ => Nat.zero_le _) _
  · split
    · rename_i hdecimal
      exact (readDigits_succeedsIff text).map.of_iff (by simp [hdecimal])
    · rename_i hdecimal
      exact succeedsIff_ok (fun h => absurd h hdecimal) _

theorem overlongBound_cons_iff {sign : Char} {digits : List Char} (h : sign = '≥' ∨ sign = '≤') :
    ¬ OverlongBound (sign :: digits) ↔
      (isCanonicalDecimal digits = true → digits.length ≤ digitLimit) := by
  rw [← Nat.not_lt, not_iff_comm, Classical.not_imp, Classical.not_not]
  constructor
  · rintro ⟨hdecimal, hlong⟩
    exact ⟨sign, digits, rfl, h, hdecimal, hlong⟩
  · rintro ⟨_, _, heq, -, hdecimal, hlong⟩
    cases heq
    exact ⟨hdecimal, hlong⟩

theorem not_overlongBound_of_length {token : List Char} (h : token.length ≤ digitLimit) :
    ¬ OverlongBound token := by
  rintro ⟨sign, digits, rfl, -, -, hlong⟩
  rw [List.length_cons] at h
  omega

theorem integerToken_succeedsIff (token : List Char) :
    SucceedsIff (¬ OverlongBound token) tooLong (IntegerToken.read token) := by
  unfold IntegerToken.read
  split
  · rename_i hunknown
    refine succeedsIff_ok ?_ _
    rintro ⟨sign, digits, rfl, rfl | rfl, -⟩
    · exact absurd hunknown (by simp)
    · exact absurd hunknown (by simp)
  · split
    · rename_i digits _
      exact (readBound_succeedsIff digits).map.of_iff (overlongBound_cons_iff (.inl rfl)).symm
    · rename_i digits _
      exact (readBound_succeedsIff digits).map.of_iff (overlongBound_cons_iff (.inr rfl)).symm
    · rename_i hmin hmax
      refine succeedsIff_ok ?_ _
      rintro ⟨sign, digits, rfl, rfl | rfl, -⟩
      · exact hmin digits rfl
      · exact hmax digits rfl

theorem integerFilter_succeedsIff (text : List Char) :
    SucceedsIff (∀ token ∈ text.splitOn '~', ¬ OverlongBound token) tooLong
      (IntegerFilter.decode text) := by
  exact (succeedsIff_mapM fun token _ => integerToken_succeedsIff token).bind_ok

namespace Filter

theorem decode_succeedsIff {type : FieldType} (raw : String) (h : type.isFilterable = true) :
    SucceedsIff (type = .integer → ∀ token ∈ raw.toList.splitOn '~', ¬ OverlongBound token) tooLong
      (decode type raw) := by
  cases type with
  | integer => exact (integerFilter_succeedsIff raw.toList).map.of_iff (by simp)
  | string => exact succeedsIff_ok FieldType.noConfusion _
  | boolean => exact succeedsIff_ok FieldType.noConfusion _
  | text => cases h
  | url => cases h

section Params

variable {params : Record Key Value} {name : String}

theorem paramText_of_null (h : param params name = .null) : paramText params name = .ok "" := by
  unfold param at h
  unfold paramText
  cases hget : Record.get? params (.str name) with
  | none => rfl
  | some v =>
    rw [hget, Option.getD_some] at h
    rw [h]
    rfl

theorem paramText_of_str {s : String} (h : param params name = .str s) :
    paramText params name = .ok s := by
  unfold param at h
  unfold paramText
  cases hget : Record.get? params (.str name) with
  | none =>
    rw [hget] at h
    cases h
  | some v =>
    rw [hget, Option.getD_some] at h
    rw [h, Option.getD_some, Value.orElse]
    split
    · rename_i hempty
      rw [String.isEmpty_iff.1 hempty]
      rfl
    · rfl

theorem ofParam_succeedsIff (hparams : TextParams params) {f : Field}
    (h : f.type.isFilterable = true) :
    SucceedsIff (f.type = .integer → ∀ s, param params f.name = .str s →
        ∀ token ∈ s.toList.splitOn '~', ¬ OverlongBound token) tooLong (ofParam params f) := by
  obtain hnull | ⟨s, hs⟩ := param_cases hparams f.name
  · have hnone : ∀ token ∈ "".toList.splitOn '~', ¬ OverlongBound token := by
      have hshort : ¬ OverlongBound [] := not_overlongBound_of_length (Nat.zero_le _)
      simpa using hshort
    rw [ofParam, paramText_of_null hnull, ok_bind]
    exact (decode_succeedsIff "" h).of_iff (iff_of_true (fun _ => hnone) (by simp [hnull]))
  · rw [ofParam, paramText_of_str hs, ok_bind]
    exact (decode_succeedsIff s h).of_iff (by simp [hs])

end Params

theorem ofParams_succeedsIff {params : Record Key Value} (hparams : TextParams params)
    {fields : List Field} (h : (fields.map Field.name).Nodup) :
    SucceedsIff (∀ f ∈ fields, f.type = .integer → ∀ s, param params f.name = .str s →
        ∀ token ∈ s.toList.splitOn '~', ¬ OverlongBound token) tooLong
      (ofParams params fields) := by
  rw [ofParams_eq_mapM h]
  refine SucceedsIff.of_iff ?_ (succeedsIff_mapM fun f hf =>
    (ofParam_succeedsIff hparams (List.mem_filter.1 hf).2).map)
  constructor
  · intro hall f hf hinteger
    exact hall f (List.mem_filter.2 ⟨hf, by rw [hinteger]; rfl⟩) hinteger
  · intro hall f hf
    exact hall f (List.mem_filter.1 hf).1

end Filter

namespace SearchRequest

variable {c : Catalog} {seed : SeedSource} {perPage : Value} {params : Record Key Value}

/-- The seed is a text whether it is the request's own or not. -/
theorem seedFor_eq_ok {s : String} (hseed : seed.current = .ok (.str s)) {v : Value}
    (h : v = .null ∨ ∃ t, v = .str t) : ∃ t, seed.seedFor v = .ok (.str t) := by
  unfold SeedSource.seedFor
  split
  · exact ⟨s, hseed⟩
  · exact ⟨s, hseed⟩
  · rename_i hnull _
    obtain ⟨t, rfl⟩ := h.resolve_left hnull
    exact ⟨t, rfl⟩

/-- The text to search for is the parameter's, or the empty one. -/
theorem exists_text_orElse {v : Value} (h : v = .null ∨ ∃ s, v = .str s) :
    ∃ t, (v.orElse (.str "")).text = .ok t := by
  unfold Value.orElse
  split
  · exact ⟨"", rfl⟩
  · obtain rfl | ⟨s, rfl⟩ := h
    · exact ⟨_, rfl⟩
    · exact ⟨s, rfl⟩

theorem pageOfParam_succeedsIff {v : Value} (h : v = .null ∨ ∃ s, v = .str s) :
    SucceedsIff (∀ s, v = .str s → (pageDigits s.toList).length ≤ digitLimit) tooLong
      (pageOfParam v) := by
  obtain rfl | ⟨s, rfl⟩ := h
  · exact succeedsIff_ok nofun 1
  · exact (leadingInteger_succeedsIff s.toList).of_iff (by simp)

theorem succeedsIff_ofParams {s : String} (hseed : seed.current = .ok (.str s))
    (hparams : TextParams params) :
    SucceedsIff (ReadableParams c params) tooLong (ofParams c seed perPage params) := by
  obtain ⟨t, ht⟩ := seedFor_eq_ok hseed (param_cases hparams "seed")
  obtain ⟨q, hq⟩ := exists_text_orElse (param_cases hparams "q")
  have hfilters : SucceedsIff _ tooLong (Filter.ofParams params c.filterable) :=
    Filter.ofParams_succeedsIff hparams c.nodup_filterable
  have hpage := pageOfParam_succeedsIff (param_cases hparams "page")
  rw [ofParams, ht, ok_bind, hq, ok_bind]
  refine (hfilters.bind fun filters _ => hpage.bind_ok).of_iff ?_
  exact ⟨fun h => ⟨h.2, h.1⟩, fun h => ⟨h.bounds, h.page⟩⟩

/-- Texts in the parameters make a request, unless a number in them has more digits than are read;
then this is the failure. -/
theorem ofParams_of_textParams {s : String} (hseed : seed.current = .ok (.str s))
    (hparams : TextParams params) :
    (ReadableParams c params → ∃ r, ofParams c seed perPage params = .ok r) ∧
      (¬ ReadableParams c params →
        ofParams c seed perPage params = .error (.fault .tooManyDigits)) :=
  succeedsIff_ofParams hseed hparams

/-- A catalog of books. -/
def books : Catalog where
  fields := [
    { name := "title", type := .text, freetext := .bool true, boost := .ofInt 3 },
    { name := "pages", type := .integer, filterable := .bool true },
    { name := "inPrint", type := .boolean, filterable := .bool true },
    { name := "author", type := .string, filterable := .bool true, freetext := .bool true }]
  nodup := by decide

/-- A page behind a blank and a filter with tokens that count and others that do not. -/
def garbled : Record Key Value :=
  [("page", .str " +2nd"), ("pages", .str "≥010~≤~unknown~≤200"), ("seed", .null)]

theorem textParams_garbled : TextParams garbled := by
  simp [TextParams, garbled]

theorem ofParams_of_textParams_garbled :
    (SeedSource.fixed (.str "s")).current = .ok (.str "s") ∧ TextParams garbled ∧
      ReadableParams books garbled ∧
      ∃ r, ofParams books (.fixed (.str "s")) (.ofInt 20) garbled = .ok r := by
  have hreadable : ReadableParams books garbled := by
    have hpage : param garbled "page" = .str " +2nd" := rfl
    have hpages : param garbled "pages" = .str "≥010~≤~unknown~≤200" := rfl
    constructor
    · intro s hs
      cases hpage.symm.trans hs
      decide
    · intro f hf hinteger s hs token htoken
      simp only [books, Catalog.filterable, List.mem_filter, List.mem_cons, List.not_mem_nil] at hf
      obtain ⟨rfl | rfl | rfl | rfl | hf, -⟩ := hf
      · cases hinteger
      · cases hpages.symm.trans hs
        refine not_overlongBound_of_length ?_
        revert token
        decide
      · cases hinteger
      · cases hinteger
      · cases hf
  exact ⟨rfl, textParams_garbled, hreadable,
    (ofParams_of_textParams rfl textParams_garbled).1 hreadable⟩

/-! ## Numbers of too many digits -/

/-- One digit more than are read. -/
def overlong : List Char := List.replicate (digitLimit + 1) '1'

theorem length_overlong : overlong.length = digitLimit + 1 := List.length_replicate

theorem isCanonicalDecimal_overlong : isCanonicalDecimal overlong = true := by
  rw [overlong, List.replicate_succ, isCanonicalDecimal]
  · simp
  · decide

theorem pageDigits_overlong : pageDigits overlong = overlong := by
  rw [overlong, List.replicate_succ, pageDigits, List.dropWhile_cons_of_neg (by decide)]
  simp [splitSign]

theorem not_readableParams_of_page {page : List Char}
    (h : digitLimit < (pageDigits page).length) :
    ¬ ReadableParams c [("page", .str (String.ofList page))] := by
  intro hreadable
  have hpage := hreadable.page (String.ofList page) rfl
  rw [String.toList_ofList] at hpage
  omega

theorem not_readableParams_of_bound {token : List Char} (htilde : '~' ∉ token)
    (h : OverlongBound token) :
    ¬ ReadableParams books [("pages", .str (String.ofList token))] := by
  intro hreadable
  have hbounds := hreadable.bounds { name := "pages", type := .integer, filterable := .bool true }
    (by simp [books, Catalog.filterable, Value.isPresent, Value.isAbsent]) rfl
    (String.ofList token) rfl
  rw [String.toList_ofList, List.splitOn_eq_singleton htilde, List.forall_mem_singleton] at hbounds
  exact hbounds h

/-- Such a number fails the reading, as a page as well as in a filter. -/
theorem ofParams_overlong :
    ofParams books (.fixed (.str "s")) (.ofInt 20) [("page", .str (String.ofList overlong))] =
        .error (.fault .tooManyDigits) ∧
      ofParams books (.fixed (.str "s")) (.ofInt 20)
          [("pages", .str (String.ofList ('≥' :: overlong)))] =
        .error (.fault .tooManyDigits) := by
  have hlong : digitLimit < overlong.length := by
    rw [length_overlong]
    exact Nat.lt_succ_self digitLimit
  constructor
  · refine (succeedsIff_ofParams rfl (by simp [TextParams])).2 (not_readableParams_of_page ?_)
    rwa [pageDigits_overlong]
  · refine (succeedsIff_ofParams rfl (by simp [TextParams])).2 ?_
    refine not_readableParams_of_bound (by simp [overlong]) ?_
    exact ⟨'≥', overlong, rfl, .inl rfl, isCanonicalDecimal_overlong, hlong⟩

end SearchRequest

end FacetSearch
