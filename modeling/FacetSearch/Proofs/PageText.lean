import Mathlib.Data.List.Induction
import Mathlib.Data.List.TakeWhile
import FacetSearch.Proofs.CallDiscipline
import FacetSearch.Proofs.FirstFailure
import FacetSearch.Proofs.Tokens.Bounds

/-!
# From the text of a page to the results asked for

The page parameter of a link is a text. A text names a page (`NamesPage`) by digits at its
beginning, behind white space and a plus sign at most; whatever stands behind the digits does not
matter. A search asks the index once, for the results on the page that the text names, if the page
lies inside the window, and in all other cases it is refused before the index is asked
(`search_pageText`).
-/

namespace FacetSearch

open Call Outcome SearchPlan

/-- Behind the white space that the text begins with stand the digits of the page, with a plus sign
in front or without, and no digit follows them. -/
def NamesPage (text : List Char) (page : Nat) : Prop :=
  ∃ sign digits rest, text.dropWhile isBlank = sign ++ (digits ++ rest) ∧
    (sign = [] ∨ sign = ['+']) ∧
    digits ≠ [] ∧ (∀ c ∈ digits, c.isDigit = true) ∧ (∀ c ∈ rest.head?, c.isDigit = false) ∧
    Nat.ofDigitChars 10 digits 0 = page

/-! ## The number in the text -/

section Number

variable {text digits rest : List Char} {page : Nat}

theorem takeWhile_isDigit_append (hdigits : ∀ c ∈ digits, c.isDigit = true)
    (hrest : ∀ c ∈ rest.head?, c.isDigit = false) :
    (digits ++ rest).takeWhile Char.isDigit = digits := by
  have hnone : rest.takeWhile Char.isDigit = [] := by
    cases rest with
    | nil => rfl
    | cons c rest => rw [List.takeWhile_cons_of_neg (by simp [hrest c rfl])]
  rw [List.takeWhile_append_of_pos hdigits, hnone, List.append_nil]

/-- Behind the digits that a text begins with there is none. -/
theorem exists_digits (text : List Char) :
    ∃ rest, text = text.takeWhile Char.isDigit ++ rest ∧ ∀ c ∈ rest.head?, c.isDigit = false := by
  refine ⟨text.dropWhile Char.isDigit, List.takeWhile_append_dropWhile.symm, fun c hc => ?_⟩
  have hhead := List.head?_dropWhile_not Char.isDigit text
  rw [Option.mem_def.1 hc] at hhead
  exact hhead

theorem splitSign_of_isDigit (hne : digits ≠ []) (hdigits : ∀ c ∈ digits, c.isDigit = true) :
    splitSign (digits ++ rest) = (false, digits ++ rest) := by
  cases digits with
  | nil => exact absurd rfl hne
  | cons c digits =>
    have hc := hdigits c List.mem_cons_self
    rw [List.cons_append]
    unfold splitSign
    split
    · rename_i heq
      cases heq
      cases hc
    · rename_i heq
      cases heq
      cases hc
    · rfl

theorem readDigits_of_length_le (h : digits.length ≤ digitLimit) :
    readDigits digits = .ok (Nat.ofDigitChars 10 digits 0) := by
  obtain ⟨n, hn⟩ := (readDigits_succeedsIff digits).1 h
  rw [hn, value_of_readDigits hn]

/-- A number of so many digits is below that power of ten. -/
theorem ofDigitChars_lt (h : ∀ c ∈ digits, c.isDigit = true) :
    Nat.ofDigitChars 10 digits 0 < Nat.pow 10 digits.length := by
  induction digits using List.reverseRecOn with
  | nil => decide
  | append_singleton digits c ih =>
    rw [List.forall_mem_append, List.forall_mem_singleton] at h
    have hfront := ih h.1
    have hdigit : '0'.toNat ≤ c.toNat ∧ c.toNat ≤ '9'.toNat := by
      simpa [Char.isDigit, UInt32.le_iff_toNat_le] using h.2
    have hnine : '9'.toNat = '0'.toNat + 9 := rfl
    have hpower : Nat.pow 10 (digits.length + 1) = Nat.pow 10 digits.length * 10 := rfl
    rw [Nat.ofDigitChars_append, Nat.ofDigitChars_cons, Nat.ofDigitChars_nil, List.length_append,
      List.length_singleton, hpower]
    omega

theorem ofDigitChars_lt_of_length_le (h : ∀ c ∈ digits, c.isDigit = true) {k : Nat}
    (hk : digits.length ≤ k) : Nat.ofDigitChars 10 digits 0 < Nat.pow 10 k :=
  Nat.lt_of_lt_of_le (ofDigitChars_lt h) (Nat.pow_le_pow_right (by decide) hk)

theorem exists_sign_of_splitSign {after body : List Char} (h : splitSign after = (false, body)) :
    ∃ sign, after = sign ++ body ∧ (sign = [] ∨ sign = ['+']) := by
  unfold splitSign at h
  split at h
  · cases h
  · cases h
    exact ⟨['+'], rfl, .inr rfl⟩
  · cases h
    exact ⟨[], rfl, .inl rfl⟩

/-- The digits read decide about the number, and their sign. -/
theorem leadingInteger_eq (h : (pageDigits text).length ≤ digitLimit) :
    leadingInteger text =
      .ok (if (splitSign (text.dropWhile isBlank)).1
        then -(Nat.ofDigitChars 10 (pageDigits text) 0 : Int)
        else Nat.ofDigitChars 10 (pageDigits text) 0) := by
  have hread := readDigits_of_length_le h
  unfold pageDigits at hread ⊢
  rw [leadingInteger]
  simp only [List.isEmpty_iff]
  split
  · rename_i hnone
    rw [hnone]
    simp
  · rw [hread]
    rfl

/-- No page is read that could not be written. -/
theorem isShort_of_leadingInteger {n : Int} (hlength : (pageDigits text).length ≤ digitLimit)
    (h : leadingInteger text = .ok n) : IsShort n := by
  have hall : ∀ c ∈ pageDigits text, c.isDigit = true := fun c hc => List.mem_takeWhile_imp hc
  have hread : IsShort (Nat.ofDigitChars 10 (pageDigits text) 0 : Nat) :=
    isShort_natCast.2 (ofDigitChars_lt_of_length_le hall hlength)
  rw [leadingInteger_eq hlength] at h
  rw [← Except.ok.inj h]
  split
  · exact isShort_neg.2 hread
  · exact hread

/-- A text names a page, the first or a later one, exactly if this is the number read. -/
theorem leadingInteger_spec (hlength : (pageDigits text).length ≤ digitLimit) :
    ∃ n, leadingInteger text = .ok n ∧
      ∀ page : Nat, 1 ≤ page → (NamesPage text page ↔ n = page) := by
  refine ⟨_, leadingInteger_eq hlength, fun page hpage => ?_⟩
  obtain ⟨negative, body, hsign⟩ : ∃ negative body,
      splitSign (text.dropWhile isBlank) = (negative, body) := ⟨_, _, rfl⟩
  have hdigits : pageDigits text = body.takeWhile Char.isDigit := by rw [pageDigits, hsign]
  rw [hsign, hdigits]
  constructor
  · rintro ⟨sign, digits, rest, htext, hplus, hne, hall, hrest, rfl⟩
    have hsplit : splitSign (text.dropWhile isBlank) = (false, digits ++ rest) := by
      rcases hplus with rfl | rfl
      · rw [htext, List.nil_append, splitSign_of_isDigit hne hall]
      · rw [htext]
        rfl
    rw [hsplit] at hsign
    cases hsign
    rw [takeWhile_isDigit_append hall hrest, if_neg Bool.false_ne_true]
  · intro hn
    cases negative with
    | true =>
      rw [if_pos rfl] at hn
      omega
    | false =>
      rw [if_neg Bool.false_ne_true, Int.ofNat_inj] at hn
      obtain ⟨sign, htext, hplus⟩ := exists_sign_of_splitSign hsign
      obtain ⟨rest, hbody, hrest⟩ := exists_digits body
      refine ⟨sign, _, rest, htext.trans (congrArg (sign ++ ·) hbody), hplus, fun hnone => ?_,
        fun c hc => List.mem_takeWhile_imp hc, hrest, hn⟩
      rw [hnone] at hn
      have hzero : Nat.ofDigitChars 10 [] 0 = 0 := rfl
      omega

/-- A text that reads as a number names a page inside the window just if the number is one. -/
theorem exists_namesPage_iff {n : Int} (perPage window : Int)
    (hnamed : ∀ page : Nat, 1 ≤ page → (NamesPage text page ↔ n = page)) :
    (∃ page : Nat, NamesPage text page ∧ 1 ≤ page ∧ page * perPage ≤ window) ↔
      ¬ (n < 1 ∨ window < n * perPage) := by
  constructor
  · rintro ⟨page, hpage, hlow, hhigh⟩
    rw [(hnamed page hlow).1 hpage]
    omega
  · intro hnot
    obtain ⟨page, rfl⟩ : ∃ page : Nat, n = page := Int.eq_ofNat_of_zero_le (by omega)
    have hlow : 1 ≤ page := by omega
    exact ⟨page, (hnamed page hlow).2 rfl, hlow, by omega⟩

end Number

/-! ## The request of a link with another page -/

/-- The parameters with another text for the page. -/
def withPage (params : Record Key Value) (text : String) : Record Key Value :=
  Record.set params "page" (.str text)

section Params

variable {params : Record Key Value} {text name : String}

-- The laws of records are about lawful keys; those of parameters compare numbers and truth values.
theorem get?_withPage : Record.get? (withPage params text) (.str "page") = some (.str text) := by
  unfold withPage
  induction params with
  | nil => rfl
  | cons e params ih =>
    rw [Record.set]
    cases hkey : e.1 == Key.str "page" with
    | true => simp [Record.get?, hkey]
    | false => simpa [Record.get?, hkey] using ih

theorem get?_withPage_of_ne (hname : name ≠ "page") :
    Record.get? (withPage params text) (.str name) = Record.get? params (.str name) := by
  have hother : (Key.str "page" == Key.str name) = false := by
    rw [Bool.eq_false_iff]
    exact fun h => hname (Key.str.inj (Key.beq_str_iff.1 h)).symm
  unfold withPage
  induction params with
  | nil => simp [Record.set, Record.get?, hother]
  | cons e params ih =>
    rw [Record.set]
    cases hkey : e.1 == Key.str "page" with
    | true =>
      have hentry : (e.1 == Key.str name) = false := by rwa [Key.beq_str_iff.1 hkey]
      simp [Record.get?, hentry]
    | false => simp [Record.get?, ih]

theorem param_withPage : param (withPage params text) "page" = .str text := by
  rw [param, get?_withPage]
  rfl

theorem param_withPage_of_ne (hname : name ≠ "page") :
    param (withPage params text) name = param params name := by
  rw [param, param, get?_withPage_of_ne hname]

/-- The filters do not depend on the page, unless a field has its name. -/
theorem Filter.ofParams_withPage {fields : List Field} (hnodup : (fields.map Field.name).Nodup)
    (hnames : ∀ f ∈ fields, f.name ≠ "page") :
    Filter.ofParams (withPage params text) fields = Filter.ofParams params fields := by
  rw [Filter.ofParams_eq_mapM hnodup, Filter.ofParams_eq_mapM hnodup]
  refine mapM_congr fun f hf => ?_
  rw [entryOf, entryOf, ofParam, ofParam, paramText, paramText,
    get?_withPage_of_ne (hnames f (List.mem_filter.1 hf).1)]

/-- Of a link that can be read, another page makes the same request for that page. -/
theorem SearchRequest.ofParams_withPage {c : Catalog} {seed : SeedSource} {perPage : Value}
    {r : SearchRequest} {n : Int} (hnames : ∀ f ∈ c.filterable, f.name ≠ "page")
    (hothers : ofParams c seed perPage params = .ok r)
    (hpage : leadingInteger text.toList = .ok n) :
    ofParams c seed perPage (withPage params text) = .ok { r with page := .ofInt n } := by
  obtain ⟨own, hown, h⟩ := bind_eq_ok.1 hothers
  obtain ⟨q, hq, h⟩ := bind_eq_ok.1 h
  obtain ⟨filters, hfilters, h⟩ := bind_eq_ok.1 h
  obtain ⟨page, -, h⟩ := bind_eq_ok.1 h
  obtain ⟨s, hs, h⟩ := bind_eq_ok.1 h
  cases h
  have hread : pageOfParam (.str text) = .ok n := hpage
  rw [ofParams, param_withPage_of_ne (by decide), hown, ok_bind, param_withPage_of_ne (by decide),
    hq, ok_bind, Filter.ofParams_withPage c.nodup_filterable hnames, hfilters, ok_bind,
    param_withPage, hread, ok_bind, hs, param_withPage_of_ne (by decide)]
  rfl

end Params

/-! ## The search for a page -/

/-- Filters that are read hold no number that is too long to be written. -/
theorem Filter.worded_of_decode {type : FieldType} {raw : String} {f : Filter}
    (h : decode type raw = .ok f) : f.Worded := by
  cases type with
  | integer =>
    obtain ⟨f, hf, rfl⟩ := map_eq_ok.1 h
    obtain ⟨low, high, flag, hsums, rfl⟩ := IntegerFilter.exists_sums_of_decode hf
    have hbound {sign : Char} {bound : Option Int}
        (hlast : LastBound sign (raw.toList.splitOn '~') bound) : (Value.ofInt? bound).Worded := by
      cases bound with
      | none => exact Value.worded_null
      | some n =>
        obtain ⟨hlow, hhigh⟩ := storable_of_lastBound hlast
        exact Value.worded_ofInt.2 (isShort_of_le_boundLimit hlow hhigh)
    exact ⟨hbound ((hsums.minimum _).2 rfl), hbound ((hsums.maximum _).2 rfl)⟩
  | string =>
    cases h
    intro v hv
    obtain ⟨s, -, rfl⟩ := List.mem_map.1 hv
    exact Value.worded_str _
  | boolean =>
    cases h
    change (Value.ofBool? _).Worded
    cases (((raw.toList.splitOn '~').foldl BooleanFilter.apply (none, false)).1 : Option Bool) with
    | none => exact Value.worded_null
    | some b => exact Value.worded_bool b
  | text => cases h
  | url => cases h

theorem Filter.worded_of_ofParams {c : Catalog} {params : Record Key Value}
    {filters : Record String Filter} (h : ofParams params c.filterable = .ok filters) :
    ∀ entry ∈ filters, entry.2.Worded := by
  intro entry hentry
  rw [ofParams_eq_mapM c.nodup_filterable] at h
  obtain ⟨f, -, hread⟩ := exists_of_mem_mapM h hentry
  obtain ⟨text, -, hdecode⟩ := bind_eq_ok.1 (entryOf_eq_ok_iff.1 hread).2
  exact worded_of_decode hdecode

/-- Filters that are read are for their fields, so only a field can be refused. -/
theorem Catalog.refusal?_of_ofParams {c : Catalog} {params : Record Key Value}
    {filters : Record String Filter} (htypes : ∀ f ∈ c.filterable, f.type.isFilterable = true)
    (h : Filter.ofParams params c.filterable = .ok filters) : c.refusal? filters = none := by
  obtain ⟨queries, hqueries, -⟩ := filterQueries_of_fits (Filter.fits_of_ofParams h)
  rw [refusal?, Option.or_eq_none_iff, ← errorOf?_filterQueries, hqueries]
  refine ⟨rfl, List.findSome?_eq_none_iff.2 fun f hf => ?_⟩
  exact Field.uncounted?_eq_none_iff.2 (htypes f hf)

/-- A request made of parameters has a plan if its page lies inside the window, and the plan asks
for the results of the page. -/
theorem SearchPlan.exists_of_inside {c : Catalog} {settings : PlanSettings} {seed : SeedSource}
    {params : Record Key Value} {r : SearchRequest} {names : List String} {page perPage : Int}
    {idField : String} (hid : settings.idField = .str idField)
    (htypes : ∀ f ∈ c.filterable, f.type.isFilterable = true)
    (hboosts : c.boostedNames = .ok names)
    (hrequest : SearchRequest.ofParams c seed (.ofInt perPage) params = .ok r)
    (hpage : r.page = .ofInt page) (hinside : r.isOutside settings.maxResultWindow = .ok false) :
    ∃ p, ofRequest c settings r = .ok p ∧ p.offset = .ofInt (perPage * (page - 1)) ∧
      p.size = .ofInt perPage := by
  obtain ⟨⟨text, htext⟩, ⟨seed, hseed⟩, hperPage, filters, hfilters, hslots⟩ :=
    parts_of_ofParams hrequest
  have hoffset := SearchRequest.offset_ofInt hpage hperPage
  have hrefusal := Catalog.refusal?_of_ofParams htypes hfilters
  have hplan := ofRequest_succeedsIff hinside hoffset htext hslots hboosts hseed hid hrefusal
  obtain ⟨p, hp⟩ := hplan.1 fun entry hentry _ => Filter.worded_of_ofParams hfilters entry hentry
  obtain ⟨_, _, -, -, -, -, hbegin, -, -, hsize, -⟩ := ofRequest_eq_ok hp
  rw [hoffset] at hbegin
  exact ⟨p, hp, (Except.ok.inj hbegin).symm, hsize.trans hperPage⟩

namespace Service

variable {α σ : Type} {s : Service σ α} {r : SearchRequest} {state state' : σ}
  {result : Except Error (SearchResult α)} {calls : List Event}

/-- A search with a plan asks the index once, for what was planned. -/
theorem calls_of_plan {p : SearchPlan} (hplan : s.plan r = .ok p)
    (h : outcome (s.recorded.search r) (state, []) = (result, state', calls)) :
    ∃ answer, calls = [.search (indexRequest p) answer] := by
  obtain ⟨hcalls, -⟩ := search_disciplined r h
  cases hcalls with
  | planned answer hplan' =>
    rw [hplan] at hplan'
    cases hplan'
    exact ⟨answer, rfl⟩
  | unplanned hplan' =>
    rw [hplan] at hplan'
    cases hplan'

/-- A search without a plan is refused and does not reach the index. -/
theorem outcome_of_refusal {e : Error} (hplan : s.plan r = .error e) (state : σ) :
    outcome (s.recorded.search r) (state, []) = (.error e, state, []) := by
  have hrefused : outcome (liftExcept (s.recorded.plan r)) (state, ([] : List Event)) =
      (.error e, state, []) := by
    rw [outcome_liftExcept]
    exact congrArg (·, state, []) hplan
  exact outcome_bind_of_error hrefused

/-- A link that can be read but for its page searches exactly if its page text names a page, the
first or a later one, that ends inside the window. Then the index is asked once, for as many results
as there are on a page behind those of the pages before. With any other text the page is out of
range, and the index is not asked; only the settings can hold a number that is too long to say so. -/
theorem search_pageText {params : Record Key Value} {names : List String} {perPage window : Int}
    {idField : String} (hperPage : s.config.perPage = .ofInt perPage)
    (hwindow : s.config.maxResultWindow = .ofInt window) (hid : s.config.idField = .str idField)
    (htypes : ∀ f ∈ s.catalog.filterable, f.type.isFilterable = true)
    (hnames : ∀ f ∈ s.catalog.filterable, f.name ≠ "page")
    (hboosts : s.catalog.boostedNames = .ok names)
    (hothers : s.requestOfParams params = .ok r) (text : String)
    (hlength : (pageDigits text.toList).length ≤ digitLimit) :
    ∃ request, s.requestOfParams (withPage params text) = .ok request ∧
      ∀ state result state' calls,
        outcome (s.recorded.search request) (state, []) = (result, state', calls) →
        (calls ≠ [] ↔
          ∃ page : Nat, NamesPage text.toList page ∧ 1 ≤ page ∧ page * perPage ≤ window) ∧
        (∀ page : Nat, NamesPage text.toList page → 1 ≤ page → page * perPage ≤ window →
          ∃ asked answer, calls = [.search asked answer] ∧
            asked.offset = .ofInt (perPage * (page - 1)) ∧ asked.size = .ofInt perPage) ∧
        ((¬ ∃ page : Nat, NamesPage text.toList page ∧ 1 ≤ page ∧ page * perPage ≤ window) →
          calls = [] ∧ state' = state ∧
          (IsShort perPage → IsShort window → ∃ page : Int, result =
            .error (.outOfRange (toString page) (toString perPage) (toString window))) ∧
          (¬ (IsShort perPage ∧ IsShort window) → result = .error (.fault .tooManyDigits))) := by
  obtain ⟨n, hn, hnamed⟩ := leadingInteger_spec hlength
  have hinside := exists_namesPage_iff perPage window hnamed
  obtain ⟨request, hrequest, hpage⟩ : ∃ request,
      s.requestOfParams (withPage params text) = .ok request ∧ request.page = .ofInt n :=
    ⟨_, SearchRequest.ofParams_withPage hnames hothers hn, rfl⟩
  obtain ⟨-, -, hsize, -⟩ := parts_of_ofParams hrequest
  rw [hperPage] at hsize
  refine ⟨request, hrequest, fun state result state' calls h => ?_⟩
  rw [hinside]
  by_cases hout : n < 1 ∨ window < n * perPage
  · have hshort := isShort_of_leadingInteger hlength hn
    have hrange (hp : IsShort perPage) (hw : IsShort window) : s.plan request =
        .error (.outOfRange (toString n) (toString perPage) (toString window)) :=
      SearchPlan.ofRequest_outOfRange hpage hsize hwindow hout hshort hp hw
    have hlong (hnot : ¬ (IsShort perPage ∧ IsShort window)) : s.plan request = .error tooLong :=
      SearchPlan.ofRequest_outside_tooLong hpage hsize hwindow hout fun hall => hnot hall.2
    obtain ⟨e, hplan⟩ : ∃ e, s.plan request = .error e := by
      by_cases hsettings : IsShort perPage ∧ IsShort window
      · exact ⟨_, hrange hsettings.1 hsettings.2⟩
      · exact ⟨_, hlong hsettings⟩
    rw [outcome_of_refusal hplan] at h
    cases h
    rw [hplan, Except.error.injEq] at hrange hlong
    refine ⟨iff_of_false (not_not.2 rfl) (not_not.2 hout), fun page hpage hlow hhigh => ?_,
      fun _ => ⟨rfl, rfl, fun hp hw => ⟨n, congrArg _ (hrange hp hw)⟩,
        fun hnot => congrArg _ (hlong hnot)⟩⟩
    exact absurd hout (hinside.1 ⟨page, hpage, hlow, hhigh⟩)
  · rw [requestOfParams, hperPage] at hrequest
    have hfits : request.isOutside s.config.maxResultWindow = .ok false := by
      rw [hwindow, SearchRequest.isOutside_ofInt hpage hsize, decide_eq_false hout]
    obtain ⟨p, hplan, hoffset, hlimit⟩ : ∃ p, s.plan request = .ok p ∧
        p.offset = .ofInt (perPage * (n - 1)) ∧ p.size = .ofInt perPage :=
      SearchPlan.exists_of_inside hid htypes hboosts hrequest hpage hfits
    obtain ⟨answer, rfl⟩ := calls_of_plan hplan h
    refine ⟨iff_of_true (List.cons_ne_nil _ _) hout, fun page hpage hlow _ => ?_,
      fun hnot => absurd hout hnot⟩
    rw [(hnamed page hlow).1 hpage] at hoffset
    exact ⟨_, answer, rfl, hoffset, hlimit⟩

/-- A shop that shows the first hundred books, twenty on a page. -/
def bookShop : Service Unit SearchHit where
  catalog := SearchRequest.books
  client :=
    { search := fun _ => return {}
      lookup := fun _ => return none
      termVectors := fun _ _ => return [] }
  config := { maxResultWindow := .ofInt 100 }
  seed := .fixed (.str "s")
  mapHit := SearchHit.ofIndexHit

/-- The parameters of a link, without the page. -/
def wanted : Record Key Value := [("pages", .str "≥200~long"), ("q", .str "dragon")]

/-- The third page is asked for with a blank that is not broken, a sign, a zero and an ending; a
digit of another script asks for no page. -/
theorem search_pageText_bookShop :
    (∃ request result asked answer,
      bookShop.requestOfParams (withPage wanted "\u00a0+03rd") =
        .ok request ∧
      outcome (bookShop.recorded.search request) ((), []) =
        (result, (), [.search asked answer]) ∧
      asked.offset = .ofInt 40 ∧ asked.size = .ofInt 20) ∧
    ∃ request page,
      bookShop.requestOfParams (withPage wanted "\uff13") = .ok request ∧
      outcome (bookShop.recorded.search request) ((), []) =
        (.error (.outOfRange page "20" "100"), (), []) := by
  have htypes : ∀ f ∈ bookShop.catalog.filterable, f.type.isFilterable = true := by decide
  have hnames : ∀ f ∈ bookShop.catalog.filterable, f.name ≠ "page" := by decide
  obtain ⟨r, hothers⟩ : ∃ r, bookShop.requestOfParams wanted = .ok r := ⟨_, rfl⟩
  constructor
  · obtain ⟨request, hrequest, hsearch⟩ :=
      search_pageText rfl rfl rfl htypes hnames rfl hothers "\u00a0+03rd" (by decide)
    rcases houtcome : outcome (bookShop.recorded.search request) ((), []) with
      ⟨result, state', calls⟩
    have hthird : NamesPage "\u00a0+03rd".toList 3 :=
      ⟨['+'], ['0', '3'], ['r', 'd'], by decide, .inr rfl, by decide, by simp, by simp, rfl⟩
    obtain ⟨-, hasked, -⟩ := hsearch () result state' calls houtcome
    obtain ⟨asked, answer, rfl, hoffset, hsize⟩ := hasked 3 hthird (by decide) (by decide)
    exact ⟨request, result, asked, answer, hrequest, houtcome, hoffset, hsize⟩
  · obtain ⟨request, hrequest, hsearch⟩ :=
      search_pageText rfl rfl rfl htypes hnames rfl hothers "\uff13" (by decide)
    rcases houtcome : outcome (bookShop.recorded.search request) ((), []) with
      ⟨result, state', calls⟩
    have hnone : ¬ ∃ page : Nat,
        NamesPage "\uff13".toList page ∧ 1 ≤ page ∧ page * (20 : Int) ≤ 100 := by
      rintro ⟨page, hpage, hlow, -⟩
      have hshort : (pageDigits "\uff13".toList).length ≤ digitLimit := by decide
      obtain ⟨n, hn, hnamed⟩ := leadingInteger_spec hshort
      have hzero : n = 0 := (Except.ok.inj hn).symm
      have hread := (hnamed page hlow).1 hpage
      omega
    obtain ⟨-, -, hrefused⟩ := hsearch () result state' calls houtcome
    obtain ⟨rfl, -, hrange, -⟩ := hrefused hnone
    obtain ⟨page, rfl⟩ := hrange (isShort_iff.2 (by decide)) (isShort_iff.2 (by decide))
    exact ⟨request, _, hrequest, houtcome⟩

end Service

end FacetSearch
