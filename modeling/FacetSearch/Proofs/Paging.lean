import Mathlib.Data.List.Range
import FacetSearch.Proofs.Calls
import FacetSearch.Proofs.Facet.Report
import FacetSearch.Proofs.FirstFailure
import FacetSearch.Service

/-!
# Going through the pages

A user who asks for page after page, as long as there are more results, makes a `Walk`. Over an index
that holds a fixed list of results (`IndexClient.Serves`) each page is the next part of the list
(`outcome_search_of_inside`), or is refused if it ends behind the result window
(`outcome_search_of_outside`). So a walk shows every result once and in order, or, if the window ends
before the last page does, as many whole pages as fit into the window, and is then refused the next
page (`walk_delivers`).
-/

namespace FacetSearch

open Outcome

variable {α σ : Type}

/-- The client answers a search by that part of the results that it asks for, without statistics.
What it keeps are the searches it was sent. -/
def IndexClient.Serves (client : IndexClient (List IndexRequest)) (results : List IndexHit) :
    Prop :=
  ∀ (request : IndexRequest) (offset size : Nat), request.offset = .ofInt offset →
    request.size = .ofInt size → ∀ sent,
      Call.outcome (client.search request) sent =
        (.ok { hits := (results.drop offset).take size, total := .ofInt results.length },
          sent ++ [request])

/-- The same search for another page. -/
def SearchRequest.atPage (r : SearchRequest) (page : Nat) : SearchRequest :=
  { r with page := .ofInt page }

/-- The same plan for the results behind a number of others. -/
def SearchPlan.fromOffset (p : SearchPlan) (offset : Nat) : SearchPlan :=
  { p with offset := .ofInt offset }

/-- The number of pages that results take up; no results still are one empty page. -/
def pageCount (total perPage : Nat) : Nat := max 1 ((total + perPage - 1) / perPage)

namespace Service

/-- Asking for a page and the ones behind it, as long as there are more results: the pages shown, the
failure that ended it, if one did, and the state of the index afterwards. -/
inductive Walk (s : Service σ α) (r : SearchRequest) :
    Nat → σ → List (SearchResult α) → Option Error → σ → Prop
  | last {page : Nat} {state state' : σ} {result : SearchResult α} :
      Call.outcome (s.search (r.atPage page)) state = (.ok result, state') →
      result.hasMore = false → Walk s r page state [result] none state'
  | more {page : Nat} {state state' state'' : σ} {result : SearchResult α}
      {results : List (SearchResult α)} {failure : Option Error} :
      Call.outcome (s.search (r.atPage page)) state = (.ok result, state') →
      result.hasMore = true → Walk s r (page + 1) state' results failure state'' →
      Walk s r page state (result :: results) failure state''
  | refused {page : Nat} {state state' : σ} {e : Error} :
      Call.outcome (s.search (r.atPage page)) state = (.error e, state') →
      Walk s r page state [] (some e) state'

/-- There is only one way through the pages. -/
theorem Walk.unique {s : Service σ α} {r : SearchRequest} {page : Nat} {state end₁ end₂ : σ}
    {results₁ results₂ : List (SearchResult α)} {failure₁ failure₂ : Option Error}
    (h₁ : Walk s r page state results₁ failure₁ end₁)
    (h₂ : Walk s r page state results₂ failure₂ end₂) :
    results₁ = results₂ ∧ failure₁ = failure₂ ∧ end₁ = end₂ := by
  induction h₁ generalizing results₂ failure₂ end₂ with
  | last h hmore =>
    cases h₂ with
    | last h' _ => rw [h] at h'; cases h'; exact ⟨rfl, rfl, rfl⟩
    | more h' hmore' _ => rw [h] at h'; cases h'; rw [hmore] at hmore'; cases hmore'
    | refused h' => rw [h] at h'; cases h'
  | more h hmore _ ih =>
    cases h₂ with
    | last h' hmore' => rw [h] at h'; cases h'; rw [hmore] at hmore'; cases hmore'
    | more h' _ hrest =>
      rw [h] at h'
      cases h'
      obtain ⟨rfl, rfl, rfl⟩ := ih hrest
      exact ⟨rfl, rfl, rfl⟩
    | refused h' => rw [h] at h'; cases h'
  | refused h =>
    cases h₂ with
    | last h' _ => rw [h] at h'; cases h'
    | more h' _ _ => rw [h] at h'; cases h'
    | refused h' => rw [h] at h'; cases h'; exact ⟨rfl, rfl, rfl⟩

theorem Walk.eq_iff {s : Service σ α} {r : SearchRequest} {page : Nat} {state end₁ end₂ : σ}
    {results₁ results₂ : List (SearchResult α)} {failure₁ failure₂ : Option Error}
    (h : Walk s r page state results₁ failure₁ end₁) :
    Walk s r page state results₂ failure₂ end₂ ↔
      results₂ = results₁ ∧ failure₂ = failure₁ ∧ end₂ = end₁ := by
  constructor
  · exact fun h' => h'.unique h
  · rintro ⟨rfl, rfl, rfl⟩
    exact h

end Service

/-! ## One page -/

/-- Without answers no field has a statistic. -/
theorem FieldStat.ofAnswers_empty (fields : List Field) : ofAnswers fields (.obj []) = .ok [] := by
  induction fields with
  | nil => rfl
  | cons f fields ih =>
    rw [ofAnswers, List.foldlM_cons, ofAnswers?_eq_none rfl]
    exact ih

theorem SearchResult.logged_ofInt {result : SearchResult α} {page total : Int}
    (htotal : result.totalHits = .ofInt total) (hpage : IsShort page) (hshort : IsShort total) :
    result.logged (.ofInt page) = .ok result := by
  rw [logged, logLine, htotal, Value.text_ofInt hpage, ok_bind, Value.text_ofInt hshort]
  rfl

namespace Service

/-- The part of the results that is on a page, counted from 0. -/
def pageOf (shown : List α) (perPage i : Nat) : SearchResult α where
  hits := (shown.drop (perPage * i)).take perPage
  totalHits := .ofInt shown.length
  hasMore := decide ((i + 1) * perPage < shown.length)
  stats := []

section Page

variable {s : Service σ α} {r : SearchRequest} {p : SearchPlan} {perPage : Nat} {window : Int}

/-- Plans of the pages inside the window differ in the offset only. -/
theorem plan_of_inside (hperPage : r.perPage = .ofInt perPage)
    (hwindow : s.config.maxResultWindow = .ofInt window) (hplan : s.plan (r.atPage 1) = .ok p)
    {i : Nat} (hi : (((i + 1) * perPage : Nat) : Int) ≤ window) :
    s.plan (r.atPage (i + 1)) = .ok (p.fromOffset (perPage * i)) := by
  obtain ⟨text?, filters, -, htext, hfilters, haggregations, -, hquery, hsort, hsize, hhas, line,
    hline⟩ := SearchPlan.ofRequest_eq_ok hplan
  have hpage : (r.atPage (i + 1)).page = .ofInt (i + 1 : Nat) := rfl
  have hnot : ¬ (((i + 1 : Nat) : Int) < 1 ∨ window < ((i + 1 : Nat) : Int) * perPage) := by
    push_cast at hi ⊢
    omega
  have hinside : (r.atPage (i + 1)).isOutside s.config.maxResultWindow = .ok false := by
    rw [hwindow, SearchRequest.isOutside_ofInt hpage hperPage, decide_eq_false hnot]
  have hoffset : (r.atPage (i + 1)).offset = .ok (.ofInt (perPage * i : Nat)) := by
    rw [SearchRequest.offset_ofInt hpage hperPage]
    simp
  refine (SearchPlan.ofRequest_of_inside (r := r.atPage (i + 1)) hinside htext hfilters).trans ?_
  rw [haggregations, ok_bind, hoffset, ok_bind]
  cases p
  subst hquery hsort hsize hhas
  exact SearchPlan.logged_of_logLine hline

theorem plan_of_outside (hperPage : r.perPage = .ofInt perPage)
    (hwindow : s.config.maxResultWindow = .ofInt window) {i : Nat}
    (hi : window < (((i + 1) * perPage : Nat) : Int)) (hpageShort : IsShort (i + 1 : Nat))
    (hperPageShort : IsShort perPage) (hwindowShort : IsShort window) :
    s.plan (r.atPage (i + 1)) =
      .error (.outOfRange (toString (i + 1)) (toString perPage) (toString window)) :=
  SearchPlan.ofRequest_outOfRange (r := r.atPage (i + 1)) rfl hperPage hwindow
    (.inr (by exact_mod_cast hi)) hpageShort hperPageShort hwindowShort

theorem resultOf_page {results : List IndexHit} {shown : List α}
    (hshown : results.mapM s.mapHit = .ok shown) (hperPage : r.perPage = .ofInt perPage) {i : Nat}
    (hpageShort : IsShort (i + 1 : Nat)) (htotal : IsShort shown.length) :
    s.resultOf (r.atPage (i + 1))
        { hits := (results.drop (perPage * i)).take perPage, total := .ofInt results.length } =
      .ok (pageOf shown perPage i) := by
  have hall := mapM_eq_ok_iff.1 hshown
  have hpart : ((results.drop (perPage * i)).take perPage).mapM s.mapHit =
      .ok ((shown.drop (perPage * i)).take perPage) :=
    mapM_eq_ok_iff.2 (List.forall₂_take _ (List.forall₂_drop _ hall))
  have hperPage : (r.atPage (i + 1)).perPage = .ofInt perPage := hperPage
  have hpage : (r.atPage (i + 1)).page = .ofInt (i + 1 : Nat) := rfl
  rw [resultOf, FieldStat.ofAnswers_empty, ok_bind, hpart, ok_bind, hpage, hperPage,
    Value.mul_ofInt, ok_bind, Value.lt_ofInt, Number.lt_int, ok_bind, hall.length_eq,
    SearchResult.logged_ofInt rfl hpageShort htotal, pageOf]
  norm_cast

variable {s : Service (List IndexRequest) α} {results : List IndexHit} {shown : List α}

/-- A page inside the window is the part of the results that it stands for, from one search. -/
theorem outcome_search_of_inside (hserves : s.client.Serves results)
    (hshown : results.mapM s.mapHit = .ok shown) (hperPage : r.perPage = .ofInt perPage)
    (hwindow : s.config.maxResultWindow = .ofInt window) (hplan : s.plan (r.atPage 1) = .ok p)
    (htotal : IsShort shown.length) {i : Nat} (hi : (((i + 1) * perPage : Nat) : Int) ≤ window)
    (hpageShort : IsShort (i + 1 : Nat)) (sent : List IndexRequest) :
    Call.outcome (s.search (r.atPage (i + 1))) sent =
      (.ok (pageOf shown perPage i), sent ++ [indexRequest (p.fromOffset (perPage * i))]) := by
  have hsize : (indexRequest (p.fromOffset (perPage * i))).size = .ofInt perPage := by
    obtain ⟨_, _, -, -, -, -, -, -, -, hsize, -, -⟩ := SearchPlan.ofRequest_eq_ok hplan
    exact hsize.trans hperPage
  have hanswer := hserves _ (perPage * i) perPage rfl hsize sent
  have hfound : Call.outcome (liftExcept (s.plan (r.atPage (i + 1)))) sent =
      (.ok (p.fromOffset (perPage * i)), sent) := by
    rw [Call.outcome_liftExcept, plan_of_inside hperPage hwindow hplan hi]
  rw [search, Call.outcome_bind_of_ok hfound, Call.outcome_bind_of_ok hanswer,
    Call.outcome_liftExcept, resultOf_page hshown hperPage hpageShort htotal]

/-- A page behind the window is refused without a search. -/
theorem outcome_search_of_outside (hperPage : r.perPage = .ofInt perPage)
    (hwindow : s.config.maxResultWindow = .ofInt window) {i : Nat}
    (hi : window < (((i + 1) * perPage : Nat) : Int)) (hpageShort : IsShort (i + 1 : Nat))
    (hperPageShort : IsShort perPage) (hwindowShort : IsShort window) (sent : List IndexRequest) :
    Call.outcome (s.search (r.atPage (i + 1))) sent =
      (.error (.outOfRange (toString (i + 1)) (toString perPage) (toString window)), sent) := by
  refine Call.outcome_bind_of_error ?_
  rw [Call.outcome_liftExcept,
    plan_of_outside hperPage hwindow hi hpageShort hperPageShort hwindowShort]

end Page

/-! ## Page after page -/

/-- Pages with more results behind them come before whatever the walk goes on with. -/
theorem Walk.prepend {s : Service σ α} {r : SearchRequest} {page : Nat → SearchResult α}
    {state : Nat → σ} {m : Nat}
    (hpage : ∀ i < m,
      Call.outcome (s.search (r.atPage (i + 1))) (state i) = (.ok (page i), state (i + 1)))
    (hmore : ∀ i < m, (page i).hasMore = true) {rest : List (SearchResult α)}
    {failure : Option Error} {last : σ} (hrest : Walk s r (m + 1) (state m) rest failure last) :
    Walk s r 1 (state 0) ((List.range m).map page ++ rest) failure last := by
  -- The last of the pages goes over to the rest, as a walk is known from its end.
  induction m generalizing rest with
  | zero => exact hrest
  | succ m ih =>
    have hlast : Walk s r (m + 1) (state m) (page m :: rest) failure last :=
      .more (hpage m m.lt_succ_self) (hmore m m.lt_succ_self) hrest
    rw [List.range_succ, List.map_append, List.append_assoc]
    exact ih (fun i hi => hpage i (hi.trans m.lt_succ_self))
      (fun i hi => hmore i (hi.trans m.lt_succ_self)) hlast

theorem pageCount_pos (total perPage : Nat) : 0 < pageCount total perPage := by
  unfold pageCount
  omega

/-- Behind a page is another exactly if results are behind it. -/
theorem lt_pageCount_iff {total perPage page : Nat} (hperPage : 0 < perPage) (hpage : 0 < page) :
    page < pageCount total perPage ↔ page * perPage < total := by
  have hceil : page < pageCount total perPage ↔ page + 1 ≤ (total + perPage - 1) / perPage := by
    unfold pageCount
    omega
  rw [hceil, Nat.le_div_iff_mul_le hperPage, Nat.succ_mul]
  omega

/-- There are no more pages than results, save for the one empty page. -/
theorem pageCount_le {total perPage : Nat} (hperPage : 0 < perPage) :
    pageCount total perPage ≤ max 1 total := by
  by_contra hlt
  have hbehind := (lt_pageCount_iff hperPage (by omega)).1 (Nat.not_le.1 hlt)
  have hle := Nat.le_mul_of_pos_right (max 1 total) hperPage
  omega

/-- Page after page makes up the front of the results. -/
theorem flatMap_hits_pageOf (shown : List α) (perPage m : Nat) :
    ((List.range m).map (pageOf shown perPage)).flatMap SearchResult.hits =
      shown.take (perPage * m) := by
  induction m with
  | zero => simp
  | succ m ih =>
    rw [List.range_succ, List.map_append, List.flatMap_append, ih, Nat.mul_succ, List.take_add]
    simp [pageOf]

section Walk

variable {s : Service (List IndexRequest) α} {r : SearchRequest} {p : SearchPlan}
  {results : List IndexHit} {shown : List α} {perPage window : Nat}
  (hserves : s.client.Serves results) (hshown : results.mapM s.mapHit = .ok shown)
  (hpos : 0 < perPage) (hperPage : r.perPage = .ofInt perPage)
  (hwindow : s.config.maxResultWindow = .ofInt window) (hplan : s.plan (r.atPage 1) = .ok p)
  (hroom : IsShort (2 * shown.length : Nat)) (sent : List IndexRequest)

/-- The searches for the first pages, after others. -/
def sentAfter (p : SearchPlan) (perPage : Nat) (sent : List IndexRequest) (m : Nat) :
    List IndexRequest :=
  sent ++ (List.range m).map fun i => indexRequest (p.fromOffset (perPage * i))

theorem sentAfter_succ (m : Nat) : sentAfter p perPage sent (m + 1) =
    sentAfter p perPage sent m ++ [indexRequest (p.fromOffset (perPage * m))] := by
  simp [sentAfter, List.range_succ]

/-- No number on the way through the pages is as large as twice that of the results. -/
theorem isShort_of_room {total n : Nat} (hroom : IsShort (2 * total : Nat))
    (h : n < 2 * max 1 total) : IsShort n := by
  have hone : IsShort (1 : Nat) := isShort_iff.2 (by decide)
  cases total with
  | zero => exact hone.of_le (by omega)
  | succ total => exact hroom.of_le (by omega)

include hserves hshown hpos hperPage hwindow hplan hroom

/-- Pages that lie inside the window and have more behind them begin a walk. -/
theorem walk_of_rest {m : Nat} (hinside : m * perPage ≤ window)
    (hmore : m < pageCount shown.length perPage) {rest : List (SearchResult α)}
    {failure : Option Error} {last : List IndexRequest}
    (hrest : Walk s r (m + 1) (sentAfter p perPage sent m) rest failure last) :
    Walk s r 1 sent ((List.range m).map (pageOf shown perPage) ++ rest) failure last := by
  have hbegin : sentAfter p perPage sent 0 = sent := by simp [sentAfter]
  rw [← hbegin]
  have hcount : pageCount shown.length perPage ≤ max 1 shown.length := pageCount_le hpos
  refine Walk.prepend (fun i hi => ?_) (fun i hi => ?_) hrest
  · have hreach : (i + 1) * perPage ≤ window := (Nat.mul_le_mul_right perPage hi).trans hinside
    rw [sentAfter_succ]
    exact outcome_search_of_inside hserves hshown hperPage hwindow hplan
      (isShort_of_room hroom (by omega)) (by exact_mod_cast hreach)
      (isShort_of_room hroom (by omega)) _
  · exact decide_eq_true ((lt_pageCount_iff hpos i.succ_pos).1 (by omega))

theorem walk_complete (hinside : pageCount shown.length perPage * perPage ≤ window) :
    Walk s r 1 sent ((List.range (pageCount shown.length perPage)).map (pageOf shown perPage)) none
      (sentAfter p perPage sent (pageCount shown.length perPage)) := by
  -- The last page is apart from the others: it has no more behind it.
  obtain ⟨m, hm⟩ : ∃ m, pageCount shown.length perPage = m + 1 :=
    Nat.exists_eq_succ_of_ne_zero (pageCount_pos _ _).ne'
  have hend : ¬ (m + 1) * perPage < shown.length := by
    rw [← lt_pageCount_iff hpos m.succ_pos, hm]
    exact lt_irrefl _
  rw [hm] at hinside ⊢
  rw [List.range_succ, List.map_append]
  have hcount : pageCount shown.length perPage ≤ max 1 shown.length := pageCount_le hpos
  refine walk_of_rest hserves hshown hpos hperPage hwindow hplan hroom sent
    ((Nat.mul_le_mul_right perPage m.le_succ).trans hinside) (by omega) (.last ?_ ?_)
  · rw [sentAfter_succ]
    exact outcome_search_of_inside hserves hshown hperPage hwindow hplan
      (isShort_of_room hroom (by omega)) (by exact_mod_cast hinside)
      (isShort_of_room hroom (by omega)) _
  · exact decide_eq_false hend

theorem walk_cut (hfirst : perPage ≤ window)
    (houtside : window < pageCount shown.length perPage * perPage) :
    Walk s r 1 sent ((List.range (window / perPage)).map (pageOf shown perPage))
      (some (.outOfRange (toString (window / perPage + 1)) (toString perPage) (toString window)))
      (sentAfter p perPage sent (window / perPage)) := by
  have hreach : window / perPage < pageCount shown.length perPage :=
    (Nat.div_lt_iff_lt_mul hpos).2 houtside
  have hnext : window < (window / perPage + 1) * perPage :=
    (Nat.div_lt_iff_lt_mul hpos).1 (Nat.lt_succ_self _)
  have hcount : pageCount shown.length perPage ≤ max 1 shown.length := pageCount_le hpos
  -- Behind the first page and behind the last that is shown there are results.
  have hmany : 0 < window / perPage := Nat.div_pos hfirst hpos
  have hlarge := (lt_pageCount_iff hpos hmany).1 hreach
  have hsmall : perPage < shown.length := (Nat.le_mul_of_pos_left perPage hmany).trans_lt hlarge
  have hwindowShort : window < 2 * shown.length := by
    rw [Nat.succ_mul] at hnext
    omega
  rw [← List.append_nil (List.map _ _)]
  refine walk_of_rest hserves hshown hpos hperPage hwindow hplan hroom sent
    (Nat.div_mul_le_self window perPage) hreach (.refused ?_)
  exact outcome_search_of_outside hperPage hwindow (by exact_mod_cast hnext)
    (isShort_of_room hroom (by omega)) (isShort_of_room hroom (by omega))
    (isShort_of_room hroom (by omega)) _

end Walk

/-- The first page is refused if it is larger than the window. -/
theorem le_window_of_plan {s : Service σ α} {r : SearchRequest} {p : SearchPlan} {perPage : Nat}
    {window : Int} (hperPage : r.perPage = .ofInt perPage)
    (hwindow : s.config.maxResultWindow = .ofInt window) (hplan : s.plan (r.atPage 1) = .ok p) :
    (perPage : Int) ≤ window := by
  obtain ⟨_, _, hinside, -⟩ := SearchPlan.ofRequest_eq_ok hplan
  have hpage : (r.atPage 1).page = .ofInt 1 := rfl
  rw [hwindow, SearchRequest.isOutside_ofInt hpage hperPage, Except.ok.injEq,
    decide_eq_false_iff_not] at hinside
  omega

/-- There is one walk from the first page on. If all pages lie inside the window it shows every
result once and in order. If not, it shows as many whole pages as lie inside, the last of them
promises more, and the next is refused without a search. All its searches differ in the offset
only. The one thing asked of the results is that there is room for them: their number, which is put
on the log for every page, is not one of thousands of digits. -/
theorem walk_delivers {s : Service (List IndexRequest) α} {r : SearchRequest} {p : SearchPlan}
    {results : List IndexHit} {shown : List α} {perPage : Nat} {window : Int}
    (hserves : s.client.Serves results) (hshown : results.mapM s.mapHit = .ok shown)
    (hpos : 0 < perPage) (hperPage : r.perPage = .ofInt perPage)
    (hwindow : s.config.maxResultWindow = .ofInt window) (hplan : s.plan (r.atPage 1) = .ok p)
    (hroom : IsShort (2 * results.length : Nat)) (sent : List IndexRequest) :
    ∃ (pages : List (SearchResult α)) (failure : Option Error),
      (∀ pages' failure' sent', Walk s r 1 sent pages' failure' sent' ↔
        pages' = pages ∧ failure' = failure ∧
          sent' = sent ++ (List.range pages.length).map fun i =>
            indexRequest (p.fromOffset (perPage * i))) ∧
      (((pageCount results.length perPage * perPage : Nat) : Int) ≤ window →
        pages.length = pageCount results.length perPage ∧ failure = none ∧
          pages.flatMap SearchResult.hits = shown) ∧
      (window < ((pageCount results.length perPage * perPage : Nat) : Int) →
        (pages.length : Int) = window / perPage ∧
          pages.flatMap SearchResult.hits = shown.take (perPage * pages.length) ∧
          (∃ page, pages.getLast? = some page ∧ page.hasMore = true) ∧
          failure = some (.outOfRange (toString (pages.length + 1)) (toString perPage)
            (toString window))) := by
  have hfirst := le_window_of_plan hperPage hwindow hplan
  obtain ⟨window, rfl⟩ : ∃ n : Nat, window = n := Int.eq_ofNat_of_zero_le (by omega)
  rw [(mapM_eq_ok_iff.1 hshown).length_eq] at hroom ⊢
  norm_cast at hfirst ⊢
  by_cases hinside : pageCount shown.length perPage * perPage ≤ window
  · have hwalk := walk_complete hserves hshown hpos hperPage hwindow hplan hroom sent hinside
    have hall : shown.length ≤ perPage * pageCount shown.length perPage := by
      rw [Nat.mul_comm, ← Nat.not_lt, ← lt_pageCount_iff hpos (pageCount_pos _ _)]
      exact lt_irrefl _
    refine ⟨(List.range (pageCount shown.length perPage)).map (pageOf shown perPage), none, ?_,
      fun _ => ⟨by simp, rfl, ?_⟩, fun houtside => absurd hinside (Nat.not_le.2 houtside)⟩
    · rw [List.length_map, List.length_range]
      exact fun _ _ _ => hwalk.eq_iff
    · rw [flatMap_hits_pageOf, List.take_of_length_le hall]
  · have houtside := Nat.not_le.1 hinside
    have hwalk := walk_cut hserves hshown hpos hperPage hwindow hplan hroom sent hfirst houtside
    obtain ⟨m, hm⟩ : ∃ m, window / perPage = m + 1 :=
      Nat.exists_eq_succ_of_ne_zero (Nat.div_pos hfirst hpos).ne'
    have hnext : m + 1 < pageCount shown.length perPage := by
      rw [← hm]
      exact (Nat.div_lt_iff_lt_mul hpos).2 houtside
    refine ⟨(List.range (window / perPage)).map (pageOf shown perPage), _, ?_,
      fun h => absurd h hinside, fun _ => ⟨by simp, ?_, ⟨pageOf shown perPage m, ?_, ?_⟩, rfl⟩⟩
    · rw [List.length_map, List.length_range]
      exact fun _ _ _ => hwalk.eq_iff
    · rw [flatMap_hits_pageOf, List.length_map, List.length_range]
    · simp [hm, List.range_succ]
    · exact decide_eq_true ((lt_pageCount_iff hpos m.succ_pos).1 hnext)

/-- An index that holds these results, in this order. -/
def indexOf (results : List IndexHit) : IndexClient (List IndexRequest) where
  search request := do
    modify (· ++ [request])
    match request.offset, request.size with
    | .num (.int offset), .num (.int size) =>
      return {
        hits := (results.drop offset.toNat).take size.toNat
        total := .ofInt results.length }
    | _, _ => throw (.fault .notNumeric)
  lookup _ := return none
  termVectors _ _ := return []

theorem indexOf_serves (results : List IndexHit) : (indexOf results).Serves results := by
  intro request offset size hoffset hsize sent
  simp only [indexOf, hoffset, hsize]
  rfl

/-- A shop with three toys. -/
def toyShop (window : Int) : Service (List IndexRequest) SearchHit where
  catalog := SearchPlan.toys
  client := indexOf (["ball", "kite", "top"].map fun name => { internalId := .str name })
  config := { maxResultWindow := .ofInt window }
  seed := .fixed (.str "s")
  mapHit := SearchHit.ofIndexHit

/-- Two toys on a page: with room for five results two pages show all three, with room for three
the second page is refused. -/
theorem walk_delivers_toyShop :
    (∃ pages sent, Walk (toyShop 5) { perPage := .ofInt 2 } 1 [] pages none sent ∧
      pages.flatMap SearchResult.hits =
        [⟨.str "ball", .null, []⟩, ⟨.str "kite", .null, []⟩, ⟨.str "top", .null, []⟩]) ∧
    ∃ pages sent, Walk (toyShop 3) { perPage := .ofInt 2 } 1 [] pages
        (some (.outOfRange "2" "2" "3")) sent ∧
      pages.flatMap SearchResult.hits = [⟨.str "ball", .null, []⟩, ⟨.str "kite", .null, []⟩] := by
  have hroom : IsShort (2 * 3 : Nat) := isShort_iff.2 (by decide)
  constructor
  · obtain ⟨p, hplan⟩ : ∃ p, (toyShop 5).plan (SearchRequest.atPage { perPage := .ofInt 2 } 1) =
        .ok p := exists_of_toBool (by decide +kernel)
    obtain ⟨pages, failure, hwalk, hinside, -⟩ :=
      walk_delivers (s := toyShop 5) (r := { perPage := .ofInt 2 }) (indexOf_serves _) rfl
        (by decide : 0 < 2) rfl rfl hplan hroom []
    obtain ⟨-, rfl, hhits⟩ := hinside (by decide)
    exact ⟨pages, _, (hwalk _ _ _).2 ⟨rfl, rfl, rfl⟩, hhits⟩
  · obtain ⟨p, hplan⟩ : ∃ p, (toyShop 3).plan (SearchRequest.atPage { perPage := .ofInt 2 } 1) =
        .ok p := exists_of_toBool (by decide +kernel)
    obtain ⟨pages, failure, hwalk, -, houtside⟩ :=
      walk_delivers (s := toyShop 3) (r := { perPage := .ofInt 2 }) (indexOf_serves _) rfl
        (by decide : 0 < 2) rfl rfl hplan hroom []
    obtain ⟨hcount, hhits, -, rfl⟩ := houtside (by decide)
    have hone : pages.length = 1 := by omega
    rw [hone] at hhits
    refine ⟨pages, _, (hwalk _ _ _).2 ⟨rfl, ?_, rfl⟩, hhits⟩
    rw [hone]
    rfl

end Service

end FacetSearch
