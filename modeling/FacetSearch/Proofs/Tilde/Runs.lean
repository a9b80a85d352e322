import FacetSearch.Proofs.Tilde.Options

/-!
# Runs of a text

A text is a row of runs: tildes and other characters in turn, each run as long as it can be. `runs`
reads them off, and `runs_eq_iff` says that there is one such row only. How a text ends is how its
last run does (`not_ends_iff`, `closesRun_iff`), so the options of a text are its last two runs
(`optionsSlot?_eq_some_iff_runs`, `unknownSuffix?_eq_some_iff_runs`).
-/

namespace FacetSearch.Tilde

/-- So many tildes, or a text of other characters. -/
inductive Run where
  | tildes (count : Nat)
  | plain (text : List Char)
  deriving DecidableEq

namespace Run

def text : Run → List Char
  | tildes count => List.replicate count '~'
  | plain text => text

/-- The run is not empty and holds no characters of the other kind. -/
def Proper : Run → Prop
  | tildes count => 0 < count
  | plain text => text ≠ [] ∧ '~' ∉ text

def isTildes : Run → Bool
  | tildes _ => true
  | plain _ => false

/-- The runs are of different kinds. -/
def Alternates (r s : Run) : Prop := r.isTildes ≠ s.isTildes

end Run

/-- The text of runs one after the other. -/
def textOf (rs : List Run) : List Char := rs.flatMap Run.text

/-- No run can be made longer by its neighbours. -/
structure Maximal (rs : List Run) : Prop where
  proper : ∀ r ∈ rs, r.Proper
  alternate : rs.IsChain Run.Alternates

/-- A character in front of the first run. -/
def consRun (c : Char) : List Run → List Run
  | .tildes count :: rest =>
    if c = '~' then .tildes (count + 1) :: rest else .plain [c] :: .tildes count :: rest
  | .plain text :: rest =>
    if c = '~' then .tildes 1 :: .plain text :: rest else .plain (c :: text) :: rest
  | [] => if c = '~' then [.tildes 1] else [.plain [c]]

/-- The runs of a text. -/
def runs : List Char → List Run := List.foldr consRun []

/-! ## One row of runs for each text -/

theorem textOf_cons (r : Run) (rs : List Run) : textOf (r :: rs) = r.text ++ textOf rs := rfl

theorem textOf_append (rs ss : List Run) : textOf (rs ++ ss) = textOf rs ++ textOf ss :=
  List.flatMap_append

theorem Maximal.tail {r : Run} {rs : List Run} (h : Maximal (r :: rs)) : Maximal rs :=
  ⟨fun s hs => h.proper s (List.mem_cons_of_mem r hs), h.alternate.tail⟩

theorem maximal_append_iff {rs ss : List Run} :
    Maximal (rs ++ ss) ↔
      Maximal rs ∧ Maximal ss ∧ ∀ r ∈ rs.getLast?, ∀ s ∈ ss.head?, r.Alternates s := by
  constructor
  · rintro ⟨hproper, hchain⟩
    obtain ⟨hrs, hss, hedge⟩ := List.isChain_append.1 hchain
    exact ⟨⟨fun r hr => hproper r (by simp [hr]), hrs⟩,
      ⟨fun s hs => hproper s (by simp [hs]), hss⟩, hedge⟩
  · rintro ⟨hrs, hss, hedge⟩
    refine ⟨fun r hr => ?_, List.isChain_append.2 ⟨hrs.alternate, hss.alternate, hedge⟩⟩
    exact (List.mem_append.1 hr).elim (hrs.proper r) (hss.proper r)

theorem textOf_consRun (c : Char) (rs : List Run) : textOf (consRun c rs) = c :: textOf rs := by
  fun_cases consRun c rs <;> simp_all [textOf, Run.text, List.replicate_succ]

/-- A chain does not depend on how long its first run is. -/
theorem isChain_cons_congr {r s : Run} {rs : List Run} (h : (r :: rs).IsChain Run.Alternates)
    (hkind : r.isTildes = s.isTildes) : (s :: rs).IsChain Run.Alternates := by
  cases rs with
  | nil => exact .singleton s
  | cons t rs =>
    obtain ⟨hfirst, hrest⟩ := List.isChain_cons_cons.1 h
    exact List.isChain_cons_cons.2 ⟨by rwa [Run.Alternates, ← hkind], hrest⟩

theorem maximal_consRun (c : Char) {rs : List Run} (h : Maximal rs) : Maximal (consRun c rs) := by
  obtain ⟨hproper, hchain⟩ := h
  fun_cases consRun c rs with
  | case1 count rest hc =>
    rw [List.forall_mem_cons] at hproper
    exact ⟨List.forall_mem_cons.2 ⟨Nat.succ_pos count, hproper.2⟩, isChain_cons_congr hchain rfl⟩
  | case2 count rest hc =>
    exact ⟨List.forall_mem_cons.2 ⟨⟨by simp, by simpa using Ne.symm hc⟩, hproper⟩,
      List.isChain_cons_cons.2 ⟨Bool.noConfusion, hchain⟩⟩
  | case3 text rest hc =>
    exact ⟨List.forall_mem_cons.2 ⟨Nat.one_pos, hproper⟩,
      List.isChain_cons_cons.2 ⟨Bool.noConfusion, hchain⟩⟩
  | case4 text rest hc =>
    rw [List.forall_mem_cons] at hproper
    have htext : '~' ∉ c :: text := by simpa using ⟨Ne.symm hc, hproper.1.2⟩
    exact ⟨List.forall_mem_cons.2 ⟨⟨List.cons_ne_nil c text, htext⟩, hproper.2⟩,
      isChain_cons_congr hchain rfl⟩
  | case5 hc => exact ⟨by simp [Run.Proper], .singleton _⟩
  | case6 hc => exact ⟨by simp [Run.Proper, Ne.symm hc], .singleton _⟩

theorem textOf_runs (text : List Char) : textOf (runs text) = text := by
  induction text with
  | nil => rfl
  | cons c rest ih => rw [runs, List.foldr_cons, textOf_consRun]; exact congrArg (c :: ·) ih

theorem maximal_runs (text : List Char) : Maximal (runs text) := by
  induction text with
  | nil => exact ⟨by simp [runs], by simp [runs]⟩
  | cons c rest ih => exact maximal_consRun c ih

/-- A character that does not fit the first run begins one of its own. -/
theorem consRun_of_isChain {c : Char} {r : Run} {rs : List Run}
    (hr : r = if c = '~' then .tildes 1 else .plain [c]) (h : (r :: rs).IsChain Run.Alternates) :
    consRun c rs = r :: rs := by
  subst hr
  fun_cases consRun c rs with
  | case1 count rest hc =>
    rw [if_pos hc] at h
    exact ((List.isChain_cons_cons.1 h).1 rfl).elim
  | case4 text rest hc =>
    rw [if_neg hc] at h
    exact ((List.isChain_cons_cons.1 h).1 rfl).elim
  | case2 count rest hc => rw [if_neg hc]
  | case3 text rest hc => rw [if_pos hc]
  | case5 hc => rw [if_pos hc]
  | case6 hc => rw [if_neg hc]

/-- A whole run is put in front character by character. -/
theorem foldr_consRun_text {r : Run} {rs : List Run} (hproper : r.Proper)
    (h : (r :: rs).IsChain Run.Alternates) : r.text.foldr consRun rs = r :: rs := by
  -- The last character of the run begins it, and every other one makes it longer.
  cases r with
  | tildes count =>
    induction count with
    | zero => exact absurd hproper (Nat.lt_irrefl 0)
    | succ n ih =>
      rw [Run.text, List.replicate_succ, List.foldr_cons]
      cases n with
      | zero => exact consRun_of_isChain rfl h
      | succ n =>
        have htail : (List.replicate (n + 1) '~').foldr consRun rs = .tildes (n + 1) :: rs :=
          ih (Nat.succ_pos n) (isChain_cons_congr h rfl)
        rw [htail]
        rfl
  | plain t =>
    obtain ⟨hne, htilde⟩ := hproper
    induction t with
    | nil => exact absurd rfl hne
    | cons c t ih =>
      obtain ⟨hc, ht⟩ : c ≠ '~' ∧ '~' ∉ t := by simpa [eq_comm] using htilde
      rw [Run.text, List.foldr_cons]
      cases t with
      | nil => exact consRun_of_isChain (if_neg hc).symm h
      | cons d t =>
        have htail : (d :: t).foldr consRun rs = .plain (d :: t) :: rs :=
          ih (isChain_cons_congr h rfl) (List.cons_ne_nil d t) ht
        rw [htail, consRun, if_neg hc]

theorem runs_textOf {rs : List Run} (h : Maximal rs) : runs (textOf rs) = rs := by
  induction rs with
  | nil => rfl
  | cons r rs ih =>
    have hrest : (textOf rs).foldr consRun [] = rs := ih h.tail
    rw [textOf_cons, runs, List.foldr_append, hrest]
    exact foldr_consRun_text (h.proper r List.mem_cons_self) h.alternate

/-- The runs of a text are the only maximal ones that make it up. -/
theorem runs_eq_iff {text : List Char} {rs : List Run} :
    runs text = rs ↔ Maximal rs ∧ textOf rs = text := by
  constructor
  · rintro rfl
    exact ⟨maximal_runs text, textOf_runs text⟩
  · rintro ⟨h, rfl⟩
    exact runs_textOf h

/-! ## The last runs -/

theorem text_ne_nil {r : Run} (h : r.Proper) : r.text ≠ [] := by
  cases r with
  | tildes count =>
    rw [Run.text, Ne, List.replicate_eq_nil_iff]
    exact Nat.pos_iff_ne_zero.1 h
  | plain t => exact h.1

theorem ends_text_iff {r : Run} (h : r.Proper) : Ends r.text ↔ r.isTildes = true := by
  cases r with
  | tildes count =>
    have hne : count ≠ 0 := Nat.pos_iff_ne_zero.1 h
    simp [Ends, Run.text, Run.isTildes, List.getLast?_replicate, hne]
  | plain t =>
    refine iff_of_false (fun hends => h.2 (List.mem_of_getLast? hends)) ?_
    exact Bool.false_ne_true

/-- A text that is not empty ends like its last run. -/
theorem runs_cases (text : List Char) :
    (text = [] ∧ runs text = []) ∨
      ∃ rs r, runs text = rs ++ [r] ∧ text ≠ [] ∧ (Ends text ↔ r.isTildes = true) := by
  obtain ⟨hmax, htext⟩ := runs_eq_iff.1 (rfl : runs text = runs text)
  rcases List.eq_nil_or_concat' (runs text) with hnil | ⟨rs, r, hrs⟩
  · rw [hnil] at htext
    exact .inl ⟨htext.symm, hnil⟩
  · rw [hrs] at hmax htext
    have hproper : r.Proper := hmax.proper r (by simp)
    have hsplit : text = textOf rs ++ r.text := by
      rw [← htext, textOf_append]
      simp [textOf]
    refine .inr ⟨rs, r, hrs, ?_, ?_⟩
    · rw [hsplit]
      exact List.append_ne_nil_of_right_ne_nil _ (text_ne_nil hproper)
    · rw [hsplit, Ends, List.getLast?_append_of_ne_nil _ (text_ne_nil hproper)]
      exact ends_text_iff hproper

theorem not_ends_iff {text : List Char} {count : Nat} :
    ¬ Ends text ↔ ∀ r ∈ (runs text).getLast?, r.Alternates (.tildes count) := by
  obtain ⟨rfl, hnil⟩ | ⟨rs, r, hrs, -, hends⟩ := runs_cases text
  · simp [hnil, Ends]
  · simp [hrs, hends, Run.Alternates, Run.isTildes]

theorem closesRun_iff {text run : List Char} :
    ClosesRun text ↔ ∀ r ∈ (runs text).getLast?, r.Alternates (.plain run) := by
  obtain ⟨rfl, hnil⟩ | ⟨rs, r, hrs, hne, hends⟩ := runs_cases text
  · simp [hnil, ClosesRun]
  · simp [hrs, hends, hne, ClosesRun, Run.Alternates, Run.isTildes]

theorem runs_append_iff {text front : List Char} {r s : Run} :
    runs text = runs front ++ [r, s] ↔
      text = front ++ r.text ++ s.text ∧ r.Proper ∧ s.Proper ∧ r.Alternates s ∧
        ∀ q ∈ (runs front).getLast?, q.Alternates r := by
  have htext : textOf [r, s] = r.text ++ s.text := by simp [textOf]
  rw [runs_eq_iff, maximal_append_iff, textOf_append, textOf_runs, htext, List.append_assoc]
  constructor
  · rintro ⟨⟨-, hmax, hedge⟩, rfl⟩
    exact ⟨rfl, hmax.proper r (by simp), hmax.proper s (by simp),
      (List.isChain_cons_cons.1 hmax.alternate).1, fun q hq => hedge q hq r rfl⟩
  · rintro ⟨rfl, hr, hs, halternate, hedge⟩
    refine ⟨⟨maximal_runs front, ⟨by simp [hr, hs], ?_⟩, ?_⟩, rfl⟩
    · exact List.isChain_cons_cons.2 ⟨halternate, .singleton s⟩
    · simpa using hedge

/-- The options slot is a run of other characters and a last run of one tilde. -/
theorem optionsSlot?_eq_some_iff_runs {text rest : List Char} {b : Bool} :
    optionsSlot? text = some (b, rest) ↔
      ∃ options, runs text = runs rest ++ [.plain options, .tildes 1] ∧
        b = decide (options = unknownWord) := by
  rw [optionsSlot?_eq_some_iff]
  refine exists_congr fun options => ?_
  rw [runs_append_iff, ← closesRun_iff]
  constructor
  · rintro ⟨htext, hne, htilde, hcloses, hb⟩
    exact ⟨⟨htext, ⟨hne, htilde⟩, Nat.one_pos, Bool.noConfusion, hcloses⟩, hb⟩
  · rintro ⟨⟨htext, ⟨hne, htilde⟩, -, -, hcloses⟩, hb⟩
    exact ⟨htext, hne, htilde, hcloses, hb⟩

/-- The suffix is a run of one tilde and the last run `unknown`. -/
theorem unknownSuffix?_eq_some_iff_runs {text rest : List Char} :
    unknownSuffix? text = some rest ↔
      runs text = runs rest ++ [.tildes 1, .plain unknownWord] := by
  rw [unknownSuffix?_eq_some_iff, runs_append_iff, ← not_ends_iff]
  constructor
  · rintro ⟨rfl, hends⟩
    exact ⟨by simp [Run.text], Nat.one_pos, ⟨by decide, tilde_not_mem_unknownWord⟩,
      Bool.noConfusion, hends⟩
  · rintro ⟨rfl, -, -, -, hends⟩
    exact ⟨by simp [Run.text], hends⟩

end FacetSearch.Tilde
