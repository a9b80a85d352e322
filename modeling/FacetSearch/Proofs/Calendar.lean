import Mathlib.Tactic.IntervalCases
import FacetSearch.Week

/-!
# Counting days

The calendar goes from a day to the next of the month, from the last day of a month to the first of
the month behind it, and from the last of December to the first of January (`Day.IsNext`). Each of
these steps raises `Day.ordinal` by one, and no two days have one ordinal. So the difference of two
ordinals counts the days from one day to the other (`Day.after_iff`), a day is not later than
another exactly if its ordinal is not larger (`Day.notLater_iff`), and two days are among the seven
that a Monday begins exactly if their ordinals have one quotient by seven (`Day.sameWeek_iff`).
-/

namespace FacetSearch

/-! ## Months and years -/

section Months

variable (year : Nat) {month : Nat}

/-- Thirty days have April, June, September and November. -/
theorem daysInMonth_eq (hlow : 1 ≤ month) (hhigh : month ≤ 12) :
    daysInMonth year month =
      if month = 2 then (if isLeapYear year then 29 else 28)
      else if month = 4 ∨ month = 6 ∨ month = 9 ∨ month = 11 then 30 else 31 := by
  unfold daysInMonth daysBeforeMonth
  generalize isLeapYear year = leap
  interval_cases month <;> cases leap <;> rfl

theorem daysInMonth_pos (hlow : 1 ≤ month) (hhigh : month ≤ 12) : 1 ≤ daysInMonth year month := by
  rw [daysInMonth_eq year hlow hhigh]
  split <;> split <;> omega

theorem daysBeforeMonth_succ (hlow : 1 ≤ month) (hhigh : month ≤ 12) :
    daysBeforeMonth year (month + 1) = daysBeforeMonth year month + daysInMonth year month := by
  have hpos := daysInMonth_pos year hlow hhigh
  unfold daysInMonth at hpos ⊢
  omega

theorem daysBeforeMonth_mono {later : Nat} (hlow : 1 ≤ month) (h : month ≤ later)
    (hhigh : later ≤ 13) : daysBeforeMonth year month ≤ daysBeforeMonth year later := by
  induction later, h using Nat.le_induction with
  | base => exact Nat.le_refl _
  | succ later h ih =>
    have hstep := daysBeforeMonth_succ year (show 1 ≤ later by omega) (by omega)
    have := ih (by omega)
    omega

theorem daysBeforeMonth_thirteen :
    daysBeforeMonth year 13 = if isLeapYear year then 366 else 365 := by
  unfold daysBeforeMonth
  cases isLeapYear year <;> rfl

variable {year}

/-- A year ends where the next one begins. -/
theorem daysBeforeYear_succ (h : 1 ≤ year) :
    daysBeforeYear (year + 1) = daysBeforeYear year + daysBeforeMonth year 13 := by
  obtain ⟨before, rfl⟩ : ∃ before, year = before + 1 := ⟨year - 1, by omega⟩
  -- Each of the three counts of leap years grows just in the years that it counts.
  have hfour : (before + 1) / 4 = before / 4 + if 4 ∣ before + 1 then 1 else 0 := Nat.succ_div
  have hhundred : (before + 1) / 100 = before / 100 + if 100 ∣ before + 1 then 1 else 0 :=
    Nat.succ_div
  have hfourHundred : (before + 1) / 400 = before / 400 + if 400 ∣ before + 1 then 1 else 0 :=
    Nat.succ_div
  have hle : before / 100 ≤ before * 365 := by omega
  rw [daysBeforeMonth_thirteen]
  simp only [daysBeforeYear, isLeapYear, Nat.add_sub_cancel, decide_eq_true_eq]
  split_ifs at hfour hhundred hfourHundred ⊢ <;> omega

theorem daysBeforeYear_add_le (h : 1 ≤ year) :
    daysBeforeYear year + 365 ≤ daysBeforeYear (year + 1) := by
  rw [daysBeforeYear_succ h, daysBeforeMonth_thirteen]
  split <;> omega

theorem daysBeforeYear_mono {later : Nat} (hpos : 1 ≤ year) (h : year ≤ later) :
    daysBeforeYear year ≤ daysBeforeYear later := by
  induction later, h using Nat.le_induction with
  | base => exact Nat.le_refl _
  | succ later h ih =>
    have hstep := daysBeforeYear_add_le (show 1 ≤ later by omega)
    omega

end Months

namespace Day

variable {d e : Day}

theorem bounds (d : Day) : 1 ≤ d.year ∧ d.year ≤ lastYear ∧ 1 ≤ d.month ∧ d.month ≤ 12 ∧
    1 ≤ d.day ∧ d.day ≤ daysInMonth d.year d.month := by
  simpa [isDay, and_assoc] using d.valid

/-- A day comes before the first of the next month. -/
theorem ordinal_lt_month (d : Day) :
    d.ordinal < daysBeforeYear d.year + daysBeforeMonth d.year (d.month + 1) := by
  obtain ⟨-, -, hlow, hhigh, hday, hlast⟩ := d.bounds
  have hstep := daysBeforeMonth_succ d.year hlow hhigh
  unfold ordinal
  omega

/-- A day comes before the first of the next year. -/
theorem ordinal_lt_year (d : Day) : d.ordinal < daysBeforeYear (d.year + 1) := by
  obtain ⟨hyear, -, hlow, hhigh, -, -⟩ := d.bounds
  have hmonth := d.ordinal_lt_month
  have hend := daysBeforeMonth_mono d.year (show 1 ≤ d.month + 1 by omega)
    (show d.month + 1 ≤ 13 by omega) (Nat.le_refl 13)
  rw [daysBeforeYear_succ hyear]
  omega

theorem daysBeforeYear_le_ordinal (d : Day) : daysBeforeYear d.year ≤ d.ordinal := by
  unfold ordinal
  omega

theorem ordinal_lt_of_year_lt (h : d.year < e.year) : d.ordinal < e.ordinal :=
  calc d.ordinal < daysBeforeYear (d.year + 1) := d.ordinal_lt_year
    _ ≤ daysBeforeYear e.year := daysBeforeYear_mono (by omega) h
    _ ≤ e.ordinal := e.daysBeforeYear_le_ordinal

theorem ordinal_lt_of_month_lt (hyear : d.year = e.year) (h : d.month < e.month) :
    d.ordinal < e.ordinal := by
  obtain ⟨-, -, -, hhigh, -, -⟩ := e.bounds
  have hmonth := d.ordinal_lt_month
  have hle := daysBeforeMonth_mono d.year (show 1 ≤ d.month + 1 by omega) h (by omega)
  have hordinal : e.ordinal =
      daysBeforeYear e.year + daysBeforeMonth e.year e.month + (e.day - 1) := rfl
  rw [← hyear] at hordinal
  omega

theorem ordinal_lt_of_day_lt (hyear : d.year = e.year) (hmonth : d.month = e.month)
    (h : d.day < e.day) : d.ordinal < e.ordinal := by
  obtain ⟨-, -, -, -, hday, -⟩ := d.bounds
  unfold ordinal
  rw [hyear, hmonth]
  omega

/-- The day is the other one or comes before it. -/
def NotLater (d e : Day) : Prop :=
  d.year < e.year ∨ d.year = e.year ∧ (d.month < e.month ∨ d.month = e.month ∧ d.day ≤ e.day)

theorem notLater_iff : d.NotLater e ↔ d.ordinal ≤ e.ordinal := by
  unfold NotLater
  rcases Nat.lt_trichotomy d.year e.year with hyear | hyear | hyear
  · have := ordinal_lt_of_year_lt hyear
    omega
  · rcases Nat.lt_trichotomy d.month e.month with hmonth | hmonth | hmonth
    · have := ordinal_lt_of_month_lt hyear hmonth
      omega
    · rcases Nat.lt_trichotomy d.day e.day with hday | hday | hday
      · have := ordinal_lt_of_day_lt hyear hmonth hday
        omega
      · have : d.ordinal = e.ordinal := by rw [ordinal, ordinal, hyear, hmonth, hday]
        omega
      · have := ordinal_lt_of_day_lt hyear.symm hmonth.symm hday
        omega
    · have := ordinal_lt_of_month_lt hyear.symm hmonth
      omega
  · have := ordinal_lt_of_year_lt hyear
    omega

theorem ordinal_injective (h : d.ordinal = e.ordinal) : d = e := by
  have hle : d.NotLater e := notLater_iff.2 (Nat.le_of_eq h)
  have hge : e.NotLater d := notLater_iff.2 (Nat.le_of_eq h.symm)
  unfold NotLater at hle hge
  cases d
  cases e
  simp only at hle hge
  simp only [Day.mk.injEq]
  omega

/-! ## From day to day -/

/-- The second day is the next one: in the month, or the first of the next month, or the first of
January. -/
inductive IsNext (d e : Day) : Prop where
  | day (hyear : e.year = d.year) (hmonth : e.month = d.month) (hday : e.day = d.day + 1)
  | month (hlast : d.day = daysInMonth d.year d.month) (hyear : e.year = d.year)
      (hmonth : e.month = d.month + 1) (hday : e.day = 1)
  | year (hlast : d.month = 12 ∧ d.day = 31) (hyear : e.year = d.year + 1) (hmonth : e.month = 1)
      (hday : e.day = 1)

/-- The second day comes so many days after the first. -/
inductive After : Nat → Day → Day → Prop where
  | zero (d : Day) : After 0 d d
  | succ {n : Nat} {d e f : Day} : IsNext d e → After n e f → After (n + 1) d f

theorem IsNext.ordinal_eq (h : d.IsNext e) : e.ordinal = d.ordinal + 1 := by
  obtain ⟨hpos, -, hlow, hhigh, hfirst, -⟩ := d.bounds
  unfold ordinal
  cases h with
  | day hyear hmonth hday =>
    rw [hyear, hmonth, hday]
    omega
  | month hlast hyear hmonth hday =>
    rw [hyear, hmonth, hday, daysBeforeMonth_succ _ hlow hhigh]
    omega
  | year hlast hyear hmonth hday =>
    have hdecember :
        daysBeforeMonth d.year 13 = daysBeforeMonth d.year 12 + daysInMonth d.year 12 :=
      daysBeforeMonth_succ _ (by decide) (by decide)
    have hdays : daysInMonth d.year 12 = 31 := daysInMonth_eq _ (by decide) (by decide)
    have hjanuary : daysBeforeMonth (d.year + 1) 1 = 0 := rfl
    rw [hyear, hmonth, hday, hlast.1, hlast.2, daysBeforeYear_succ hpos]
    omega

theorem isDay_of_bounds {year month day : Nat} (hyear : 1 ≤ year ∧ year ≤ lastYear)
    (hmonth : 1 ≤ month ∧ month ≤ 12) (hday : 1 ≤ day ∧ day ≤ daysInMonth year month) :
    isDay year month day = true := by
  simp [isDay, hyear, hmonth, hday]

/-- A day that is not the last of the calendar has a next one. -/
theorem exists_isNext (h : d.ordinal < e.ordinal) : ∃ f, d.IsNext f := by
  obtain ⟨hpos, hyear, hlow, hhigh, hfirst, hlast⟩ := d.bounds
  have hdecember (year : Nat) : daysInMonth year 12 = 31 := daysInMonth_eq _ (by decide) (by decide)
  rcases Nat.lt_or_ge d.day (daysInMonth d.year d.month) with hday | hday
  · exact ⟨⟨d.year, d.month, d.day + 1,
      isDay_of_bounds ⟨hpos, hyear⟩ ⟨hlow, hhigh⟩ ⟨by omega, hday⟩⟩, .day rfl rfl rfl⟩
  have hend : d.day = daysInMonth d.year d.month := by omega
  rcases Nat.lt_or_ge d.month 12 with hmonth | hmonth
  · have hnext := daysInMonth_pos d.year (show 1 ≤ d.month + 1 by omega) hmonth
    exact ⟨⟨d.year, d.month + 1, 1,
      isDay_of_bounds ⟨hpos, hyear⟩ ⟨by omega, hmonth⟩ ⟨Nat.le_refl 1, hnext⟩⟩,
      .month hend rfl rfl rfl⟩
  have htwelve : d.month = 12 := by omega
  rw [htwelve, hdecember] at hend
  by_cases hbefore : d.year < lastYear
  · exact ⟨⟨d.year + 1, 1, 1, isDay_of_bounds ⟨by omega, hbefore⟩ (by decide)
      ⟨Nat.le_refl 1, daysInMonth_pos _ (by decide) (by decide)⟩⟩,
      .year ⟨htwelve, hend⟩ rfl rfl rfl⟩
  · -- Behind the last day of the last year there is none.
    have hnone : e.NotLater d := by
      obtain ⟨-, heyear, -, hemonth, -, heday⟩ := e.bounds
      unfold NotLater
      by_cases hsame : e.month = 12
      · rw [hsame, hdecember] at heday
        omega
      · omega
    have := notLater_iff.1 hnone
    omega

theorem After.ordinal_eq {n : Nat} (h : After n d e) : e.ordinal = d.ordinal + n := by
  induction h with
  | zero => rfl
  | succ hnext _ ih =>
    have := hnext.ordinal_eq
    omega

/-- The calendar leaves out no number: the days run on as the ordinals do. -/
theorem after_iff {n : Nat} : After n d e ↔ e.ordinal = d.ordinal + n := by
  refine ⟨After.ordinal_eq, fun h => ?_⟩
  induction n generalizing d with
  | zero =>
    rw [ordinal_injective h]
    exact .zero d
  | succ n ih =>
    obtain ⟨f, hnext⟩ := exists_isNext (show d.ordinal < e.ordinal by omega)
    have hf := hnext.ordinal_eq
    exact .succ hnext (ih (by omega))

/-! ## Mondays -/

/-- The day that the calendar begins with. -/
def first : Day := ⟨1, 1, 1, rfl⟩

theorem exists_ordinal_eq {n : Nat} (h : n ≤ d.ordinal) : ∃ e : Day, e.ordinal = n := by
  induction n with
  | zero => exact ⟨first, rfl⟩
  | succ n ih =>
    obtain ⟨e, rfl⟩ := ih (by omega)
    obtain ⟨f, hnext⟩ := exists_isNext h
    exact ⟨f, hnext.ordinal_eq⟩

/-- The calendar begins with a Monday, and from it to another there are whole weeks. -/
def IsMonday (d : Day) : Prop := ∃ weeks, After (7 * weeks) first d

/-- The two days are among the seven that a Monday begins. -/
def SameWeek (d e : Day) : Prop :=
  ∃ monday m n, IsMonday monday ∧ m < 7 ∧ n < 7 ∧ After m monday d ∧ After n monday e

theorem isMonday_iff : d.IsMonday ↔ 7 ∣ d.ordinal := by
  have hfirst : first.ordinal = 0 := rfl
  unfold IsMonday
  simp only [after_iff, hfirst, Nat.zero_add]
  rfl

example : IsMonday ⟨2024, 1, 1, rfl⟩ := isMonday_iff.2 (by decide)

theorem sameWeek_iff : d.SameWeek e ↔ d.ordinal / 7 = e.ordinal / 7 := by
  constructor
  · rintro ⟨monday, m, n, hmonday, hm, hn, hd, he⟩
    have hd := hd.ordinal_eq
    have he := he.ordinal_eq
    rw [isMonday_iff] at hmonday
    omega
  · intro h
    obtain ⟨monday, hmonday⟩ := exists_ordinal_eq (show d.ordinal / 7 * 7 ≤ d.ordinal by omega)
    refine ⟨monday, d.ordinal % 7, e.ordinal % 7, isMonday_iff.2 ⟨d.ordinal / 7, by omega⟩,
      Nat.mod_lt _ (by decide), Nat.mod_lt _ (by decide), after_iff.2 ?_, after_iff.2 ?_⟩
    · omega
    · omega

end Day

end FacetSearch
