import Mathlib
import FacetSearch.Clock
import FacetSearch.Proofs.Calendar
import FacetSearch.Search.Seed

/-!
# The seed of a week

A week belongs to the year that its Thursday falls into (`Week.thursday_mem_year`), and a year has
at most 53 weeks. So two digits are enough for the number, and the seed is the decimal of a hundred
times the year and the number (`Week.seed_eq`), which grows from week to week (`Week.index_le_iff`).
Two clocks give one seed exactly if they show days of one week, and no smaller seed comes later
(`SeedSource.current_weekly`).
-/

namespace FacetSearch

namespace Week

variable {d e : Day}

/-- The year of a week is the one that its Thursday falls into. -/
theorem thursday_mem_year (d : Day) :
    1 ≤ (ofDay d).year ∧ daysBeforeYear (ofDay d).year ≤ d.thursday ∧
      d.thursday < daysBeforeYear ((ofDay d).year + 1) := by
  obtain ⟨hpos, -⟩ := d.bounds
  have hlow := d.daysBeforeYear_le_ordinal
  have hhigh := d.ordinal_lt_year
  have hthursday : d.thursday = d.ordinal / 7 * 7 + 3 := rfl
  have hyear : (ofDay d).year =
      if d.thursday < daysBeforeYear d.year then d.year - 1
      else if d.thursday < daysBeforeYear (d.year + 1) then d.year
      else d.year + 1 := rfl
  rw [hyear]
  split_ifs with hbefore hwithin
  · -- Three days at most lie between the Thursday and the day, so the year before is long enough.
    have hfirst : daysBeforeYear 1 = 0 := rfl
    have hne : d.year ≠ 1 := fun h => by
      rw [h, hfirst] at hbefore
      omega
    have hlength := daysBeforeYear_add_le (show 1 ≤ d.year - 1 by omega)
    rw [Nat.sub_add_cancel hpos] at hlength ⊢
    omega
  · omega
  · have hlength := daysBeforeYear_add_le (show 1 ≤ d.year + 1 by omega)
    omega

theorem number_eq (d : Day) :
    (ofDay d).number = (d.thursday - daysBeforeYear (ofDay d).year) / 7 + 1 := rfl

/-- A year has at most 53 weeks. -/
theorem number_le (d : Day) : (ofDay d).number ≤ 53 := by
  obtain ⟨hpos, hlow, hhigh⟩ := thursday_mem_year d
  have hlength := daysBeforeYear_succ hpos
  have hdays := daysBeforeMonth_le (ofDay d).year 13
  rw [number_eq]
  omega

theorem year_le_of_thursday_le (h : d.thursday ≤ e.thursday) : (ofDay d).year ≤ (ofDay e).year := by
  obtain ⟨-, hlow, -⟩ := thursday_mem_year d
  obtain ⟨-, -, hhigh⟩ := thursday_mem_year e
  by_contra hnot
  have := daysBeforeYear_mono (show 1 ≤ (ofDay e).year + 1 by omega)
    (show (ofDay e).year + 1 ≤ (ofDay d).year by omega)
  omega

/-- The number that the seed is the decimal of. -/
def index (w : Week) : Nat := 100 * w.year + w.number

theorem index_lt_of_thursday_lt (h : d.thursday < e.thursday) :
    (ofDay d).index < (ofDay e).index := by
  have hyear := year_le_of_thursday_le (Nat.le_of_lt h)
  have hnumber := number_le d
  unfold index
  rcases Nat.lt_or_eq_of_le hyear with hless | hsame
  · omega
  · obtain ⟨-, hlow, -⟩ := thursday_mem_year d
    have hd : d.thursday = d.ordinal / 7 * 7 + 3 := rfl
    have he : e.thursday = e.ordinal / 7 * 7 + 3 := rfl
    rw [number_eq, number_eq, ← hsame]
    omega

theorem ofDay_congr (h : d.thursday = e.thursday) : ofDay d = ofDay e := by
  have hyear : (ofDay d).year = (ofDay e).year :=
    Nat.le_antisymm (year_le_of_thursday_le (Nat.le_of_eq h))
      (year_le_of_thursday_le (Nat.le_of_eq h.symm))
  have hnumber : (ofDay d).number = (ofDay e).number := by
    rw [number_eq, number_eq, h, hyear]
  calc ofDay d = ⟨(ofDay d).year, (ofDay d).number⟩ := rfl
    _ = ofDay e := by rw [hyear, hnumber]

/-- Weeks are numbered in the order of their Thursdays. -/
theorem index_le_iff : (ofDay d).index ≤ (ofDay e).index ↔ d.thursday ≤ e.thursday := by
  constructor
  · intro hindex
    by_contra hnot
    have := index_lt_of_thursday_lt (Nat.lt_of_not_le hnot)
    omega
  · intro h
    rcases Nat.lt_or_eq_of_le h with hless | hsame
    · exact Nat.le_of_lt (index_lt_of_thursday_lt hless)
    · rw [ofDay_congr hsame]

theorem index_eq_iff_sameWeek : (ofDay d).index = (ofDay e).index ↔ d.SameWeek e := by
  have hd : d.thursday = d.ordinal / 7 * 7 + 3 := rfl
  have he : e.thursday = e.ordinal / 7 * 7 + 3 := rfl
  rw [Day.sameWeek_iff, Nat.le_antisymm_iff, index_le_iff, index_le_iff]
  omega

theorem index_le_of_notLater (h : d.NotLater e) : (ofDay d).index ≤ (ofDay e).index := by
  rw [Day.notLater_iff] at h
  rw [index_le_iff]
  unfold Day.thursday
  omega

/-- The number has two digits, which move the year by two places. -/
theorem seed_eq {w : Week} (hyear : 1 ≤ w.year) (hnumber : w.number < 100) :
    w.seed = toString w.index := by
  have happend {m n : Nat} (hm : 0 < m) (hn : n < 10) :
      Nat.toDigits 10 m ++ Nat.toDigits 10 n = Nat.toDigits 10 (10 * m + n) :=
    Nat.toDigits_append_toDigits (by decide) hm hn
  unfold seed index
  apply String.toList_inj.1
  simp only [Nat.toString_eq_repr, String.toList_append, Nat.toList_repr]
  by_cases hone : w.number < 10
  · have hzero : "0".toList = Nat.toDigits 10 0 := rfl
    rw [if_pos hone, hzero, happend hyear (by decide), happend (by omega) hone]
    congr 1
    omega
  · have htwo : Nat.toDigits 10 w.number =
        Nat.toDigits 10 (w.number / 10) ++ Nat.toDigits 10 (w.number % 10) := by
      rw [happend (by omega) (by omega), Nat.div_add_mod]
    rw [if_neg hone, String.toList_empty, List.append_nil, htwo, ← List.append_assoc,
      happend hyear (by omega), happend (by omega) (by omega)]
    congr 1
    omega

theorem seed_ofDay (d : Day) : (ofDay d).seed = toString (ofDay d).index := by
  have hnumber := number_le d
  exact seed_eq (thursday_mem_year d).1 (by omega)

end Week

/-- Two clocks that show days give seeds that are decimals. It is the same seed exactly if the days
lie in one week, and the seed of a day that is not later reads as a number that is not larger. What a
clock shows is a calendar day and a time without a time zone, so "not later" compares calendar days
and not the moments at which clocks in different places show them. -/
theorem SeedSource.current_weekly {reading reading' : List Value} {d e : Day}
    (hd : Day.ofReading reading = .ok d) (he : Day.ofReading reading' = .ok e) :
    ∃ (s t : String) (m n : Nat),
      (weekly (Day.ofReading reading)).current = .ok (.str s) ∧
      (weekly (Day.ofReading reading')).current = .ok (.str t) ∧
      s.toNat? = some m ∧ t.toNat? = some n ∧
      (s = t ↔ d.SameWeek e) ∧ (d.NotLater e → m ≤ n) := by
  have hread (d : Day) : (Week.ofDay d).seed.toNat? = some (Week.ofDay d).index := by
    rw [Week.seed_ofDay]
    exact Nat.toNat?_repr _
  rw [hd, he]
  refine ⟨_, _, _, _, rfl, rfl, hread d, hread e, ?_, Week.index_le_of_notLater⟩
  rw [Week.seed_ofDay, Week.seed_ofDay, ← Week.index_eq_iff_sameWeek]
  exact Nat.repr_inj

/-- The year 2020 ends on the Thursday of its 53rd week, which takes in the first three days of
January; on the fourth there is another seed. -/
theorem SeedSource.current_weekly_newYear :
    ∃ s t u : String, ∃ m n : Nat,
      (weekly (Day.ofReading [.ofInt 2020, .ofInt 12, .ofInt 31, .ofInt 23, .ofInt 59])).current =
        .ok (.str s) ∧
      (weekly (Day.ofReading [.ofInt 2021, .ofInt 1, .ofInt 3])).current = .ok (.str t) ∧
      (weekly (Day.ofReading [.ofInt 2021, .ofInt 1, .ofInt 4])).current = .ok (.str u) ∧
      s = t ∧ t ≠ u ∧ t.toNat? = some m ∧ u.toNat? = some n ∧ m ≤ n := by
  have hthursday : Day.ofReading [.ofInt 2020, .ofInt 12, .ofInt 31, .ofInt 23, .ofInt 59] =
      .ok ⟨2020, 12, 31, rfl⟩ := rfl
  have hsunday : Day.ofReading [.ofInt 2021, .ofInt 1, .ofInt 3] = .ok ⟨2021, 1, 3, rfl⟩ := rfl
  have hmonday : Day.ofReading [.ofInt 2021, .ofInt 1, .ofInt 4] = .ok ⟨2021, 1, 4, rfl⟩ := rfl
  obtain ⟨s, t, -, -, hs, ht, -, -, hsame, -⟩ := current_weekly hthursday hsunday
  obtain ⟨t', u, m, n, ht', hu, hm, hn, hother, hle⟩ := current_weekly hsunday hmonday
  obtain rfl : t' = t := by
    rw [ht] at ht'
    injection ht' with h
    injection h with h
    exact h.symm
  refine ⟨s, t', u, m, n, hs, ht, hu, hsame.2 ?_, fun h => ?_, hm, hn, hle ?_⟩
  · rw [Day.sameWeek_iff]
    decide
  · have hweek := hother.1 h
    rw [Day.sameWeek_iff] at hweek
    revert hweek
    decide
  · unfold Day.NotLater
    decide

end FacetSearch
