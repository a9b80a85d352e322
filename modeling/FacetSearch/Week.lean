import FacetSearch.Error

/-!
# Calendar weeks

Weeks run from Monday to Sunday and belong to the year that has their Thursday. A day is counted
from the Monday that begins the first week of year 1; the week of a day is the pair of its year and
its number in that year, and `Week.seed` writes the two behind each other, the number with two
digits. Days of one week have one seed.
-/

namespace FacetSearch

/-- The last year that days are told in. -/
def lastYear : Nat := 9999

def isLeapYear (year : Nat) : Bool :=
  year % 4 = 0 ∧ (year % 100 ≠ 0 ∨ year % 400 = 0)

/-- The days before the first of January. -/
def daysBeforeYear (year : Nat) : Nat :=
  let y := year - 1
  y * 365 + y / 4 - y / 100 + y / 400

/-- The days of the year before the first of a month; month 13 is the next January. -/
def daysBeforeMonth (year month : Nat) : Nat :=
  let ordinary := [0, 31, 59, 90, 120, 151, 181, 212, 243, 273, 304, 334, 365].getD (month - 1) 0
  if 2 < month && isLeapYear year then ordinary + 1 else ordinary

def daysInMonth (year month : Nat) : Nat :=
  daysBeforeMonth year (month + 1) - daysBeforeMonth year month

theorem daysBeforeMonth_le (year month : Nat) : daysBeforeMonth year month ≤ 366 := by
  have : [0, 31, 59, 90, 120, 151, 181, 212, 243, 273, 304, 334, 365].getD (month - 1) 0 ≤ 365 := by
    rcases Nat.lt_or_ge (month - 1) 13 with h | h
    · revert h
      generalize month - 1 = k
      revert k
      decide
    · rw [List.getD_eq_getElem?_getD, List.getElem?_eq_none h]
      decide
  simp only [daysBeforeMonth]
  split <;> omega

theorem daysInMonth_le (year month : Nat) : daysInMonth year month ≤ 366 :=
  Nat.le_trans (Nat.sub_le ..) (daysBeforeMonth_le ..)

/-- The calendar has the day. -/
def isDay (year month day : Nat) : Bool :=
  1 ≤ year && year ≤ lastYear && 1 ≤ month && month ≤ 12 && 1 ≤ day && day ≤ daysInMonth year month

/-- A day of the Gregorian calendar, which is carried back to year 1. -/
structure Day where
  year : Nat
  month : Nat
  day : Nat
  valid : isDay year month day = true
  deriving DecidableEq, Repr

namespace Day

/-- The day of three numbers, unless the calendar has no such day. -/
def ofNumbers (year month day : Int) : Except Error Day :=
  if h : isDay year.toNat month.toNat day.toNat then .ok ⟨_, _, _, h⟩
  else .error (.fault .notATime)

theorem ofNumbers_fields (d : Day) : ofNumbers d.year d.month d.day = .ok d := by
  simp [ofNumbers, d.valid]

/-- The days since the first of January of year 1, which was a Monday. -/
def ordinal (d : Day) : Nat :=
  daysBeforeYear d.year + daysBeforeMonth d.year d.month + (d.day - 1)

/-- The Thursday of the day's week. -/
def thursday (d : Day) : Nat := d.ordinal / 7 * 7 + 3

end Day

/-- A week, numbered within the year of its Thursday. -/
structure Week where
  year : Nat
  number : Nat
  deriving DecidableEq, Repr

/-- The week of a day: its Thursday lies in the year of the day, the one before, or the next. -/
def Week.ofDay (d : Day) : Week :=
  let thursday := d.thursday
  let year :=
    if thursday < daysBeforeYear d.year then d.year - 1
    else if thursday < daysBeforeYear (d.year + 1) then d.year
    else d.year + 1
  ⟨year, (thursday - daysBeforeYear year) / 7 + 1⟩

/-- The year and the number, which has two digits. -/
def Week.seed (w : Week) : String :=
  toString w.year ++ (if w.number < 10 then "0" else "") ++ toString w.number

end FacetSearch
