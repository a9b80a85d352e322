import FacetSearch.Value
import FacetSearch.Week

/-!
# Reading a clock

A clock shows a row of numbers: year, month and day, and behind them as many as it likes of hour,
minute, second and microsecond; the last place would be that of a time zone and stays empty. So a
reading is a calendar day and a time of that day, in no time zone. `Day.ofReading` is the day that
such a row stands for. The numbers are read one by one before the calendar is asked, and those
behind the day have to be a time although the day does not depend on it.
-/

namespace FacetSearch

/-- A number on a clock: a whole one of 32 bits with its sign. -/
def Value.toDial (v : Value) : Except Error Int :=
  match v.number? with
  | some (.int n) =>
    if -0x80000000 ≤ n && n < 0x80000000 then .ok n else .error (.fault .tooLarge)
  | _ => .error (.fault .notNumeric)

/-- Hour, minute, second and microsecond, as far as they are shown, are those of a time of day. -/
def isTimeOfDay (dials : List Int) : Bool :=
  (dials.zip [24, 60, 60, 1000000]).all fun (n, stop) => 0 ≤ n && n < stop

/-- The day of the numbers on a clock. -/
def Day.ofDials : List Int → Except Error Day
  | year :: month :: day :: time => do
    let today ← Day.ofNumbers year month day
    if isTimeOfDay time then return today else throw (.fault .notATime)
  | _ => .error (.fault .notNumeric)

/-- The day that a clock shows. More than one number too many is seen before any is read, a single
one only behind the others. -/
def Day.ofReading (reading : List Value) : Except Error Day :=
  if 9 < reading.length then .error (.fault .notNumeric)
  else do
    let dials ← (reading.take 7).mapM Value.toDial
    if 8 < reading.length then throw (.fault .notNumeric)
    let today ← Day.ofDials dials
    if (reading.drop 7).all Value.isNull then return today else throw (.fault .notNumeric)

theorem Value.toDial_ofInt {n : Int} (low : -0x80000000 ≤ n) (high : n < 0x80000000) :
    (ofInt n).toDial = .ok n := by
  have h : (ofInt n).toDial =
      if -0x80000000 ≤ n && n < 0x80000000 then .ok n else .error (.fault .tooLarge) := rfl
  rw [h, if_pos (by simp [low, high])]

/-- The day of three numbers on a clock that shows no time. -/
theorem Day.ofReading_three {year month day : Int} (hy : (Value.ofInt year).toDial = .ok year)
    (hm : (Value.ofInt month).toDial = .ok month) (hd : (Value.ofInt day).toDial = .ok day) :
    ofReading [.ofInt year, .ofInt month, .ofInt day] = ofNumbers year month day := by
  have h : [Value.ofInt year, .ofInt month, .ofInt day].mapM Value.toDial =
      .ok [year, month, day] := by
    simp only [List.mapM_cons, List.mapM_nil, hy, hm, hd]
    rfl
  cases hn : ofNumbers year month day <;>
    simp [ofReading, h, ofDials, isTimeOfDay, hn, bind, Except.bind, pure, Except.pure]

/-- A clock that shows the three numbers of a day and no time shows that day. -/
theorem Day.ofReading_fields (d : Day) :
    ofReading [.ofInt d.year, .ofInt d.month, .ofInt d.day] = .ok d := by
  have h := d.valid
  simp only [isDay, Bool.and_eq_true, decide_eq_true_eq] at h
  have hl : lastYear = 9999 := rfl
  have hm := daysInMonth_le d.year d.month
  rw [ofReading_three (Value.toDial_ofInt (by omega) (by omega))
    (Value.toDial_ofInt (by omega) (by omega)) (Value.toDial_ofInt (by omega) (by omega)),
    ofNumbers_fields]

end FacetSearch
