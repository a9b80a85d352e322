import FacetSearch.Error
import FacetSearch.Number.Exact

/-!
# Rounding to the nearest double

A double holds 53 binary digits. A rational becomes the double nearest to it, a tie going to the
even significand; a rational beyond the largest double by half a unit or more becomes none. Whole
numbers and quotients of whole numbers, of any size, are rounded this way once, at the end.
`halfEven` is the rounding of a quotient to a whole number that all of this rests on: it is off by
at most one half (`halfEven_near`).
-/

namespace FacetSearch

/-- The whole number nearest to `n / d`; of two equally near ones, the even one. -/
def halfEven (n d : Nat) : Nat :=
  if 2 * (n % d) < d then n / d
  else if d < 2 * (n % d) then n / d + 1
  else n / d + n / d % 2

theorem halfEven_near (n : Nat) {d : Nat} (hd : 0 < d) :
    2 * (d * halfEven n d) ≤ 2 * n + d ∧ 2 * n ≤ 2 * (d * halfEven n d) + d := by
  have hn := Nat.div_add_mod n d
  have hr := Nat.mod_lt n hd
  unfold halfEven
  split
  · omega
  · split
    · rw [Nat.mul_add]; omega
    · rcases Nat.mod_two_eq_zero_or_one (n / d) with h | h <;> rw [h, Nat.mul_add] <;> omega

theorem halfEven_of_dvd (k : Nat) {d : Nat} (hd : 0 < d) : halfEven (d * k) d = k := by
  simp [halfEven, Nat.mul_div_cancel_left k hd, hd]

/-- `n / d / base ^ e` as a quotient of whole numbers. -/
def quotientAt (base n d : Nat) (e : Int) : Nat × Nat :=
  if 0 ≤ e then (n, d * Nat.pow base e.toNat) else (n * Nat.pow base (-e).toNat, d)

/-- `n / d < base ^ e`. -/
def belowPower (base n d : Nat) (e : Int) : Bool :=
  (quotientAt base n d e).1 < (quotientAt base n d e).2

/-- The exponent of the leading binary digit of `n / d`. -/
def binaryExponent (n d : Nat) : Int :=
  let e : Int := n.log2 - d.log2
  if belowPower 2 n d e then e - 1 else e

/-- The bits of the double nearest to `n / d`, should it not be too large. -/
def nearestBits? (n d : Nat) : Option Nat :=
  if n = 0 then some 0
  else
    let e := max (binaryExponent n d - 52) (-1074)
    let q := quotientAt 2 n d e
    let bits := (e + 1074).toNat * exponentPlace + halfEven q.1 q.2
    if bits < 2047 * exponentPlace then some bits else none

/-- The double nearest to a rational, should it not be too large. -/
def nearestDouble? (q : Rat) : Option Float :=
  (nearestBits? q.num.natAbs q.den).map fun bits =>
    Float.ofBits (.ofNat (if q.num < 0 then signPlace + bits else bits))

namespace Number

/-- The double of a number: a whole number is rounded, a double stays what it is. -/
def toDouble : Number → Except Error Float
  | float x => .ok x
  | int n =>
    match nearestDouble? n with
    | some x => .ok x
    | none => .error (.fault .tooLarge)

/-- The quotient of two whole numbers, rounded once. -/
def quotient (a b : Int) : Except Error Float :=
  if b = 0 then .error (.fault .divisionByZero)
  else
    match nearestDouble? (a / b) with
    | some x => .ok x
    | none => .error (.fault .tooLarge)

/-- The whole part of a number, exactly. -/
def truncate : Number → Except Error Int
  | int n => .ok n
  | float x =>
    match Magnitude.ofFloat x with
    | .nan => .error (.fault .notAnInteger)
    | .negInf | .posInf => .error (.fault .tooLarge)
    | .finite q => .ok (q.num.tdiv q.den)

theorem truncate_int (n : Int) : (int n).truncate = .ok n := rfl

end Number

end FacetSearch
