import FacetSearch.Number.Rounding

/-!
# Doubles in decimal

A double is written from a whole number of significant digits and the exponent of its leading
digit. The digits are found in exact arithmetic: `significantDigits` rounds to a fixed number of
them, `shortestDigits` takes the fewest that read back as the same double and, of those, the
nearest. A `DecimalLayout` says how digits become text. Two layouts are in use: a boost in a field
list has six digits (`boostText`), and a double inside a text has as few as it can
(`shortestText`). `scientificText` always has the leading digit in front of the point.
-/

namespace FacetSearch

/-- `places` significant digits, written as one number, and the exponent of the first of them. -/
structure Significant where
  digits : Nat
  places : Nat
  exponent : Int

/-- The exponent of the leading decimal digit of `n / d`. -/
def decimalExponent (n d : Nat) : Int :=
  let e : Int := (Nat.toDigits 10 n).length - (Nat.toDigits 10 d).length
  if belowPower 10 n d e then e - 1 else e

/-- A positive quotient rounded to a number of significant digits, a tie going to the even one. -/
def significantDigits (places n d : Nat) : Significant :=
  let e := decimalExponent n d
  let q := quotientAt 10 n d (e + 1 - places)
  let c := halfEven q.1 q.2
  if c < Nat.pow 10 places then ⟨c, places, e⟩ else ⟨c / 10, places, e + 1⟩

/-- The two neighbours of a quotient among the numbers of so many digits, the nearer one first. -/
def neighbours (places n d : Nat) : List Significant :=
  let e := decimalExponent n d
  let q := quotientAt 10 n d (e + 1 - places)
  let low : Significant := ⟨q.1 / q.2, places, e⟩
  let high : Significant := ⟨q.1 / q.2 + 1, places, e⟩
  let twice := 2 * (q.1 % q.2)
  if twice < q.2 ∨ (twice = q.2 ∧ q.1 / q.2 % 2 = 0) then [low, high] else [high, low]

namespace Significant

/-- The bits of the double nearest to the number written. -/
def bits? (s : Significant) : Option Nat :=
  let q := quotientAt 10 s.digits 1 (s.places - 1 - s.exponent)
  nearestBits? q.1 q.2

/-- The digits without zeros at their end, and the exponent of the first: a number that has grown
by a digit in rounding has its exponent one higher. -/
def trimmed (s : Significant) : List Char × Int :=
  let text := Nat.toDigits 10 s.digits
  ((text.reverse.dropWhile (· = '0')).reverse, s.exponent + text.length - s.places)

end Significant

/-- The fewest digits, at most 17, that read back as the double of the given bits. -/
def shortestDigits (n d bits : Nat) : Significant :=
  let readsBack (s : Significant) : Bool := s.bits? = some bits
  (((List.range 17).flatMap fun k => neighbours (k + 1) n d).find? readsBack).getD
    (significantDigits 17 n d)

/-- How significant digits are laid out. -/
structure DecimalLayout where
  /-- The exponents from this one on have no exponent mark, … -/
  positionalFrom : Int
  /-- … up to this one, excluded. -/
  positionalBelow : Int
  /-- A whole number without an exponent mark ends in a point and a zero. -/
  pointZero : Bool

/-- A field's boost: six significant digits, no exponent mark from 0.0001 to 999999. -/
def boostLayout : DecimalLayout := ⟨-4, 6, false⟩

/-- A double inside a text: no exponent mark from 0.0001 up to 10 ^ 16. -/
def textLayout : DecimalLayout := ⟨-4, 16, true⟩

/-- An exponent mark with a sign and two digits or more. -/
def exponentText (e : Int) : String :=
  let digits := toString e.natAbs
  (if e < 0 then "e-" else "e+") ++ (if digits.length < 2 then "0" ++ digits else digits)

/-- One digit, a point, the other digits, and the exponent. -/
def exponentForm (digits : List Char) (e : Int) : String :=
  match digits with
  | [] => exponentText e
  | [c] => String.ofList [c] ++ exponentText e
  | c :: rest => String.ofList (c :: '.' :: rest) ++ exponentText e

def positionalForm (pointZero : Bool) (digits : List Char) (e : Int) : String :=
  if e < 0 then
    "0." ++ String.ofList (List.replicate (-e - 1).toNat '0' ++ digits)
  else
    let whole := (e + 1).toNat
    if digits.length ≤ whole then
      String.ofList (digits ++ List.replicate (whole - digits.length) '0') ++
        (if pointZero then ".0" else "")
    else String.ofList (digits.take whole ++ '.' :: digits.drop whole)

def DecimalLayout.write (layout : DecimalLayout) (s : Significant) : String :=
  let (digits, e) := s.trimmed
  if layout.positionalFrom ≤ e ∧ e < layout.positionalBelow then
    positionalForm layout.pointZero digits e
  else exponentForm digits e

example : boostLayout.write ⟨150000, 6, 0⟩ = "1.5" := by decide +kernel

example : boostLayout.write ⟨100000, 6, 5⟩ = "100000" := by decide +kernel

example : boostLayout.write ⟨100000, 6, 6⟩ = "1e+06" := by decide +kernel

example : boostLayout.write ⟨100000, 6, -5⟩ = "1e-05" := by decide +kernel

example : textLayout.write ⟨2, 1, 0⟩ = "2.0" := by decide +kernel

example : textLayout.write ⟨1, 1, -4⟩ = "0.0001" := by decide +kernel

example : textLayout.write ⟨1, 1, 16⟩ = "1e+16" := by decide +kernel

/-- The sign bit of a double. -/
def isNegative (x : Float) : Bool := signPlace ≤ x.toBits.toNat

/-- A double, its sign in front, from a text for zero and a writer of positive quotients. -/
def signedText (zero : String) (positive : Nat → Nat → String) (x : Float) : String :=
  match Magnitude.ofFloat x with
  | .nan => "nan"
  | .posInf => "inf"
  | .negInf => "-inf"
  | .finite q =>
    (if isNegative x then "-" else "") ++
      (if q.num = 0 then zero else positive q.num.natAbs q.den)

/-- A boost as it stands behind a field name. -/
def boostText : Float → String :=
  signedText "0" fun n d => boostLayout.write (significantDigits 6 n d)

/-- A double in the fewest digits that read back. -/
def shortestText (x : Float) : String :=
  signedText "0.0" (fun n d => textLayout.write (shortestDigits n d (x.toBits.toNat % signPlace))) x

/-- A double with a fixed number of digits behind the point and an exponent. -/
def scientificText (places : Nat) : Float → String :=
  signedText (exponentForm (List.replicate (places + 1) '0') 0) fun n d =>
    let s := significantDigits (places + 1) n d
    exponentForm (Nat.toDigits 10 s.digits) s.exponent

end FacetSearch
