/-!
# Numbers and what they stand for

A number is a whole number of any size or a double. Numbers of both kinds are compared by what
they stand for (`Magnitude`): a rational, an infinity, or nothing at all. A double stands for the
rational that its bits spell out, so comparing it with a whole number loses nothing. Not-a-number
equals nothing and precedes nothing.
-/

namespace FacetSearch

/-- Where the exponent of a double begins in its bits: the 52 bits below are the fraction. -/
def exponentPlace : Nat := Nat.pow 2 52

/-- Where the sign of a double stands in its bits: the 63 bits below are its size. -/
def signPlace : Nat := Nat.pow 2 63

/-- What a number stands for. -/
inductive Magnitude where
  | nan
  | negInf
  | finite (q : Rat)
  | posInf
  deriving DecidableEq

namespace Magnitude

/-- `significand * 2 ^ exponent`. -/
def scaled (significand : Nat) (exponent : Int) : Rat :=
  if 0 ≤ exponent then mkRat (significand * Nat.pow 2 exponent.toNat : Nat) 1
  else mkRat significand (Nat.pow 2 (-exponent).toNat)

/-- The value spelled out by the sign, the exponent and the significand of a double. -/
def ofFloat (x : Float) : Magnitude :=
  let bits : Nat := x.toBits.toNat
  let fraction : Nat := bits % exponentPlace
  let exponent : Nat := bits % signPlace / exponentPlace
  let negative := signPlace ≤ bits
  if exponent = 2047 then
    if fraction ≠ 0 then nan else if negative then negInf else posInf
  else
    let q :=
      if exponent = 0 then scaled fraction (-1074)
      else scaled (exponentPlace + fraction) (exponent - 1075)
    finite (if negative then -q else q)

def eqv : Magnitude → Magnitude → Bool
  | negInf, negInf => true
  | finite p, finite q => p == q
  | posInf, posInf => true
  | _, _ => false

def lt : Magnitude → Magnitude → Bool
  | nan, _ | _, nan => false
  | _, negInf => false
  | negInf, _ => true
  | posInf, _ => false
  | finite _, posInf => true
  | finite p, finite q => p < q

theorem eqv_iff {a b : Magnitude} : a.eqv b = true ↔ a = b ∧ a ≠ nan := by
  cases a <;> cases b <;> simp [eqv]

theorem lt_irrefl (a : Magnitude) : a.lt a = false := by
  cases a with
  | finite q => exact decide_eq_false Rat.lt_irrefl
  | _ => rfl

theorem lt_trans {a b c : Magnitude} (h : a.lt b = true) (h' : b.lt c = true) :
    a.lt c = true := by
  cases a <;> cases b <;> cases c <;> simp_all [lt]
  exact Rat.not_le.1 fun hc => Rat.not_le.2 h (Rat.le_trans (Rat.le_of_lt h') hc)

/-- Apart from not-a-number, of two magnitudes one precedes the other unless they are equal. -/
theorem lt_trichotomy {a b : Magnitude} (ha : a ≠ nan) (hb : b ≠ nan) :
    a.lt b = true ∨ a = b ∨ b.lt a = true := by
  cases a <;> cases b <;> simp_all [lt]
  rename_i p q
  rcases Rat.le_total (a := p) (b := q) with h | h
  · exact (Rat.le_iff_lt_or_eq.1 h).elim .inl fun e => .inr (.inl e)
  · exact (Rat.le_iff_lt_or_eq.1 h).elim (fun l => .inr (.inr l)) fun e => .inr (.inl e.symm)

end Magnitude

/-- A whole number of any size, or a double. -/
inductive Number where
  | int (n : Int)
  | float (x : Float)
  deriving DecidableEq

namespace Number

def magnitude : Number → Magnitude
  | int n => .finite n
  | float x => .ofFloat x

/-- Equal in value: `1` and `1.0` are, not-a-number never is. -/
def eqv (a b : Number) : Bool := a.magnitude.eqv b.magnitude

def lt (a b : Number) : Bool := a.magnitude.lt b.magnitude

def le (a b : Number) : Bool := a.lt b || a.eqv b

def isZero (a : Number) : Bool := a.eqv (.int 0)

def isNaN (a : Number) : Bool := a.magnitude = .nan

theorem eqv_comm (a b : Number) : a.eqv b = b.eqv a := by
  unfold eqv
  cases a.magnitude <;> cases b.magnitude <;> simp [Magnitude.eqv, Bool.beq_comm]

end Number

end FacetSearch
