import FacetSearch.Number.Rounding

/-!
# Arithmetic of numbers

Whole numbers are added, subtracted and multiplied exactly, whatever their size. As soon as one of
two numbers is a double, the other one becomes a double too and the result is one. The quotient of
two numbers is always a double, that of two whole numbers the one nearest to it. Dividing by zero,
the root of a negative number and the logarithm of a number that is not positive are faults; every
other operation on doubles has a result, be it an infinity or not-a-number.
-/

namespace FacetSearch

/-- A quotient of doubles. -/
def divide (x y : Float) : Except Error Float :=
  if y == 0.0 then .error (.fault .divisionByZero) else .ok (x / y)

/-- The square root of a number that has one. -/
def squareRoot (x : Float) : Except Error Float :=
  if x < 0.0 then .error (.fault .rootOfNegative) else .ok x.sqrt

/-- The natural logarithm of a number that has one. -/
def naturalLog (x : Float) : Except Error Float :=
  if x ≤ 0.0 then .error (.fault .logOfNonPositive) else .ok x.log

namespace Number

/-- An operation on whole numbers, or the one on doubles as soon as there is a double. -/
def combine (ints : Int → Int → Int) (doubles : Float → Float → Float) :
    Number → Number → Except Error Number
  | int a, int b => .ok (int (ints a b))
  | a, b => do return float (doubles (← a.toDouble) (← b.toDouble))

def add : Number → Number → Except Error Number := combine (· + ·) (· + ·)

def sub : Number → Number → Except Error Number := combine (· - ·) (· - ·)

def mul : Number → Number → Except Error Number := combine (· * ·) (· * ·)

/-- The quotient, which is a double. -/
def div : Number → Number → Except Error Float
  | int a, int b => quotient a b
  | a, b => do
    let x ← a.toDouble
    let y ← b.toDouble
    divide x y

theorem add_int (a b : Int) : (int a).add (int b) = .ok (int (a + b)) := rfl

theorem sub_int (a b : Int) : (int a).sub (int b) = .ok (int (a - b)) := rfl

theorem mul_int (a b : Int) : (int a).mul (int b) = .ok (int (a * b)) := rfl

theorem div_int (a b : Int) : (int a).div (int b) = quotient a b := rfl

end Number

end FacetSearch
