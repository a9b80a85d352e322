import FacetSearch.Value.Access

/-!
# Boosts

A boost multiplies the score of what it stands on. It should be a number; a truth value counts as
1 or 0. A boost equal to 1 is neutral and is left out of queries, any other value is passed on. Only
behind a field name does a boost have to be a number: there it is written as a double of six digits
(`Boost.text`), which a whole number beyond the doubles cannot be.
-/

namespace FacetSearch.Boost

/-- The boost of whatever has none of its own. -/
def neutral : Value := .num (.float 1.0)

def isNeutral (boost : Value) : Bool := boost.eqv (.ofInt 1)

theorem isNeutral_neutral : isNeutral neutral = true := by decide +kernel

/-- A boost as it is written behind a field name. -/
def text (boost : Value) : Except Error String :=
  match boost with
  | .str _ => .error (.fault .textForNumber)
  | _ => boost.toDouble.map boostText

end FacetSearch.Boost
