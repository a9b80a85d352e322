import FacetSearch.Value.Access

/-!
# Approval

Documents with few votes should not lead a ranking. `approval` is the lower bound of the Wilson
score interval at 95 percent: what share of positive votes a document can be trusted to have.
-/

namespace FacetSearch

/-- Standard deviations on either side of the mean for 95 percent. -/
def confidence : Float := 1.96

/-- The share of positive votes that can be relied on. -/
def approval (positive negative : Value) : Except Error Float := do
  let positive ← positive.toNumber
  let negative ← negative.toNumber
  let total ← positive.add negative
  if total.isZero then return 0.0
  let z2 := confidence * confidence
  let centre ← (← positive.add (.float (z2 / 2.0))).div total
  let mean ← (← positive.mul negative).div total
  let root ← squareRoot (mean + z2 / 4.0)
  let spread ← (Number.float (confidence * root)).div total
  let share ← (Number.float z2).div total
  divide (centre - spread) (1.0 + share)

end FacetSearch
