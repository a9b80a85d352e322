/-!
# Searching in a list

Where in a list does what a test accepts end? `bisect` finds a place by halving, `reach` by leaps of
growing length and halving within the last one, which is quick where the place is near the front.
Both expect that the test accepts a first part of the list and nothing behind it; on any other list
they still find some place, and always the same one. The test may fail.
-/

namespace FacetSearch.Order

variable {α ε : Type}

/-- The end of a list that a search starts from. -/
inductive Direction where
  | forward
  | backward
  deriving DecidableEq, Repr

/-- Half of a distance. An even distance between two places has no middle, and both directions take
the same entry as the middle. -/
def Direction.half : Direction → Nat → Nat
  | .forward, n => n / 2
  | .backward, n => (n - 1) / 2

theorem Direction.half_lt (d : Direction) {n : Nat} (h : 0 < n) : d.half n < n := by
  cases d <;> simp only [half] <;> omega

/-- The first place between two places whose entry is not accepted. -/
def bisect (d : Direction) (accepts : α → Except ε Bool) (xs : List α) (low high : Nat) :
    Except ε Nat :=
  if h : low < high then
    have := d.half_lt (Nat.sub_pos_of_lt h)
    let middle := low + d.half (high - low)
    match xs[middle]? with
    | some x => do
      if ← accepts x then bisect d accepts xs (middle + 1) high
      else bisect d accepts xs low middle
    | none => .ok low
  else .ok low
termination_by high - low

/-- A place with an accepted entry, and a later one with an entry that is not or with none. Each
leap is twice as long as the one before. -/
def leap (accepts : α → Except ε Bool) (xs : List α) (last next : Nat) : Except ε (Nat × Nat) :=
  if h : next < xs.length then do
    if ← accepts xs[next] then leap accepts xs next (2 * next + 1) else return (last, next)
  else .ok (last, xs.length)
termination_by xs.length - next

/-- The number of accepted entries at the front. -/
def reach (d : Direction) (accepts : α → Except ε Bool) : List α → Except ε Nat
  | [] => .ok 0
  | x :: rest => do
    if ← accepts x then
      let (last, next) ← leap accepts (x :: rest) 0 1
      bisect d accepts (x :: rest) (last + 1) next
    else return 0

end FacetSearch.Order
