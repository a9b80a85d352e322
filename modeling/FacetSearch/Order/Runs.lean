import FacetSearch.Order.Merge

/-!
# Sorting by runs

A list is sorted by looking for the runs that it already has: entries that rise, or that all fall
and are turned around. Short runs are made longer by inserting the entries that follow. Neighbouring
runs are then merged, each two of them at the depth at which a perfect halving of the list would
part them (`depth`), so that runs of like length meet.

Where the comparison is an order the outcome is the usual stable sort. Where it is not, because some
entries cannot be told apart from any other, the outcome still is one and the same arrangement of
the list. The comparison may fail; then there is none.
-/

namespace FacetSearch.Order

variable {α ε : Type}

/-- The longest first part of a list whose entries each stand to the one before as `goesOn` says. -/
def stretch (goesOn : α → α → Except ε Bool) (last : α) : List α → Except ε (List α)
  | [] => .ok []
  | x :: rest => do
    if ← goesOn last x then return x :: (← stretch goesOn x rest) else return []

/-- The run that a list begins with, in rising order. -/
def firstRun (lt : α → α → Except ε Bool) (x : α) : List α → Except ε (List α)
  | [] => .ok [x]
  | y :: rest => do
    if ← lt y x then
      return (x :: y :: (← stretch (fun a b => lt b a) y rest)).reverse
    else return x :: y :: (← stretch (fun a b => (!·) <$> lt b a) y rest)

/-- A sorted list with one more entry, behind those that it does not precede. -/
def insert (lt : α → α → Except ε Bool) (sorted : List α) (x : α) : Except ε (List α) := do
  let n ← bisect .forward (fun y => (!·) <$> lt x y) sorted 0 sorted.length
  return sorted.take n ++ x :: sorted.drop n

/-- The run that a list begins with, of so many entries at least unless the list is shorter. -/
def longRun (lt : α → α → Except ε Bool) (atLeast : Nat) (x : α) (rest : List α) :
    Except ε (List α) := do
  let run ← firstRun lt x rest
  ((rest.drop (run.length - 1)).take (atLeast - run.length)).foldlM (insert lt) run

/-- How long runs have to be: a short list is one run, a longer one is parted by halving until its
parts are below 64, rounded up. -/
def runLength (n : Nat) : Nat :=
  if h : n < 64 then n else
    have : n / 2 < n := by omega
    if n % 2 = 0 then runLength (n / 2) else halved (n / 2) + 1
termination_by n
where
  /-- The same, rounded down. -/
  halved (n : Nat) : Nat := if h : n < 64 then n else halved (n / 2)
  termination_by n
  decreasing_by omega

/-- The depth at which halving a list of `n` parts the middles of two neighbouring runs, the first
of which begins at a place: the first binary digit in which their places differ. -/
def depth (n start first second : Nat) : Nat :=
  let middle := 2 * start + first
  let next := middle + first + second
  (((List.range n).find? fun k => (middle <<< k) / n ≠ (next <<< k) / n).getD n) + 1

/-- A run within a list, and the depth at which it is parted from the next one. -/
structure Run (α : Type) where
  start : Nat
  entries : List α
  depth : Nat

/-- Two neighbouring runs as one. Entries at either end that are in their place already take no part
in merging. -/
def join (lt : α → α → Except ε Bool) (least : Nat) (a b : List α) :
    Except ε (List α × Nat) := do
  let n ←
    match b with
    | head :: _ => reach .forward (fun x => (!·) <$> lt head x) a
    | [] => pure 0
  match (a.drop n).getLast? with
  | none => return (a ++ b, least)
  | some last =>
    let m := b.length - (← reach .backward (fun x => (!·) <$> lt x last) b.reverse)
    let front : List α := a.drop n
    let back := b.take m
    if back.isEmpty then return (a ++ b, least)
    if front.length ≤ back.length then
      let c : Contest α := ⟨front, back.drop 1⟩
      let (merged, least) ← alternate .forward lt least 0 0 c
      return (a.take n ++ (back.take 1 ++ merged) ++ b.drop m, least)
    else
      let c : Contest α := ⟨back.reverse, front.reverse.drop 1⟩
      let (merged, least) ← alternate .backward lt least 0 0 c
      return (a.take n ++ (front.reverse.take 1 ++ merged).reverse ++ b.drop m, least)

/-- The runs found so far, the latest first, once those that are parted below a depth are joined. -/
def joinBelow (lt : α → α → Except ε Bool) (depth least : Nat) :
    List (Run α) → Except ε (List (Run α) × Nat)
  | b :: a :: runs => do
    if depth < a.depth then
      let (entries, least) ← join lt least a.entries b.entries
      joinBelow lt depth least (⟨a.start, entries, a.depth⟩ :: runs)
    else return (b :: a :: runs, least)
  | runs => .ok (runs, least)
termination_by runs => runs.length

/-- All runs joined into one, small ones first. -/
def joinAll (lt : α → α → Except ε Bool) (least : Nat) : List (Run α) → Except ε (List α)
  | c :: b :: a :: runs => do
    if a.entries.length < c.entries.length then
      let (entries, least) ← join lt least a.entries b.entries
      joinAll lt least (c :: ⟨a.start, entries, b.depth⟩ :: runs)
    else
      let (entries, least) ← join lt least b.entries c.entries
      joinAll lt least (⟨b.start, entries, c.depth⟩ :: a :: runs)
  | [b, a] => do return (← join lt least a.entries b.entries).1
  | [a] => .ok a.entries
  | [] => .ok []
termination_by runs => runs.length

/-- The sorted list, when so many entries of it are in runs. -/
def sortFrom (lt : α → α → Except ε Bool) (n start least : Nat) (runs : List (Run α)) :
    List α → Except ε (List α)
  | [] => joinAll lt least runs
  | x :: rest => do
    let run ← longRun lt (runLength n) x rest
    let (runs, least) ←
      match runs with
      | [] => pure ([], least)
      | last :: others =>
        let d := depth n last.start last.entries.length run.length
        let (runs, least) ← joinBelow lt d least (last :: others)
        pure (runs.modifyHead ({ · with depth := d }), least)
    sortFrom lt n (start + run.length) least (⟨start, run, 0⟩ :: runs)
      (rest.drop (run.length - 1))
termination_by xs => xs.length
decreasing_by simp only [List.length_drop, List.length_cons]; omega

/-- The list in rising order. -/
def sort (lt : α → α → Except ε Bool) (xs : List α) : Except ε (List α) :=
  sortFrom lt xs.length 0 streak [] xs

end FacetSearch.Order
