import FacetSearch.Order.Search

/-!
# Merging two runs

Two neighbouring runs of a list are merged from one of its ends (`Direction`). One run is called the
short one and the other the long one; an entry of the long run is taken while it stands before the
head of the short run, and the last entry of the short run is known to be the last of all. Entries
are taken one by one until one run has won several times in a row; from then on the runs take turns,
and each gives all entries that stand before the head of the other at once, until that is no longer
worth while. How many wins it takes (`least`) is learnt on the way.

Whatever the comparison says, no step loses or invents an entry (`taken_perm`, `settle_perm`).
-/

namespace FacetSearch.Order

variable {α ε : Type}

/-- The wins in a row that make it worth while to take several entries at once. -/
def streak : Nat := 7

/-- One of the two runs. -/
inductive Side where
  | short
  | long
  deriving DecidableEq, Repr

/-- What is left of two runs, the next entries first. -/
structure Contest (α : Type) where
  short : List α
  long : List α

/-- The entry of the long run stands before that of the short one. -/
def Direction.precedes (d : Direction) (lt : α → α → Except ε Bool) (long short : α) :
    Except ε Bool :=
  match d with
  | .forward => lt long short
  | .backward => lt short long

/-- The run whose entries are taken first in a turn. -/
def Direction.first : Direction → Side
  | .forward => .short
  | .backward => .long

namespace Contest

def size (c : Contest α) : Nat := c.short.length + c.long.length

/-- The order of the entries left is known. -/
def isDecided (c : Contest α) : Bool :=
  match c.short with
  | [] | [_] => true
  | _ => c.long.isEmpty

/-- The entries left: the last one of the short run is the last of all. -/
def settle (c : Contest α) : List α :=
  match c.short with
  | [last] => c.long ++ [last]
  | short => short ++ c.long

/-- The next entry is one of the long run. -/
def longLeads (c : Contest α) (d : Direction) (lt : α → α → Except ε Bool) : Except ε Bool :=
  match c.short, c.long with
  | s :: _, l :: _ => d.precedes lt l s
  | _, _ => .ok false

/-- The number of entries of one run that stand before the head of the other. -/
def wins (c : Contest α) (d : Direction) (lt : α → α → Except ε Bool) (side : Side) :
    Except ε Nat :=
  match side, c.short, c.long with
  | .short, short, l :: _ => reach d (fun s => (!·) <$> d.precedes lt l s) short
  | .long, s :: _, long => reach d (fun l => d.precedes lt l s) long
  | _, _, _ => .ok 0

/-- So many entries of one run, and the head of the other. -/
def taken (c : Contest α) (side : Side) (n : Nat) : List α :=
  match side with
  | .short => c.short.take n ++ c.long.take 1
  | .long => c.long.take n ++ c.short.take 1

/-- What is left without them. -/
def advance (c : Contest α) (side : Side) (n : Nat) : Contest α :=
  match side with
  | .short => ⟨c.short.drop n, c.long.drop 1⟩
  | .long => ⟨c.short.drop 1, c.long.drop n⟩

theorem size_advance_lt {c : Contest α} (side : Side) (n : Nat) (h : ¬c.isDecided = true) :
    (c.advance side n).size < c.size := by
  obtain ⟨short, long⟩ := c
  match short, long, h with
  | [], _, h | [_], _, h | _ :: _ :: _, [], h => exact absurd rfl h
  | _ :: _ :: _, _ :: _, _ =>
    cases side <;> simp only [advance, size, List.length_drop, List.length_cons] <;> omega

theorem settle_perm (c : Contest α) : c.settle.Perm (c.short ++ c.long) := by
  unfold settle
  split
  · rename_i last h
    rw [h]
    exact List.perm_append_comm
  · exact .refl _

theorem taken_perm (c : Contest α) (side : Side) (n : Nat) :
    (c.taken side n ++ ((c.advance side n).short ++ (c.advance side n).long)).Perm
      (c.short ++ c.long) := by
  have key : ∀ (xs ys : List α) (m k : Nat),
      (xs.take m ++ ys.take k ++ (xs.drop m ++ ys.drop k)).Perm (xs ++ ys) := by
    intro xs ys m k
    rw [List.append_assoc, ← List.append_assoc (ys.take k)]
    refine ((List.perm_append_comm.append_right _).append_left _).trans ?_
    rw [List.append_assoc, List.take_append_drop, ← List.append_assoc, List.take_append_drop]
  cases side with
  | short => exact key c.short c.long n 1
  | long =>
    refine ((List.perm_append_comm.append_left _).trans (key c.long c.short n 1)).trans ?_
    exact List.perm_append_comm

end Contest

mutual

/-- The merged entries, taken one by one, and the wins in a row that it takes to change that. -/
def alternate (d : Direction) (lt : α → α → Except ε Bool) (least shortWins longWins : Nat)
    (c : Contest α) : Except ε (List α × Nat) :=
  if h : c.isDecided then .ok (c.settle, least)
  else do
    if ← c.longLeads d lt then
      have := c.size_advance_lt .short 0 h
      let (rest, least) ←
        if least ≤ longWins + 1 then takeTurns d lt least d.first none (c.advance .short 0)
        else alternate d lt least 0 (longWins + 1) (c.advance .short 0)
      return (c.taken .short 0 ++ rest, least)
    else
      have := c.size_advance_lt .long 0 h
      let (rest, least) ←
        if least ≤ shortWins + 1 then takeTurns d lt least d.first none (c.advance .long 0)
        else alternate d lt least (shortWins + 1) 0 (c.advance .long 0)
      return (c.taken .long 0 ++ rest, least)
termination_by c.size

/-- The merged entries, the runs taking turns; `won` are the wins of the first run in a turn that
the other one is to end. -/
def takeTurns (d : Direction) (lt : α → α → Except ε Bool) (least : Nat) (side : Side)
    (won : Option Nat) (c : Contest α) : Except ε (List α × Nat) :=
  if h : c.isDecided then .ok (c.settle, least)
  else do
    let n ← c.wins d lt side
    have := c.size_advance_lt side n h
    if (c.advance side n).isDecided then
      return (c.taken side n ++ (c.advance side n).settle, least)
    let other : Side := if side = .short then .long else .short
    let (rest, least) ←
      match won with
      | none => takeTurns d lt least other (some n) (c.advance side n)
      | some m =>
        if streak ≤ m || streak ≤ n then
          takeTurns d lt (max 1 (least - 1)) other none (c.advance side n)
        else alternate d lt (least + 1) 0 0 (c.advance side n)
    return (c.taken side n ++ rest, least)
termination_by c.size

end

end FacetSearch.Order
