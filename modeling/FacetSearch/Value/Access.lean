import FacetSearch.Number.Arithmetic
import FacetSearch.Value

/-!
# Looking into values

Values come from outside and are read without knowing their shape beforehand. Each function here
asks one thing of a value and fails with the fault that says why the value cannot give it: a member
of an object (`member?`, `memberOr`, `member`), its entries (`entries`), the elements of anything
that has some (`elements`), a map made of pairs (`toEntries`), a number (`toNumber`, `toInteger`),
an order (`lt`), or arithmetic (`sub`, `mul`); texts and lists can be multiplied too, which repeats
them.
-/

namespace FacetSearch

namespace Value

/-- The key that a value is. -/
def toKey : Value → Except Error Key
  | null => .ok .null
  | bool b => .ok (.bool b)
  | num n => .ok (.num n)
  | str s => .ok (.str s)
  | arr _ | obj _ => .error (.fault .notAKey)

/-- The entries of an object. -/
def entries : Value → Except Error (Record Key Value)
  | obj entries => .ok entries
  | _ => .error (.fault .notAnObject)

/-- The member of an object under a key, if there is one. -/
def member? (v : Value) (key : Key) : Except Error (Option Value) :=
  v.entries.map (Record.get? · key)

/-- The member of an object under a key, or a value in its place. -/
def memberOr (v : Value) (key : Key) (default : Value) : Except Error Value :=
  (v.member? key).map (·.getD default)

/-- The member of an object under the key that a value is, or a value in its place. -/
def memberNamed (v name default : Value) : Except Error Value := do
  let entries ← v.entries
  return (Record.get? entries (← name.toKey)).getD default

/-- The member that has to be there. -/
def member (v : Value) (key : Key) : Except Error Value :=
  match v with
  | obj entries =>
    match Record.get? entries key with
    | some member => .ok member
    | none => .error (.fault .absentKey)
  | _ => .error (.fault .notIndexable)

/-- The elements of a list, the characters of a text, or the keys of an object. -/
def elements : Value → Except Error (List Value)
  | arr items => .ok items
  | str s => .ok (s.toList.map fun c => str (String.singleton c))
  | obj entries => .ok (entries.map fun e => ofKey e.1)
  | _ => .error (.fault .notIterable)

/-- A text occurs inside another one. -/
def occursIn (part : List Char) : List Char → Bool
  | [] => part.isEmpty
  | c :: rest => part.isPrefixOf (c :: rest) || occursIn part rest

/-- A text is a key of an object, an element of a list, or occurs inside a text. -/
def holds (v : Value) (name : String) : Except Error Bool :=
  match v with
  | obj entries => .ok (Record.get? entries (.str name)).isSome
  | arr items => .ok (items.any (·.eqv (str name)))
  | str s => .ok (occursIn name.toList s.toList)
  | _ => .error (.fault .notIterable)

/-- A key and its value, from a sequence of just these two. -/
def toPair (v : Value) : Except Error (Key × Value) := do
  match ← v.elements with
  | [key, value] => return (← key.toKey, value)
  | _ => .error (.fault .notAPair)

/-- The map that an object is or that a sequence of pairs makes. -/
def toEntries : Value → Except Error (Record Key Value)
  | obj entries => .ok entries
  | v => do return Record.ofList (← (← v.elements).mapM toPair)

/-- The whole number that a value denotes; the fraction of a double is dropped. -/
def toInteger : Value → Except Error Int
  | str s => readInteger s.toList
  | bool b => .ok (if b then 1 else 0)
  | num n => n.truncate
  | _ => .error (.fault .notNumeric)

/-- The number that a value is. -/
def toNumber (v : Value) : Except Error Number :=
  match v.number? with
  | some n => .ok n
  | none => .error (.fault .notNumeric)

/-- The double of the number that a value is. -/
def toDouble (v : Value) : Except Error Float := do (← v.toNumber).toDouble

/-- The text that a value is; an absent one is the empty text. -/
def toText (v : Value) : Except Error String :=
  match v.orElse (str "") with
  | str s => .ok s
  | _ => .error (.fault .notAText)

mutual

/-- Numbers precede each other by what they stand for, texts by their code points, and lists by the
first items that differ, a list before those that go on. -/
def lt : Value → Value → Except Error Bool
  | str s, str t => .ok (s < t)
  | arr xs, arr ys => ltItems xs ys
  | v, w =>
    match v.number?, w.number? with
    | some m, some n => .ok (m.lt n)
    | _, _ => .error (.fault .notOrdered)

def ltItems : List Value → List Value → Except Error Bool
  | x :: xs, y :: ys => if x.eqv y then ltItems xs ys else lt x y
  | [], _ :: _ => .ok true
  | _, [] => .ok false

end

def sub (v w : Value) : Except Error Value := do
  return num (← (← v.toNumber).sub (← w.toNumber))

/-- How often something is to be repeated: a whole number of 64 bits with its sign. -/
def toCount (v : Value) : Except Error Int :=
  match v.number? with
  | some (.int n) =>
    if -0x8000000000000000 ≤ n && n < 0x8000000000000000 then .ok n else .error (.fault .tooLarge)
  | _ => .error (.fault .notNumeric)

/-- There is room for so many characters or items in one value. -/
def room : Nat := 0x8000000

/-- A text one after the other so many times, not once for a number below 1. -/
def repeatText (s : String) (count : Int) : Except Error Value :=
  let length := s.length * count.toNat
  if 0x7fffffffffffffff < length then .error (.fault .tooLarge)
  else if room < length then .error (.fault .noRoom)
  else .ok (str (String.join (List.replicate (if s.isEmpty then 0 else count.toNat) s)))

/-- The items of a list one after the other so many times, not once for a number below 1. -/
def repeatItems (items : List Value) (count : Int) : Except Error Value :=
  if room < items.length * count.toNat then .error (.fault .noRoom)
  else .ok (arr (List.replicate (if items.isEmpty then 0 else count.toNat) items).flatten)

/-- The product of two numbers, or a text or list repeated as often as a whole number says. -/
def mul (v w : Value) : Except Error Value :=
  match v, w with
  | str s, count | count, str s => do repeatText s (← count.toCount)
  | arr items, count | count, arr items => do repeatItems items (← count.toCount)
  | _, _ => do return num (← (← v.toNumber).mul (← w.toNumber))

theorem lt_ofInt (m n : Int) : (ofInt m).lt (ofInt n) = .ok (Number.lt (.int m) (.int n)) := rfl

theorem sub_ofInt (m n : Int) : (ofInt m).sub (ofInt n) = .ok (ofInt (m - n)) := rfl

theorem mul_ofInt (m n : Int) : (ofInt m).mul (ofInt n) = .ok (ofInt (m * n)) := rfl

end Value

end FacetSearch
