import FacetSearch.Number.Decimal
import FacetSearch.Number.Numeral
import FacetSearch.Record
import FacetSearch.Text.Quoted

/-!
# Values

A value is what a request, a setting, a document field or an index reply may hold: nothing, a truth
value, a number, a text, a list, or an object. None of them comes with a schema, so attributes are
kept as the values they are, and each operation says what it needs of one. Objects are keyed by
scalars (`Key`), nearly always by texts.

Two values are equivalent (`Value.eqv`) when they hold the same: numbers count by what they stand
for, truth values count as 1 and 0, objects are maps. `Value.isAbsent` picks out the values that a
caller may send to mean "nothing", and `Value.text` is the wording of a value inside a text.
-/

namespace FacetSearch

/-- What an object can be keyed by. -/
inductive Key where
  | null
  | bool (b : Bool)
  | num (n : Number)
  | str (s : String)
  deriving Inhabited

instance : Coe String Key := ⟨.str⟩

namespace Key

/-- The number of a number or a truth value. -/
def number? : Key → Option Number
  | bool b => some (.int (if b then 1 else 0))
  | num n => some n
  | _ => none

/-- The keys stand for the same. -/
def eqv : Key → Key → Bool
  | null, null => true
  | str s, str t => s == t
  | a, b =>
    match a.number?, b.number? with
    | some m, some n => m.eqv n
    | _, _ => false

instance : BEq Key := ⟨eqv⟩

/-- A key is the same as a text only if it is that text. -/
theorem beq_str_iff {k : Key} {s : String} : (k == str s) = true ↔ k = str s := by
  change eqv k (str s) = true ↔ _
  cases k <;> simp [eqv, number?]

end Key

inductive Value where
  | null
  | bool (b : Bool)
  | num (n : Number)
  | str (s : String)
  | arr (items : List Value)
  | obj (entries : List (Key × Value))
  deriving Inhabited

namespace Value

def ofInt (n : Int) : Value := num (.int n)

/-- A whole number, or nothing. -/
def ofInt? : Option Int → Value
  | some n => ofInt n
  | none => null

/-- A truth value, or nothing. -/
def ofBool? : Option Bool → Value
  | some b => bool b
  | none => null

def ofKey : Key → Value
  | .null => null
  | .bool b => bool b
  | .num n => num n
  | .str s => str s

/-- The object with the given members. -/
def object (members : Record String Value) : Value := obj (members.map fun m => (.str m.1, m.2))

/-- The number of a number or a truth value. -/
def number? : Value → Option Number
  | bool b => some (.int (if b then 1 else 0))
  | num n => some n
  | _ => none

def isNull : Value → Bool
  | null => true
  | _ => false

mutual

/-- Both values hold the same. -/
def eqv : Value → Value → Bool
  | null, other => other.isNull
  | bool b, other =>
    match other.number? with
    | some n => Number.eqv (.int (if b then 1 else 0)) n
    | none => false
  | num m, other =>
    match other.number? with
    | some n => m.eqv n
    | none => false
  | str s, str t => s == t
  | arr xs, arr ys => eqvItems xs ys
  | obj xs, obj ys => xs.length == ys.length && eqvEntries xs ys
  | _, _ => false

def eqvItems : List Value → List Value → Bool
  | [], [] => true
  | x :: xs, y :: ys => eqv x y && eqvItems xs ys
  | _, _ => false

/-- Every entry is found among the others. -/
def eqvEntries : List (Key × Value) → List (Key × Value) → Bool
  | [], _ => true
  | (k, v) :: rest, others =>
    (match Record.get? others k with
      | some w => eqv v w
      | none => false) && eqvEntries rest others

end

/-- Null, false, zero, and the empty text, list and object. -/
def isAbsent : Value → Bool
  | null => true
  | bool b => !b
  | num n => n.isZero
  | str s => s.isEmpty
  | arr items => items.isEmpty
  | obj entries => entries.isEmpty

/-- The value says something; a truth value says so by being true. -/
def isPresent (v : Value) : Bool := !v.isAbsent

/-- The value itself, or another one in its absence. -/
def orElse (v fallback : Value) : Value := if v.isAbsent then fallback else v

/-- The name of a value's kind. -/
def kindName : Value → String
  | null => "NoneType"
  | bool _ => "bool"
  | num (.int _) => "int"
  | num (.float _) => "float"
  | str _ => "str"
  | arr _ => "list"
  | obj _ => "dict"

end Value

/-- The wording of a scalar within another value: texts are quoted. -/
def Key.literal : Key → Except Error String
  | null => .ok "None"
  | bool b => .ok (if b then "True" else "False")
  | num (.int n) => decimal n
  | num (.float x) => .ok (shortestText x)
  | str s => .ok (quoted s)

namespace Value

mutual

/-- The wording of a value within another one: texts are quoted. -/
def literal : Value → Except Error String
  | null => Key.null.literal
  | bool b => (Key.bool b).literal
  | num n => (Key.num n).literal
  | str s => (Key.str s).literal
  | arr items => do return "[" ++ String.intercalate ", " (← itemLiterals items) ++ "]"
  | obj entries => do
    return "\x7b" ++ String.intercalate ", " (← entryLiterals entries) ++ "\x7d"

def itemLiterals : List Value → Except Error (List String)
  | [] => .ok []
  | x :: xs => do return (← literal x) :: (← itemLiterals xs)

def entryLiterals : List (Key × Value) → Except Error (List String)
  | [] => .ok []
  | (k, v) :: rest => do
    return ((← k.literal) ++ ": " ++ (← literal v)) :: (← entryLiterals rest)

end

/-- The wording of a value; a text is its own. There is none if a whole number in the value is too
long to be written. -/
def text : Value → Except Error String
  | str s => .ok s
  | v => v.literal

end Value

end FacetSearch
