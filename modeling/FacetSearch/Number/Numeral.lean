import FacetSearch.Error
import FacetSearch.Text.Blank

/-!
# Whole numbers in texts

Digits are read in the usual place-value way, and whole numbers are written as decimals (`decimal`).
A numeral of more than `digitLimit` digits is neither read, whatever surrounds it, nor written, so
wherever a number is put into a text it has to be short (`IsShort`). `readInteger` is the generous
reader, for counts that an index writes as texts: white space around, a sign, digits of any script,
single underscores between digits. Page numbers and filter bounds use the digits `0` to `9` only
(`readDigits`).
-/

namespace FacetSearch

/-- The most digits that a numeral may have. -/
def digitLimit : Nat := 4300

/-- The number a sequence of digits stands for. -/
def digitsValue (digits : List Nat) : Nat := digits.foldl (fun n d => 10 * n + d) 0

/-- The number of a numeral, unless it is too long to be read. -/
def numeral (digits : List Nat) : Except Error Nat :=
  if digitLimit < digits.length then .error (.fault .tooManyDigits) else .ok (digitsValue digits)

theorem numeral_of_length_le {digits : List Nat} (h : digits.length ≤ digitLimit) :
    numeral digits = .ok (digitsValue digits) := by
  simp [numeral, Nat.not_lt.2 h]

/-- The number has no more digits than a numeral may have. -/
@[irreducible]
def IsShort (n : Int) : Prop := n.natAbs < Nat.pow 10 digitLimit

/-- The decimal of a whole number, unless it is too long to be written. -/
def decimal (n : Int) : Except Error String :=
  if digitLimit < (Nat.toDigits 10 n.natAbs).length then .error (.fault .tooManyDigits)
  else .ok (toString n)

theorem isShort_natCast {n : Nat} : IsShort n ↔ n < Nat.pow 10 digitLimit := by
  rw [IsShort, Int.natAbs_natCast]

theorem isShort_neg {n : Int} : IsShort (-n) ↔ IsShort n := by
  rw [IsShort, IsShort, Int.natAbs_neg]

theorem IsShort.of_le {m n : Nat} (h : IsShort n) (hle : m ≤ n) : IsShort m :=
  isShort_natCast.2 (Nat.lt_of_le_of_lt hle (isShort_natCast.1 h))

theorem isShort_iff {n : Int} : IsShort n ↔ (Nat.toDigits 10 n.natAbs).length ≤ digitLimit := by
  have hlength (k : Nat) (hk : 0 < k) :
      (Nat.toDigits 10 n.natAbs).length ≤ k ↔ n.natAbs < Nat.pow 10 k :=
    Nat.length_toDigits_le_iff (by decide) hk
  rw [IsShort, hlength digitLimit (by decide)]

theorem decimal_of_isShort {n : Int} (h : IsShort n) : decimal n = .ok (toString n) :=
  if_neg (Nat.not_lt.2 (isShort_iff.1 h))

theorem decimal_of_not_isShort {n : Int} (h : ¬ IsShort n) :
    decimal n = .error (.fault .tooManyDigits) :=
  if_pos (Nat.not_le.1 fun hlength => h (isShort_iff.2 hlength))

/-- The number of a text of the digits `0` to `9`. -/
def readDigits (digits : List Char) : Except Error Nat :=
  numeral (digits.map fun c => c.toNat - '0'.toNat)

/-- The zeros of the scripts that have decimal digits; the other nine follow each. -/
def decimalZeros : List Nat :=
  [0x30, 0x660, 0x6F0, 0x7C0, 0x966, 0x9E6, 0xA66, 0xAE6, 0xB66, 0xBE6, 0xC66, 0xCE6, 0xD66, 0xDE6,
    0xE50, 0xED0, 0xF20, 0x1040, 0x1090, 0x17E0, 0x1810, 0x1946, 0x19D0, 0x1A80, 0x1A90, 0x1B50,
    0x1BB0, 0x1C40, 0x1C50, 0xA620, 0xA8D0, 0xA900, 0xA9D0, 0xA9F0, 0xAA50, 0xABF0, 0xFF10, 0x104A0,
    0x10D30, 0x11066, 0x110F0, 0x11136, 0x111D0, 0x112F0, 0x11450, 0x114D0, 0x11650, 0x116C0,
    0x11730, 0x118E0, 0x11950, 0x11C50, 0x11D50, 0x11DA0, 0x16A60, 0x16AC0, 0x16B50, 0x1D7CE,
    0x1D7D8, 0x1D7E2, 0x1D7EC, 0x1D7F6, 0x1E140, 0x1E2F0, 0x1E950, 0x1FBF0]

/-- The value of a decimal digit of any script. -/
def digitValue? (c : Char) : Option Nat :=
  decimalZeros.findSome? fun start =>
    if start ≤ c.toNat ∧ c.toNat < start + 10 then some (c.toNat - start) else none

/-- Digits of any script, with single underscores between them or without. -/
def spacedDigits? : List Char → Option (List Nat)
  | [] => none
  | [c] => (digitValue? c).map ([·])
  | c :: '_' :: rest => do
    let d ← digitValue? c
    let ds ← spacedDigits? rest
    return d :: ds
  | c :: rest => do
    let d ← digitValue? c
    let ds ← spacedDigits? rest
    return d :: ds

/-- White space that may surround a numeral: the information separators may not. -/
def isPadding (c : Char) : Bool := isBlank c && !(28 ≤ c.toNat && c.toNat ≤ 31)

def trimPadding (text : List Char) : List Char :=
  ((text.dropWhile isPadding).reverse.dropWhile isPadding).reverse

/-- The sign in front of a text and what follows it. -/
def splitSign : List Char → Bool × List Char
  | '-' :: rest => (true, rest)
  | '+' :: rest => (false, rest)
  | text => (false, text)

/-- The whole number that a text denotes. -/
def readInteger (text : List Char) : Except Error Int :=
  let (negative, body) := splitSign (trimPadding text)
  match spacedDigits? body with
  | none => .error (.fault .notAnInteger)
  | some digits => (numeral digits).map fun n => if negative then -(n : Int) else n

end FacetSearch
