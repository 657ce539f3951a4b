import Redline.Text.Blank

/-!
# Decimal digits and integers

A decimal digit is any character that some script uses as one.  Each script
has ten of them in a row, so the table holds only the zeros.

`readInt` reads an integer: white space around it is allowed, so are a sign
and single underscores between digits.  An integer of more than 4300 digits is
refused.
-/

namespace Redline.Text

/-- The zeros of the scripts that have decimal digits. -/
def digitZeros : List Nat :=
  [0x30, 0x660, 0x6F0, 0x7C0, 0x966, 0x9E6, 0xA66, 0xAE6, 0xB66, 0xBE6, 0xC66, 0xCE6, 0xD66,
   0xDE6, 0xE50, 0xED0, 0xF20, 0x1040, 0x1090, 0x17E0, 0x1810, 0x1946, 0x19D0, 0x1A80, 0x1A90,
   0x1B50, 0x1BB0, 0x1C40, 0x1C50, 0xA620, 0xA8D0, 0xA900, 0xA9D0, 0xA9F0, 0xAA50, 0xABF0,
   0xFF10, 0x104A0, 0x10D30, 0x11066, 0x110F0, 0x11136, 0x111D0, 0x112F0, 0x11450, 0x114D0,
   0x11650, 0x116C0, 0x11730, 0x118E0, 0x11950, 0x11C50, 0x11D50, 0x11DA0, 0x16A60, 0x16AC0,
   0x16B50, 0x1D7CE, 0x1D7D8, 0x1D7E2, 0x1D7EC, 0x1D7F6, 0x1E140, 0x1E2F0, 0x1E950, 0x1FBF0]

def digitValue? (c : Char) : Option Nat :=
  (digitZeros.find? fun z => z ≤ c.toNat && c.toNat < z + 10).map (c.toNat - ·)

def isDecimal (c : Char) : Bool := (digitValue? c).isSome

/-- The number that a row of digits writes, most significant first. -/
def numberOf (digits : List Nat) : Nat := digits.foldl (fun n d => 10 * n + d) 0

/-- The number of digits from which on an integer is refused. -/
def maxDigits : Nat := 4300

/-- Why a text is not read as an integer. -/
inductive IntegerError where
  /-- It does not write an integer. -/
  | malformed
  | tooLong (digits : Nat)
deriving DecidableEq, Repr

/-- The digits of a text of digits with single underscores between them. -/
def digitRow : (afterDigit : Bool) → Text → Option (List Nat)
  | afterDigit, [] => if afterDigit then some [] else none
  | afterDigit, c :: t =>
      match digitValue? c with
      | some d => (digitRow true t).map (d :: ·)
      | none => if c = '_' && afterDigit then digitRow false t else none

/-- The number that a text of digits and underscores writes.  Too many digits
are refused before what follows them is looked at. -/
def readDigits (t : Text) : Except IntegerError Nat :=
  let row := t.takeWhile fun c => isDecimal c || c = '_'
  match digitRow false row with
  | none => .error .malformed
  | some ds =>
      if maxDigits < ds.length then .error (.tooLong ds.length)
      else if row.length < t.length then .error .malformed
      else .ok (numberOf ds)

/-- Whether a character may stand around an integer: white space, but not one
of the four separators of records. -/
def isMargin (c : Char) : Bool := isBlank c && !(0x1c ≤ c.toNat && c.toNat ≤ 0x1f)

def readInt (t : Text) : Except IntegerError Int :=
  match t.trim isMargin with
  | '-' :: ds => (readDigits ds).map fun n => -(n : Int)
  | '+' :: ds => (readDigits ds).map Int.ofNat
  | ds => (readDigits ds).map Int.ofNat

end Redline.Text
