import Redline.Text.Bytes

/-!
# The encoding of a JSON document

A document that comes as bytes is written in UTF-8, UTF-16 or UTF-32.  A JSON
text starts with two ASCII characters, so the zero bytes at its start tell
which of them it is and in what order the bytes of a unit stand.
-/

namespace Redline.Json

/-- How a text is written in bytes. -/
inductive Encoding where
  | utf8
  /-- In units of two bytes, the greater one first or last. -/
  | utf16 (greatFirst : Bool)
  /-- In units of four bytes, the greatest one first or last. -/
  | utf32 (greatFirst : Bool)
deriving DecidableEq, Repr

namespace Encoding

/-- The encoding that the first bytes of a document tell. -/
def detect : List UInt8 → Encoding
  | 0 :: 0 :: _ :: _ :: _ => utf32 true
  | 0 :: _ :: _ :: _ :: _ => utf16 true
  | _ :: 0 :: 0 :: 0 :: _ => utf32 false
  | _ :: 0 :: _ :: _ :: _ => utf16 false
  | [0, _] => utf16 true
  | [_, 0] => utf16 false
  | _ => utf8

/-- The bytes in units of a size.  They have to come out even. -/
def chunks? (size : Nat) : (fuel : Nat) → List UInt8 → Option (List (List UInt8))
  | _, [] => some []
  | 0, _ => none
  | fuel + 1, bytes =>
      if bytes.length < size then none
      else (chunks? size fuel (bytes.drop size)).map (bytes.take size :: ·)

def unitValue (greatFirst : Bool) (unit : List UInt8) : Nat :=
  (if greatFirst then unit else unit.reverse).foldl (fun n b => 256 * n + b.toNat) 0

def units? (size : Nat) (greatFirst : Bool) (bytes : List UInt8) : Option (List Nat) :=
  (chunks? size bytes.length bytes).map fun us => us.map (unitValue greatFirst)

/-- Whether a number is the first half of a pair. -/
def isHigh (n : Nat) : Bool := 0xD800 ≤ n && n < 0xDC00

/-- Whether a number is the second half of a pair. -/
def isLow (n : Nat) : Bool := 0xDC00 ≤ n && n < 0xE000

def pairChar (high low : Nat) : Char := Char.ofNat (0x10000 + (high - 0xD800) * 0x400 + (low - 0xDC00))

/-- The character of a number that is no half of a pair.  A half that stands
alone gives the replacement character. -/
def singleChar (n : Nat) : Char := if isHigh n || isLow n then '�' else Char.ofNat n

def ofUnits16 : List Nat → Text
  | [] => []
  | [n] => [singleChar n]
  | m :: n :: ns =>
      if isHigh m && isLow n then pairChar m n :: ofUnits16 ns
      else singleChar m :: ofUnits16 (n :: ns)

/-- The text of units of four bytes, none of which may be too great. -/
def ofUnits32? (units : List Nat) : Option Text :=
  if units.all (· < 0x110000) then some (units.map singleChar) else none

/-- The text without the mark that may stand before it. -/
def dropMark : Text → Text
  | '﻿' :: t => t
  | t => t

/-- The text that bytes write in an encoding. -/
def decode? (bytes : List UInt8) : Encoding → Option Text
  | utf8 => (String.fromUTF8? ⟨bytes.toArray⟩).map fun s => dropMark s.toList
  | utf16 greatFirst => (units? 2 greatFirst bytes).map ofUnits16
  | utf32 greatFirst => (units? 4 greatFirst bytes).bind ofUnits32?

end Encoding

/-- The text of a document that comes as bytes. -/
def textOfBytes? (bytes : List UInt8) : Option Text := (Encoding.detect bytes).decode? bytes

end Redline.Json
