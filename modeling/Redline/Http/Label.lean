import Redline.Text.Case

/-!
# Labels of hosts

The name of a host is a row of labels with dots between.  A label that is not
ASCII is prepared first: it is folded, marks that mean nothing are dropped and
wide forms are made plain.  Then it is written in ASCII, as the characters that
are ASCII, a hyphen, and digits that tell which other characters stand where.
-/

namespace Redline.Http

/-! ## Digits for other characters

The other characters are told in increasing order, each by the number of steps
from the one before.  A step goes to the next place, and behind the last place
to the next character.  A number of steps is written with digits of base 36,
the lowest first, and the digit that ends it is smaller than a threshold. -/

namespace Label

def isAscii (c : Char) : Bool := c.toNat < 128

def digitChar (d : Nat) : Char := if d < 26 then Char.ofNat (97 + d) else Char.ofNat (22 + d)

def digit? (c : Char) : Option Nat :=
  if c.isLower then some (c.toNat - 97)
  else if c.isUpper then some (c.toNat - 65)
  else if c.isDigit then some (c.toNat - 22)
  else none

def threshold (position bias : Nat) : Nat :=
  if position ≤ bias then 1 else if bias + 26 ≤ position then 26 else position - bias

/-- How often a number has to be made smaller until it is small, and what is left. -/
def shrink (n : Nat) (times : Nat) : Nat × Nat :=
  if 455 < n then shrink (n / 35) (times + 1) else (n, times)
termination_by n
decreasing_by omega

/-- The bias behind a number of steps that brought the characters to a count. -/
def adapt (steps count : Nat) (first : Bool) : Nat :=
  let n := if first then steps / 700 else steps / 2
  let (n, times) := shrink (n + n / count) 0
  36 * times + 36 * n / (n + 38)

def digitsOf (bias : Nat) : (fuel position n : Nat) → Text
  | 0, _, _ => []
  | fuel + 1, position, n =>
      let t := threshold position bias
      if n < t then [digitChar n]
      else digitChar (t + (n - t) % (36 - t)) :: digitsOf bias fuel (position + 36) ((n - t) / (36 - t))

/-- Where the writing of characters as steps is. -/
structure Writing where
  digits : Text
  steps : Nat
  bias : Nat
  placed : Nat

/-- Passes a place while the character `n` is told. -/
def Writing.pass (plain n : Nat) (w : Writing) (c : Char) : Writing :=
  if c.toNat < n then { w with steps := w.steps + 1 }
  else if c.toNat = n then
    ⟨w.digits ++ digitsOf w.bias (w.steps + 1) 36 w.steps, 0,
      adapt w.steps (w.placed + 1) (w.placed = plain), w.placed + 1⟩
  else w

/-- Tells the characters of a label, of which the next steps start at `from`. -/
def tellAll (label : Text) (plain : Nat) : (start : Nat) → List Nat → Writing → Writing
  | _, [], w => w
  | start, n :: others, w =>
      let w := { w with steps := w.steps + (n - start) * (w.placed + 1) }
      let w := label.foldl (Writing.pass plain n) w
      tellAll label plain (n + 1) others { w with steps := w.steps + 1 }

/-- A label in ASCII, without the mark that it is one. -/
def encode (label : Text) : Text :=
  let plain := label.filter isAscii
  let others := ((label.filter (!isAscii ·)).map Char.toNat).eraseDups.mergeSort
  let w := tellAll label plain.length 128 others ⟨[], 0, 72, plain.length⟩
  plain ++ (if plain.isEmpty then [] else ['-']) ++ w.digits

/-- Reads a number of steps, and gives the rest. -/
def readSteps (bias : Nat) : (position weight n : Nat) → Text → Option (Nat × Text)
  | _, _, _, [] => none
  | position, weight, n, c :: t => do
      let d ← digit? c
      let n := n + d * weight
      let least := threshold position bias
      if d < least then return (n, t)
      readSteps bias (position + 36) (weight * (36 - least)) n t

/-- Reads characters that are told by digits into a label. -/
def place : (fuel : Nat) → (label : Text) → (c i bias : Nat) → (first : Bool) → Text → Option Text
  | 0, _, _, _, _, _, _ => none
  | _ + 1, label, _, _, _, _, [] => some label
  | fuel + 1, label, c, i, bias, first, digits => do
      let (steps, rest) ← readSteps bias 36 1 0 digits
      let count := label.length + 1
      let i := i + steps
      let c := c + i / count
      let i := i % count
      if 0x10FFFF < c then none
      else
        place fuel (label.take i ++ Char.ofNat c :: label.drop i) c (i + 1) (adapt steps count first) false rest

/-- The label that ASCII without the mark writes. -/
def decode? (t : Text) : Option Text :=
  match (t.zipIdx.filter (·.1 = '-')).getLast? with
  | none => place (t.length + 1) [] 128 0 72 true t
  | some (_, i) => place (t.length + 1) (t.take i) 128 0 72 true (t.drop (i + 1))

/-! ## Preparation -/

def droppedRanges : Array (Nat × Nat) := #[
   (0xAD, 0xAD), (0x34F, 0x34F), (0x1806, 0x1806), (0x180B, 0x180D), (0x200B, 0x200D),
   (0x2060, 0x2060), (0xFE00, 0xFE0F), (0xFEFF, 0xFEFF)]

/-- The characters that no label may have. -/
def forbiddenRanges : Array (Nat × Nat) := #[
   (0x80, 0xA0), (0x340, 0x341), (0x6DD, 0x6DD), (0x70F, 0x70F), (0x1680, 0x1680),
   (0x180E, 0x180E), (0x2000, 0x200F), (0x2028, 0x202F), (0x205F, 0x2063), (0x206A, 0x206F),
   (0x2FF0, 0x2FFB), (0x3000, 0x3000), (0xE000, 0xF8FF), (0xFDD0, 0xFDEF), (0xFEFF, 0xFEFF),
   (0xFFF9, 0xFFFF), (0x1D173, 0x1D17A), (0x1FFFE, 0x1FFFF), (0x2FFFE, 0x2FFFF),
   (0x3FFFE, 0x3FFFF), (0x4FFFE, 0x4FFFF), (0x5FFFE, 0x5FFFF), (0x6FFFE, 0x6FFFF),
   (0x7FFFE, 0x7FFFF), (0x8FFFE, 0x8FFFF), (0x9FFFE, 0x9FFFF), (0xAFFFE, 0xAFFFF),
   (0xBFFFE, 0xBFFFF), (0xCFFFE, 0xCFFFF), (0xDFFFE, 0xDFFFF), (0xE0001, 0xE0001),
   (0xE0020, 0xE007F), (0xEFFFE, 0x10FFFF)]

/-- The characters that are written from right to left. -/
def leftwardRanges : Array (Nat × Nat) := #[
   (0x5BE, 0x5BE), (0x5C0, 0x5C0), (0x5C3, 0x5C3), (0x5D0, 0x5EA), (0x5F0, 0x5F4),
   (0x61B, 0x61B), (0x61F, 0x61F), (0x621, 0x63A), (0x640, 0x64A), (0x66D, 0x66F),
   (0x671, 0x6D5), (0x6DD, 0x6DD), (0x6E5, 0x6E6), (0x6FA, 0x6FE), (0x700, 0x70D),
   (0x710, 0x710), (0x712, 0x72C), (0x780, 0x7A5), (0x7B1, 0x7B1), (0x200F, 0x200F),
   (0xFB1D, 0xFB1D), (0xFB1F, 0xFB28), (0xFB2A, 0xFB36), (0xFB38, 0xFB3C), (0xFB3E, 0xFB3E),
   (0xFB40, 0xFB41), (0xFB43, 0xFB44), (0xFB46, 0xFBB1), (0xFBD3, 0xFD3D), (0xFD50, 0xFD8F),
   (0xFD92, 0xFDC7), (0xFDF0, 0xFDFC), (0xFE70, 0xFE74), (0xFE76, 0xFEFC)]

/-- The plain form of characters that hold a mark with a meaning in addresses. -/
def plainForms : List (Nat × String) := [
   (0xA0, " "), (0x2000, " "), (0x2001, " "), (0x2002, " "), (0x2003, " "), (0x2004, " "),
   (0x2005, " "), (0x2006, " "), (0x2007, " "), (0x2008, " "), (0x2009, " "), (0x200A, " "),
   (0x2024, "."), (0x2025, ".."), (0x2026, "..."), (0x202F, " "), (0x2047, "??"), (0x2048, "?!"),
   (0x2049, "!?"), (0x205F, " "), (0x2100, "a/c"), (0x2101, "a/s"), (0x2105, "c/o"),
   (0x2106, "c/u"), (0x2488, "1."), (0x2489, "2."), (0x248A, "3."), (0x248B, "4."),
   (0x248C, "5."), (0x248D, "6."), (0x248E, "7."), (0x248F, "8."), (0x2490, "9."),
   (0x2491, "10."), (0x2492, "11."), (0x2493, "12."), (0x2494, "13."), (0x2495, "14."),
   (0x2496, "15."), (0x2497, "16."), (0x2498, "17."), (0x2499, "18."), (0x249A, "19."),
   (0x249B, "20."), (0x2A74, "::="), (0x3000, " "), (0x33C2, "a.m."), (0x33C7, "co."),
   (0x33D8, "p.m."), (0xFE30, ".."), (0xFE52, "."), (0xFE55, ":"), (0xFE56, "?"), (0xFE5F, "#"),
   (0xFE68, "\\"), (0xFE6A, "%"), (0xFE6B, "@")]

def plain (c : Char) : Text :=
  let n := c.toNat
  if 0xFF01 ≤ n && n ≤ 0xFF5E then Text.lower [Char.ofNat (n - 0xFEE0)]
  else ((plainForms.lookup n).map String.toList).getD [c]

/-- A label in the form in which it is compared. -/
def folded (label : Text) : Text :=
  (label.filter fun c => !Text.inRanges droppedRanges c.toNat).flatMap fun c =>
    (plain c).flatMap Text.foldChar

/-- Whether a character is written from right to left. -/
def isLeftward (c : Char) : Bool := Text.inRanges leftwardRanges c.toNat

/-- Whether a label can be written.  One that has a character from right to
left starts and ends with one, and has no letter of the other kind. -/
def isAllowed (label : Text) : Bool :=
  !(label.any fun c => Text.inRanges forbiddenRanges c.toNat)
    && (!label.any isLeftward
      || ((label.head?.map isLeftward).getD false && (label.getLast?.map isLeftward).getD false
        && !label.any fun c => Text.isLetter c && !isLeftward c))

/-- The mark of a label that is written in ASCII. -/
def mark : Text := "xn--".toList

/-- A text as a label, if it is neither empty nor too long. -/
def sized? (t : Text) : Option Text := if 0 < t.length && t.length < 64 then some t else none

/-- A label in ASCII, if it can be written so. -/
def toAscii? (label : Text) : Option Text :=
  if label.all isAscii then sized? label
  else
    let label := folded label
    if !isAllowed label then none
    else if label.all isAscii then sized? label
    else if mark.isPrefixOf label then none
    else sized? (mark ++ encode label)

/-- The label that ASCII stands for, if it stands for one. -/
def ofAscii (t : Text) : Text :=
  if mark.isPrefixOf t then
    match decode? (t.drop mark.length) with
    | some label => if toAscii? label = some (Text.lower t) then label else t
    | none => t
  else t

end Label

end Redline.Http
