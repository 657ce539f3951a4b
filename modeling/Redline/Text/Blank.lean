import Redline.Text.Basic

/-!
# Blank characters

The characters that count as white space, as a table of ranges, and what is
defined by them: the stripped text and the blank text.
-/

namespace Redline.Text

/-- The ranges of white space: the control characters that move the print
position, the four separators, the spaces, and the two marks that end a line
or a paragraph. -/
def blankRanges : List (Nat × Nat) :=
  [(0x09, 0x0D), (0x1C, 0x20), (0x85, 0x85), (0xA0, 0xA0), (0x1680, 0x1680), (0x2000, 0x200A),
   (0x2028, 0x2029), (0x202F, 0x202F), (0x205F, 0x205F), (0x3000, 0x3000)]

def isBlank (c : Char) : Bool :=
  blankRanges.any fun r => r.1 ≤ c.toNat && c.toNat ≤ r.2

/-- The text without the white space at its two ends. -/
def strip (t : Text) : Text := t.trim isBlank

/-- Whether the text has white space only. -/
def allBlank (t : Text) : Bool := t.all isBlank

end Redline.Text
