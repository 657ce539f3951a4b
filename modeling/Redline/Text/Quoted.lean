import Redline.Text.Printable

/-!
# Quoted texts

How a text is shown inside a message: between single quotes, or between double
quotes when it has a single one and no double one.  The backslash, the quote in
use and every character without a picture are escaped.
-/

namespace Redline.Text

/-- The lower-case hexadecimal digits of a number, padded with zeros. -/
def hex (width n : Nat) : Text :=
  let ds := Nat.toDigits 16 n
  List.replicate (width - ds.length) '0' ++ ds

/-- The escape of a character by its number, in the shortest of three widths. -/
def escapeByNumber (c : Char) : Text :=
  let n := c.toNat
  if n < 0x100 then '\\' :: 'x' :: hex 2 n
  else if n < 0x10000 then '\\' :: 'u' :: hex 4 n
  else '\\' :: 'U' :: hex 8 n

def quoteChar (quote c : Char) : Text :=
  if c = quote || c = '\\' then ['\\', c]
  else if c = '\n' then ['\\', 'n']
  else if c = '\r' then ['\\', 'r']
  else if c = '\t' then ['\\', 't']
  else if isPrintable c then [c]
  else escapeByNumber c

def quoteFor (t : Text) : Char :=
  if t.contains ['\''] && !t.contains ['"'] then '"' else '\''

def quoted (t : Text) : Text :=
  let q := quoteFor t
  q :: t.flatMap (quoteChar q) ++ [q]

end Redline.Text
