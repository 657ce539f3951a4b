import Redline.Text.Digit
import Redline.Fault

/-!
# Hunk headers

A patch is a row of hunks, and a hunk starts with a header

    @@ -10,7 +12,9 @@ tail

which gives the first line of the hunk in the old and in the new file.  The
counts behind the commas may be missing, and a number is written with decimal
digits of any script.  A header is recognised wherever it stands in a patch and
reaches to the end of its line.
-/

namespace Redline.Diff

open Text (isDecimal)

/-- The digits at the start of a text, at least one, and the rest. -/
def readDecimals (t : Text) : Option (Text × Text) :=
  let ds := t.takeWhile isDecimal
  if ds.isEmpty then none else some (ds, t.dropWhile isDecimal)

/-- The text behind a word that it starts with. -/
def readWord (word t : Text) : Option Text :=
  if word.isPrefixOf t then some (t.drop word.length) else none

/-- The text behind a comma and digits, or the text itself without them. -/
def skipCount (t : Text) : Text :=
  match t with
  | ',' :: u =>
      match readDecimals u with
      | some (_, rest) => rest
      | none => t
  | _ => t

/-- The digits of the two line numbers of a header that a text starts with, and
the rest behind the closing mark. -/
def readHeader (t : Text) : Option (Text × Text × Text) := do
  let t ← readWord "@@ -".toList t
  let (old, t) ← readDecimals t
  let t ← readWord " +".toList (skipCount t)
  let (new, t) ← readDecimals t
  let rest ← readWord " @@".toList (skipCount t)
  return (old, new, rest)

/-- Whether a header stands at the start of a text. -/
def startsHeader (t : Text) : Bool := (readHeader t).isSome

def firstLine (t : Text) : Text := t.takeWhile (· ≠ '\n')

/-- `headers` in a text of which the first `skip` characters belong to a header
that is already found. -/
def headersFrom : (skip : Nat) → Text → List Text
  | _, [] => []
  | skip + 1, _ :: t => headersFrom skip t
  | 0, c :: t =>
      if startsHeader (c :: t) then
        let line := firstLine (c :: t)
        line :: headersFrom (line.length - 1) t
      else headersFrom 0 t

/-- The headers of a patch, each with the rest of its line. -/
def headers (patch : Text) : List Text := headersFrom 0 patch

/-- The position of the first header in a text. -/
def nextHeader? : Text → Option Nat
  | [] => none
  | c :: t => if startsHeader (c :: t) then some 0 else (nextHeader? t).map (· + 1)

def lineNumber (digits : Text) : Except Fault Nat :=
  match Text.readDigits digits with
  | .ok n => .ok n
  | .error .malformed => .error (.notInteger (String.ofList digits))
  | .error (.tooLong count) => .error (.integerTooLong count)

/-- The first lines of a hunk in the old and in the new file, if the text
starts with a header. -/
def lineNumbers (header : Text) : Except Fault (Option (Nat × Nat)) :=
  match readHeader header with
  | none => .ok none
  | some (old, new, _) => do
      let old ← lineNumber old
      let new ← lineNumber new
      return some (old, new)

end Redline.Diff
