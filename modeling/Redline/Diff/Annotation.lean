import Redline.Diff.Header
import Redline.Number.Decimal
import Redline.Text.Lines
import Redline.Json.Quantity

/-!
# Hunks with line numbers

`annotate` writes the line numbers of both files into a hunk.  An added line
gets its number in the new file, a removed line its number in the old one, and
a line of context both.  The header and every other line stay as they are.
`numbered` does the same for numbers that come from outside and may be too long
to write, or no numbers at all.

`change` cuts the hunk of a header out of a patch and annotates it.
-/

namespace Redline.Diff

open Number (intText)

/-- The lines of a hunk below its header, with their numbers. -/
def annotateLines (old new : Int) : List Text → List Text
  | [] => []
  | l :: ls =>
      match l with
      | '+' :: t => ('+' :: intText new ++ ": ".toList ++ t) :: annotateLines old (new + 1) ls
      | '-' :: t => ('-' :: intText old ++ ": ".toList ++ t) :: annotateLines (old + 1) new ls
      | ' ' :: t =>
          (' ' :: intText old ++ ',' :: intText new ++ ": ".toList ++ t)
            :: annotateLines (old + 1) (new + 1) ls
      | _ => l :: annotateLines old new ls

/-- A hunk with the line numbers of both files. -/
def annotate (hunk : Text) (old new : Int) : Text :=
  match hunk.lines with
  | [] => hunk
  | header :: ls => Text.unlines (header :: annotateLines old new ls)

/-- Checks that the numbers which the lines of a hunk get can be written. -/
def checkNumbers (old new : Int) : List Text → Except Fault Unit
  | [] => .ok ()
  | ('+' :: _) :: ls => do
      discard (writeInteger new)
      checkNumbers old (new + 1) ls
  | ('-' :: _) :: ls => do
      discard (writeInteger old)
      checkNumbers (old + 1) new ls
  | (' ' :: _) :: ls => do
      discard (writeInteger old)
      discard (writeInteger new)
      checkNumbers (old + 1) (new + 1) ls
  | _ :: ls => checkNumbers old new ls

/-- A hunk with the line numbers of both files, if they can be written. -/
def numberedFrom (hunk : Text) (old new : Int) : Except Fault Text := do
  checkNumbers old new hunk.lines.tail
  return annotate hunk old new

/-- The number of the next line, for a number that comes from outside. -/
def nextNumber (n : Json) : Except Fault Json := do return .ofQuantity ((← n.quantity).add (.whole 1))

/-- The lines of a hunk below its header, with numbers that come from outside. -/
def numberLines (old new : Json) : List Text → Except Fault (List Text)
  | [] => .ok []
  | l :: ls =>
      match l with
      | '+' :: t => do
          let rest ← numberLines old (← nextNumber new) ls
          return ('+' :: new.display ++ ": ".toList ++ t) :: rest
      | '-' :: t => do
          let rest ← numberLines (← nextNumber old) new ls
          return ('-' :: old.display ++ ": ".toList ++ t) :: rest
      | ' ' :: t => do
          let rest ← numberLines (← nextNumber old) (← nextNumber new) ls
          return (' ' :: old.display ++ ',' :: new.display ++ ": ".toList ++ t) :: rest
      | _ => do return l :: (← numberLines old new ls)

/-- A hunk with the line numbers of both files, counted from values that should
be integers. -/
def numbered (hunk : Text) (old new : Json) : Except Fault Text :=
  match old, new, hunk.lines with
  | .int old, .int new, _ => numberedFrom hunk old new
  | _, _, [] => .ok hunk
  | old, new, header :: ls => do return Text.unlines (header :: (← numberLines old new ls))

/-- A hunk as a reviewer sees it. -/
structure Change where
  /-- Its text, with line numbers if its header gives them. -/
  text : Text
  /-- Its first line in the old file, or zero. -/
  old : Nat
  /-- Its first line in the new file, or zero. -/
  new : Nat
deriving DecidableEq, Repr

/-- The part of a patch from a header up to the next one, stripped. -/
def hunkText (patch header : Text) (start : Nat) : Text :=
  let tail := patch.drop start
  match nextHeader? (tail.drop header.length) with
  | some n => Text.strip (tail.take (header.length + n))
  | none => Text.strip tail

/-- The hunk of a header in a patch.  A header that is not in the patch stands
for itself. -/
def change (patch header : Text) : Except Fault Change :=
  match Text.find? header patch with
  | none => .ok ⟨header, 0, 0⟩
  | some start =>
      let hunk := hunkText patch header start
      match lineNumbers header with
      | .error e => .error e
      | .ok none => .ok ⟨hunk, 0, 0⟩
      | .ok (some (old, new)) => (numberedFrom hunk old new).map fun t => ⟨t, old, new⟩

end Redline.Diff
