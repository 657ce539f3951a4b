import Redline.Review.Similarity
import Redline.Diff.ChangedUnit

/-!
# Complex changes

A change is complex if a reviewer should see the code before and after it.
That is so if either side is short, if the number of lines changes much, if the
texts are not alike, or if there are many hunks.  The two measures are logged
when they are taken.
-/

namespace Redline.Review

open Number (Magnitude)

/-- The lines of a piece of code that are not blank. -/
def codeLines (code : Text) : List Text := code.strip.lines.filter fun l => !l.allBlank

/-- The number of lines below which both sides are always shown. -/
def shortCode : Nat := 5

/-- The share of changed lines above which a change is complex. -/
def lineBound : Magnitude := .ofRatio 3 10

/-- The likeness below which a change is complex. -/
def likenessBound : Magnitude := .ofRatio 7 10

/-- The number of hunks from which on a change is complex. -/
def hunkBound : Nat := 3

/-- The share by which the number of lines changes. -/
def lineShare (before after : Nat) : Magnitude :=
  .ofRatio (max before after - min before after) (max before after)

/-- Whether the change of two pieces of code is complex, and what was logged. -/
def judge (before after : Text) (hunks : Nat) : Bool × List Text :=
  let b := codeLines before
  let a := codeLines after
  if b.length < shortCode || a.length < shortCode then (true, [])
  else
    let share := lineShare b.length a.length
    let log := ["Line change percentage: ".toList ++ share.fixed 2]
    if lineBound.lt share then (true, log)
    else
      let likeness := similarity (Text.unlines b) (Text.unlines a)
      let log := log ++ ["Similarity ratio: ".toList ++ likeness.fixed 2]
      (likeness.lt likenessBound || hunkBound ≤ hunks, log)

/-- The code on a side of a change, if there is any. -/
def codeOf (code : Json) : Option Json := if code.truthy then some code else none

def codeText (code : Json) : Except Fault Text := do return (← code.textWith "strip").toList

/-- Whether the change of a unit is complex, and what was logged.  A unit
without code on one side is never complex. -/
def complexity (u : ChangedUnit) : Except Fault (Bool × List Text) :=
  match codeOf u.beforeCode, codeOf u.afterCode with
  | some before, some after => do return judge (← codeText before) (← codeText after) u.diffs.length
  | _, _ => .ok (false, [])

def isComplex (u : ChangedUnit) : Except Fault Bool := (complexity u).map Prod.fst

end Redline.Review
