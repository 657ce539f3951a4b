import Redline.Diff.Annotation
import Redline.Context

/-!
# Changed code units

A changed unit is a code unit with its code before and after a change and the
hunks that change it.  `collect` gives the changed units of a patch: for each
hunk the unit of its first line in the old and in the new file, and hunks of
one unit together.  Units are told apart by their lines before the change, or
by those after it if there was no unit before.
-/

namespace Redline

open Outline (Reading)

/-- Where a unit stands, as it is told. -/
structure Site where
  path : String
  /-- The first line, counted from one. -/
  startLine : Json
  endLine : Json
  /-- The kind of the code unit, if it is one. -/
  kind : Option String := none
deriving Inhabited

def CodeContext.site (c : CodeContext) : Site := ⟨c.path, .int c.startLine, .int c.endLine, c.kind⟩

/-- A code unit before and after a change.  Its code and its hunks are texts
unless whoever tells of it does otherwise. -/
structure ChangedUnit where
  path : String
  beforeCode : Json := .null
  afterCode : Json := .null
  before : Option Site := none
  after : Option Site := none
  diffs : List Json := []
deriving Inhabited

namespace ChangedUnit

/-- The side of a change. -/
inductive Side where
  | before
  | after
deriving DecidableEq, Repr

/-- What tells a unit from the others of its file. -/
structure Key where
  side : Side
  startLine : Json
  endLine : Json
deriving BEq

def key? (u : ChangedUnit) : Option Key :=
  match u.before, u.after with
  | some c, _ => some ⟨.before, c.startLine, c.endLine⟩
  | none, some c => some ⟨.after, c.startLine, c.endLine⟩
  | none, none => none

/-- The unit with one more hunk, unless it has it. -/
def addDiff (u : ChangedUnit) (diff : Json) : ChangedUnit :=
  if u.diffs.contains diff then u else { u with diffs := u.diffs ++ [diff] }

end ChangedUnit

namespace Diff

/-- The code at a line of a file that may be missing. -/
def excerptAt (path : String) (line : Nat) (content : Option Text) : Reading (Option Excerpt) :=
  match content with
  | none => pure none
  | some t =>
      if t.isEmpty || line = 0 then pure none
      else recover none (Context.extract path t (.int line))

/-- The code of an excerpt, if there is one. -/
def codeOf (e : Option Excerpt) : Json := .ofOption (fun e => .ofText e.code) e

/-- The unit of a hunk whose numbers are known.  It exists if there is code at
the hunk's first line on either side. -/
def unitAt (header : Text) (path : String) (before after : Option Text) (old new : Nat) :
    Reading (Option ChangedUnit) := do
  let b ← excerptAt path old before
  let a ← excerptAt path new after
  if b.isNone && a.isNone then return none
  else
    return some
      { path := path, beforeCode := codeOf b, afterCode := codeOf a,
        before := b.map (·.context.site), after := a.map (·.context.site), diffs := [.ofText header] }

def unitOfHeader (header : Text) (path : String) (before after : Option Text) :
    Reading (Option ChangedUnit) :=
  match lineNumbers header with
  | .ok (some (old, new)) => unitAt header path before after old new
  | _ => pure none

/-- The units with one more hunk: it joins the unit of the same key, or its own
unit comes last. -/
def addChange (u : ChangedUnit) (text : Json) : List ChangedUnit → List ChangedUnit
  | [] => [{ u with diffs := [text] }]
  | v :: vs => if v.key? == u.key? then v.addDiff text :: vs else v :: addChange u text vs

/-- The units of the hunks with the given headers, added to those found so far. -/
def collectFrom (patch : Text) (path : String) (before after : Option Text) :
    List Text → List ChangedUnit → Reading (List ChangedUnit)
  | [], units => pure units
  | header :: rest, units => do
      let c ← lift (change patch header)
      match ← unitOfHeader header path before after with
      | none => collectFrom patch path before after rest units
      | some u => collectFrom patch path before after rest (addChange u (.ofText c.text) units)

/-- The changed units of a patch.  There are none if a header cannot be read. -/
def collect (patch : Text) (path : String) (before after : Option Text) :
    Reading (List ChangedUnit) :=
  recover [] (collectFrom patch path before after (headers patch) [])

end Diff

end Redline
