import Redline.Review.Prompts
import Redline.Review.Complexity

/-!
# The code in a prompt

What a reviewer is shown of a changed unit depends on the kind of change.  Of
new code there is only the code after, of removed code only the code before.
Of modified code the code before is shown too if the change is complex.  The
hunks are shown always.
-/

namespace Redline.Review

/-- The kind of a change. -/
inductive ChangeKind where
  /-- There was no code before. -/
  | new
  /-- There is no code after. -/
  | removed
  /-- There is code on both sides, or on none. -/
  | modified
deriving DecidableEq, Repr

def changeKind (u : ChangedUnit) : ChangeKind :=
  match codeOf u.beforeCode, codeOf u.afterCode with
  | none, some _ => .new
  | some _, none => .removed
  | _, _ => .modified

def lineRange (s : Site) : Text := s.startLine.display ++ '-' :: s.endLine.display

/-- The section of the code on one side, if there is code at a known place. -/
def sideSection (t : Template) (site : Option Site) (code : Json) : Text :=
  match site, codeOf code with
  | some s, some code => t.fill [("line_range", lineRange s), ("code", code.display)]
  | _, _ => []

def beforeSection (u : ChangedUnit) : Text := sideSection beforeTemplate u.before u.beforeCode

def afterSection (u : ChangedUnit) : Text := sideSection afterTemplate u.after u.afterCode

/-- The section of the hunks, if there are any. -/
def changesSection (u : ChangedUnit) : Text :=
  if u.diffs.isEmpty then []
  else
    changesTemplate.fill
      [("diff_blocks",
        List.intercalate "\n\n".toList (u.diffs.map fun d => diffTemplate.fill [("diff_text", d.display)]))]

/-- The sections that a kind of change shows: before and after.  Of a
modification the code before is shown only if it is complex. -/
def shownSections (kind : ChangeKind) (complex : Bool) (u : ChangedUnit) : Text × Text :=
  match kind with
  | .new => ([], afterSection u)
  | .removed => (beforeSection u, [])
  | .modified => (if complex then beforeSection u else [], afterSection u)

/-- What a reviewer is asked to do with a change. -/
def instruction (kind : ChangeKind) (complex : Bool) : Text :=
  match kind with
  | .new => "Review the new code for correctness, efficiency, and seamless integration.".toList
  | .removed =>
      "Assess the removed code for its previous functionality and its impact on the system.".toList
  | .modified =>
      if complex then
        ("Compare the before and after code to evaluate changes in logic, performance, "
          ++ "and maintainability.").toList
      else
        ("Review the updated code and its diff to confirm that the changes improve or maintain "
          ++ "existing logic, performance, and code quality.").toList

/-- The instruction with a word for tests, unless it has it. -/
def forTests (isTest : Bool) (t : Text) : Text :=
  if isTest && !t.contains "test".toList then t ++ " test".toList else t

/-- The text with three line feeds in a row made two. -/
def tidy (t : Text) : Text := t.replaceAll "\n\n\n".toList "\n\n".toList

/-- The code of a unit as a reviewer sees it. -/
def unitText (path : Json) (kind : ChangeKind) (complex : Bool) (u : ChangedUnit) : Text :=
  let sections := shownSections kind complex u
  tidy (unitTemplate.fill
    [("file_path", path.display), ("before_section", sections.1), ("after_section", sections.2),
     ("changes_section", changesSection u)])

/-- Whether a kind of change shows the code before and after a unit.  That is
asked only of a modification. -/
def showsBoth (kind : ChangeKind) (u : ChangedUnit) : Except Fault Bool :=
  if kind = .modified then isComplex u else .ok false

/-- The code of a unit and the instruction for it. -/
def presentation (path : Json) (u : ChangedUnit) (kind : ChangeKind) (isTest : Bool) :
    Except Fault (Text × Text) := do
  let complex ← showsBoth kind u
  return (unitText path kind complex u, forTests isTest (instruction kind complex))

end Redline.Review
