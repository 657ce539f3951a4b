import Redline.Review.Sections
import Redline.Review.Finding
import Redline.Advisor

/-!
# Reviews

A unit is reviewed by one prompt.  A file is reviewed unit by unit, and its
findings count only if every unit was reviewed.  Files are reviewed one after
the other, and a file that could not be reviewed has no findings.
-/

namespace Redline

/-- A file of a pull request, as the hosting site tells of it. -/
structure ChangedFile where
  name : Json
  patch : Json := .null
  status : Json := .str "modified"
  additions : Json := .int 0
  deletions : Json := .int 0
  changes : Json := .int 0
  previousName : Json := .null
deriving Inhabited

/-- A file with what a reviewer has to know about it. -/
structure FileToReview where
  file : ChangedFile
  content : Json := .null
  isTest : Bool := false
  remarks : Json := .null
  units : List ChangedUnit := []
deriving Inhabited

def FileToReview.diff (f : FileToReview) : Json := if f.file.patch.truthy then f.file.patch else .str ""

namespace Review

/-- An operation that asks a reviewer.  An answer may be missing. -/
abbrev Asking := EStateM Fault (Advisor (Option (List Finding)))

/-- The remarks, or a word that there are none. -/
def remarksText (remarks : Json) : Text :=
  if remarks.truthy then remarks.display else "No additional context provided.".toList

def unitPrompt (path : Json) (u : ChangedUnit) (isTest : Bool) (remarks : Json) : Except Fault Text := do
  let shown ← presentation path u (changeKind u) isTest
  return (if isTest then testPrompt else codePrompt).fill
    [("file_path", path.display), ("code_diff", shown.1), ("additional_context", remarksText remarks),
     ("format_instructions", answerForm), ("compare_instruction", shown.2)]

/-- What is printed of a prompt when everything is logged. -/
def echo (prompt : Text) : Text := "PROMPT (print) :  ".toList ++ prompt ++ ['\n']

def reviewUnit (path : Json) (u : ChangedUnit) (isTest : Bool) (remarks : Json) :
    Asking (List Finding) := do
  match ← Advisor.ask (← lift (unitPrompt path u isTest remarks)) with
  | some findings => return findings
  | none => throw (.noMember "NoneType" "comments")

def reviewUnits (f : FileToReview) : List ChangedUnit → Asking (List Finding)
  | [] => pure []
  | u :: us => do
      let first ← reviewUnit f.file.name u f.isTest f.remarks
      let rest ← reviewUnits f us
      return first ++ rest

def reviewFile (f : FileToReview) : Asking (List Finding) := reviewUnits f f.units

/-- The findings on a file, and none if a unit could not be reviewed. -/
def reviewFileOrNone (f : FileToReview) : Asking (List Finding) := recover [] (reviewFile f)

/-- The findings on each file, added to those found so far. -/
def reviewFilesFrom (found : List (Json × List Finding)) :
    List FileToReview → Asking (List (Json × List Finding))
  | [] => pure found
  | f :: fs => do
      let findings ← reviewFileOrNone f
      reviewFilesFrom (Table.set (← lift f.file.name.key) findings found) fs

def reviewFiles (fs : List FileToReview) : Asking (List (Json × List Finding)) :=
  reviewFilesFrom [] fs

end Review

end Redline
