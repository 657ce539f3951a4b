import Redline.Desk.Supervise
import Redline.Refine.Run

/-!
# Reviewing and refining a pull request

The two operations on a pull request.  A review collects the changed units of
its files, has them reviewed and posts the findings on their lines.  A
refinement is a run over its unresolved comments.  Both are supervised.
-/

namespace Redline.Desk

open Session

def office (c : PullContext) : Office World where
  manageLabels := Pull.manageLabels c
  postComment := Pull.postComment c

/-! ## Review -/

def review : Operation where
  name := "review"
  label := .str "agentic-review"
  success := .str "Code review completed! Check the inline comments for suggestions."

/-- The first code after the change that is not empty. -/
def afterCode? (units : List ChangedUnit) : Option Json := (units.map (·.afterCode)).find? Json.truthy

/-- A file with its units, if there is something to review. -/
def toReview (f : ChangedFile) (units : List ChangedUnit) : Option FileToReview :=
  let content := afterCode? units
  if units.isEmpty || (content.isNone && f.status != .str "added") then none
  else some { file := f, content := content.getD .null, units := units }

/-- The file as it is to be reviewed.  A removed file is not. -/
def prepare (c : PullContext) (f : ChangedFile) : Session (Option FileToReview) := do
  if f.status == .str "removed" then return none
  else return toReview f (← Pull.changedUnits c f)

def prepareAll (c : PullContext) : List ChangedFile → Session (List FileToReview)
  | [] => pure []
  | f :: fs => do
      let first ← prepare c f
      let rest ← prepareAll c fs
      return first.toList ++ rest

/-- The text of a comment on a line that tells a finding. -/
def findingText (f : Finding) : String :=
  "# " ++ f.category ++ " - " ++ f.severity ++ "\n\n" ++ f.description ++ "\n\n**Suggestion**: "
    ++ f.suggestion

/-- Posts the findings on a file.  One that cannot be posted is left out. -/
def postFindings (c : PullContext) (path : Json) : List Finding → Session Unit
  | [] => pure ()
  | f :: fs => do
      recover () (Pull.postLineComment c path (.int f.line) (.str (findingText f)) (.str f.side))
      postFindings c path fs

def postResults (c : PullContext) : List (Json × List Finding) → Session Unit
  | [] => pure ()
  | (path, findings) :: rest => do
      postFindings c path findings
      postResults c rest

def reviewPull (c : PullContext) : Session Unit := do
  let files ← Pull.changedFiles c
  let results ← reviewing (Review.reviewFiles (← prepareAll c files))
  postResults c results

/-- Reviews a pull request under supervision. -/
def handleReview (c : PullContext) : Session Unit := supervise (office c) review (reviewPull c)

/-! ## Refinement -/

def refinement : Operation where
  name := "refinement"
  label := .str "agentic-refine"
  success := .str "Code refinement completed! Check the PR diff to see the changes."

/-- Refines a pull request under supervision. -/
def handleRefinement (c : PullContext) : Session Unit :=
  supervise (office c) refinement (discard (Refine.run c))

end Redline.Desk
