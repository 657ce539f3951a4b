import Redline.Refine.File
import Redline.Refine.Report
import Redline.Forge.Threads
import Redline.Forge.Commit

/-!
# A refinement run

A run takes the unresolved comments of a pull request, refines their files one
after the other, commits all changes at once, marks the suggestions that were
carried out, and posts a report.  Suggestions are marked only if the commit
succeeded, and if it failed the files with changes count as failed.
-/

namespace Redline.Refine

open Session

/-- What came of the files of a run. -/
structure Tally where
  processed : List Json := []
  failed : List Failure := []
  changes : List (Json × Json) := []
  /-- The suggestions that were carried out, each with its file. -/
  implemented : List (String × Json) := []
  skipped : List SkippedIn := []

namespace Tally

def add (t : Tally) (path : Json) : Option FileResult → Tally
  | none => { t with failed := t.failed ++ [⟨path, .str "Failed to process file"⟩] }
  | some r =>
      { t with
        processed := t.processed ++ [path]
        changes := t.changes ++ [(path, .ofText r.content)]
        implemented := t.implemented ++ r.implemented.map (·, path)
        skipped := t.skipped ++ r.skipped.map fun s => ⟨path, .str s.id, .str s.reason⟩ }

/-- The tally after the new text of a file could not be committed. -/
def withdrawFile (t : Tally) (path : Json) : Tally :=
  if t.processed.contains path then
    { t with
      processed := t.processed.erase path
      failed := t.failed ++ [⟨path, .str "Failed to commit changes"⟩] }
  else t

/-- The tally after its changes could not be committed. -/
def withdraw (t : Tally) : Tally := (t.changes.map (·.1)).foldl withdrawFile t

end Tally

/-- Refines files one after the other. -/
def refineFiles (c : PullContext) : List (Json × List Comment) → Tally → Session Tally
  | [], t => pure t
  | (path, comments) :: rest, t => do
      let r ← refineFile c path comments
      refineFiles c rest (t.add path r)

def commitMessage : String := "Implement code improvements based on review suggestions"

/-- Commits the changes of a tally and marks what was carried out.  It gives the
tally as it is to be reported, and tells whether changes were committed. -/
def settle (c : PullContext) (t : Tally) : Session (Tally × Bool) := do
  if t.changes.isEmpty then return (t, false)
  else if ← Pull.commitChanges c t.changes (.str commitMessage) then
    if !t.implemented.isEmpty then Pull.resolve c (t.implemented.map fun s => .str s.1)
    return (t, true)
  else return (t.withdraw, false)

/-- Posts the report of a tally.  A failure to post it does not matter. -/
def postReport (c : PullContext) (processed : List Json) (failed : List Failure)
    (skipped : List SkippedIn) : Session Unit :=
  recover () (Pull.postComment c (.str (report processed failed skipped)))

/-- Posts the report of a run that is given by values. -/
def postReportOf (c : PullContext) (processed failed skipped : Json) : Session Unit := do
  let text ← lift (reportOf processed failed skipped)
  recover () (Pull.postComment c (.str text))

/-- The comments on the last file. -/
def lastComments (files : List (Json × List Comment)) : List Comment := (files.getLast?.map (·.2)).getD []

/-- Whether a run with a settled tally succeeded.  It did not if there are comments
on the last file and no file counts as processed.  Otherwise it did if there was
nothing to commit, or if that was committed. -/
def verdict (files : List (Json × List Comment)) (t : Tally) (committed : Bool) : Bool :=
  if !(lastComments files).isEmpty && t.processed.isEmpty then false
  else t.changes.isEmpty || committed

/-- Refines the files of some comments, and tells whether that succeeded. -/
def runOn (c : PullContext) (comments : List Comment) : Session Bool := do
  let files ← lift (Comment.byFile comments)
  let t ← refineFiles c files {}
  let (t, committed) ← settle c t
  postReport c t.processed t.failed t.skipped
  return verdict files t committed

/-- Refines a pull request, and tells whether that succeeded.  It does if there
is nothing to do. -/
def run (c : PullContext) : Session Bool :=
  recover false do
    let comments ← Pull.unresolved c
    if comments.isEmpty then return true else runOn c comments

end Redline.Refine
