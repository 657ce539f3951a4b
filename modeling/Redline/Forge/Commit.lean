import Redline.Forge.Pull
import Redline.Template

/-!
# Committing changes

Changes to files go to a new branch that starts where the pull request does,
and a new pull request offers them to its branch.  The changes count as
committed if every file could be written, whether or not the new pull request
could be opened.
-/

namespace Redline.Pull

open Session

def refinementBranch (f : Forge) : Except Fault String := do
  return f.head.ref.displayed ++ "-refinement-" ++ String.ofList (Number.intText (← f.time.toInteger))

/-- Makes the new branch.  The start of its commit is logged, so the commit has
to be a text. -/
def createBranch (branch : String) : Session Unit := do
  let f ← forge
  send (.createRef ("refs/heads/" ++ branch) f.head.commit) (·.addBranch branch f.head.ref)
  if !canShorten f.head.commit then throw .wrongSort

def fileMessage (message : Json) (action : String) (path : Json) : String :=
  message.displayed ++ " - " ++ action ++ " " ++ path.displayed

def updateFile (branch : String) (message path content : Json) : Session Unit := do
  let e ← entry path (.str branch)
  send (.updateFile path (fileMessage message "Update" path) content (e.digest path.displayed) branch)
    (·.setText path branch content)

def createFile (branch : String) (message path content : Json) : Session Unit :=
  send (.createFile path (fileMessage message "Create" path) content branch)
    (·.setText path branch content)

/-- Writes a file, as a new one if it cannot be written over, and tells whether
it was written. -/
def writeFile (branch : String) (message path content : Json) : Session Bool := do
  match ← attempt (updateFile branch message path content) with
  | .ok _ => return true
  | .error _ => recover false do
      createFile branch message path content
      return true

/-- Writes files one after the other and gives the paths that were written and
those that were not. -/
def writeFiles (branch : String) (message : Json) :
    List (Json × Json) → Session (List Json × List Json)
  | [] => pure ([], [])
  | (path, content) :: rest => do
      let written ← writeFile branch message path content
      let (done, failed) ← writeFiles branch message rest
      return if written then (path :: done, failed) else (done, path :: failed)

def pathRow (paths : List Json) : Except Fault String := do
  return String.intercalate ", " (← paths.mapM fun p => match p with
    | .str s => .ok s
    | _ => .error .wrongSort)

def offerTitle (number : Json) : String := "Automated code refinements for PR #" ++ number.displayed

def offerBody (number : Json) (paths : String) : String :=
  String.ofList (textOfLines
    ["",
     "        This PR contains automated code refinements based on review comments.",
     "",
     "        Original PR: #" ++ number.displayed,
     "        Files modified: " ++ paths,
     "",
     "        These changes were implemented by the automated code refinement system.",
     "        Please review and merge if the changes look good.",
     "        "])

/-- The comment that announces the new pull request. -/
def announcement (number : Int) (address : String) : String :=
  "✅ Created PR #" ++ String.ofList (Number.intText number)
    ++ " with automated code refinements. [View changes](" ++ address ++ ")"

/-- Opens the new pull request and announces it. -/
def offer (c : PullContext) (branch : String) (target : Json) (paths : String) : Session Unit := do
  send (.createPull (offerTitle c.number) (offerBody c.number paths) branch target)
  let f ← forge
  postComment c (.str (announcement f.nextNumber f.nextAddress))

/-- Commits changes to files, and tells whether every file was written. -/
def commitChanges (c : PullContext) (changes : List (Json × Json)) (message : Json) : Session Bool :=
  recover false do
    Pull.open c
    let target := (← forge).head.ref
    let branch ← lift (refinementBranch (← forge))
    createBranch branch
    let (done, failed) ← writeFiles branch message changes
    if !done.isEmpty then
      let paths ← lift (pathRow done)
      recover () (offer c branch target paths)
    return failed.isEmpty

end Redline.Pull
