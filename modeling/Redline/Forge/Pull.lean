import Redline.Forge.Session

/-!
# Pull requests

The operations on a pull request.  Each of them opens the pull request first,
which takes three requests, and any of them may fail.
-/

namespace Redline

/-- Which pull request is meant. -/
structure PullContext where
  repository : Json
  number : Json
  installation : Json

def PullContext.fullName (c : PullContext) : Except Fault Json :=
  match c.repository with
  | .obj fields =>
      match Json.lookup? "full_name" fields with
      | some name => .ok name
      | none => .error (.noField "full_name")
  | _ => .error .wrongSort

namespace Pull

open Session

/-- The label of a pull request that is being worked on. -/
def inProgress : String := "agentic-in-progress"

def «open» (c : PullContext) : Session Unit := do
  send (.installation c.installation)
  let name ← lift c.fullName
  send (.repository name)
  send (.pull c.installation name c.number)

/-! ## Labels -/

/-- The labels of a pull request that is open.  Each of them has to be a key. -/
def labels : Session (List Json) := do
  send .labels
  lift ((← forge).labels.mapM Json.key)

/-- Adds those labels that are not among the current ones. -/
def addLabels (current : List Json) : List Json → Session Unit
  | [] => pure ()
  | l :: ls => do
      if !current.contains (← lift l.key) then
        send (.addLabel l) fun f => { f with labels := f.labels ++ [l] }
      addLabels current ls

/-- Removes a label.  One that is not there cannot be removed. -/
def removeLabel (l : Json) : Session Unit := do
  let there := (← forge).labels.contains l
  send (.removeLabel l) fun f => { f with labels := f.labels.erase l }
  if !there then throw (.outage ("404 " ++ l.displayed))

/-- Removes those labels that are among the current ones. -/
def removeLabels (current : List Json) : List Json → Session Unit
  | [] => pure ()
  | l :: ls => do
      if current.contains (← lift l.key) then removeLabel l
      removeLabels current ls

/-- The labels in a value that may hold none. -/
def labelsIn (v : Json) : Except Fault (List Json) := if v.truthy then v.parts else .ok []

/-- Adds and removes labels.  Which ones are there is asked once, before. -/
def changeLabels (c : PullContext) (add remove : Json) : Session Unit := do
  Pull.open c
  let current ← labels
  addLabels current (← lift (labelsIn add))
  removeLabels current (← lift (labelsIn remove))

/-- Adds and removes labels, and tells whether all went well. -/
def manageLabels (c : PullContext) (add remove : Json) : Session Bool :=
  recover false do
    changeLabels c add remove
    return true

/-- Whether a pull request is being worked on.  It is not if that cannot be
found out. -/
def isInProgress (c : PullContext) : Session Bool :=
  recover false do
    Pull.open c
    return (← labels).contains (.str inProgress)

/-! ## Comments -/

def postComment (c : PullContext) (body : Json) : Session Unit := do
  Pull.open c
  send (.comment body)

/-- The side of a diff that is meant.  It is the new one unless the old one is
named. -/
def sideOf (side : Json) : String := if side == .str "LEFT" then "LEFT" else "RIGHT"

/-- Whether a value can be shortened, as a text can. -/
def canShorten : Json → Bool
  | .str _ => true
  | .arr _ => true
  | _ => false

/-- Posts a comment on a line, at the latest commit.  If that fails, the start of
the comment is logged, and that is a fault of its own for a comment that is no
text. -/
def postLineComment (c : PullContext) (path line body side : Json) : Session Unit := do
  Pull.open c
  send .commits
  match (← forge).commits.getLast? with
  | none => throw (.refused "No commits found in the PR")
  | some commit =>
      match ← attempt (send (.lineComment body commit path line (sideOf side))) with
      | .ok _ => return
      | .error e => throw (if canShorten body then e else .wrongSort)

/-! ## Files -/

def changedFiles (c : PullContext) : Session (List ChangedFile) := do
  Pull.open c
  send .files
  return (← forge).files

def entry (path branch : Json) : Session Forge.Entry := do
  send (.contents path branch)
  match (← forge).entryAt path branch with
  | some e => return e
  | none => throw (.outage ("404 " ++ path.displayed))

/-- The text of a file, if it can be had. -/
def fileContent (path branch : Json) : Session (Option Text) :=
  recover none do return (← entry path branch).text?

/-- The texts of a file before and after a change.  A file that was added has
none before, and one that was removed has none after. -/
def contentsOf (f : ChangedFile) : Session (Option Text × Option Text) := do
  let site ← forge
  let before ← if f.status == .str "added" then pure none else fileContent f.name site.base.ref
  let after ← if f.status == .str "removed" then pure none else fileContent f.name site.head.ref
  return (before, after)

/-- The changed units of a file that has a patch.  There are none unless the
patch and the name are texts. -/
def unitsOf (c : PullContext) (f : ChangedFile) : Session (List ChangedUnit) := do
  Pull.open c
  let (before, after) ← contentsOf f
  match f.patch, f.name with
  | .str patch, .str name => reading (Diff.collect patch.toList name before after)
  | _, _ => return []

/-- The changed units of a file, and none if they cannot be had. -/
def changedUnits (c : PullContext) (f : ChangedFile) : Session (List ChangedUnit) :=
  if f.patch.truthy then recover [] (unitsOf c f) else pure []

end Pull

end Redline
