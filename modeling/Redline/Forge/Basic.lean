import Redline.Review.Reviewer
import Redline.Json.Quantity

/-!
# The hosting site

A forge hosts a repository with a pull request.  It answers requests, and any
request may meet an outage.  Whether it does may depend on the request and on
how many requests came before, so an outage can begin and end at any moment.

Every request is logged when it is made, also one that fails.  What a request
changes is changed only if it does not fail.
-/

namespace Redline.Forge

/-! ## What is stored -/

/-- What stands at a path. -/
inductive Entry where
  | text (t : Text)
  | bytes (bs : List UInt8)
  /-- A directory or something else that is no file. -/
  | folder
deriving DecidableEq, Repr

/-- The text of an entry, if it is a file in UTF-8. -/
def Entry.text? : Entry → Option Text
  | text t => some t
  | bytes bs => (String.fromUTF8? ⟨bs.toArray⟩).map String.toList
  | folder => none

def Entry.digest (path : String) : Entry → String
  | folder => "tree:" ++ path
  | _ => "blob:" ++ path

/-- The entries of a branch, by path. -/
abbrev Branch := List (String × Entry)

/-- What is done to mark a comment.  Each way may be missing, and it may not
work. -/
inductive Mark where
  | resolve
  /-- The pull request replies in the comment's thread. -/
  | thread
  | reply
  | createReply
deriving DecidableEq, Repr

/-- A comment on a line of a pull request. -/
structure Remark where
  id : Json
  body : Json := .str ""
  path : Json := .str "f.py"
  /-- The line, counted from one. -/
  line : Json := .int 1
  outdated : Bool := false
  replyTo : Json := .null
  /-- The reactions to it, unless they cannot be asked for. -/
  reactions : Option (List Json) := some []
  /-- The ways of marking it that are offered, and whether they work. -/
  marks : List (Mark × Bool) := []
deriving Inhabited

/-! ## Requests -/

/-- A request to the forge. -/
inductive Request where
  | installation (id : Json)
  | repository (name : Json)
  | pull (installation repository number : Json)
  | contents (path branch : Json)
  | createRef (ref : String) (commit : Json)
  | updateFile (path : Json) (message : String) (content : Json) (digest branch : String)
  | createFile (path : Json) (message : String) (content : Json) (branch : String)
  | createPull (title body head : String) (base : Json)
  | labels
  | addLabel (label : Json)
  | removeLabel (label : Json)
  | remarks
  | remark (id : Int)
  | reactions (id : Json)
  | files
  | commits
  | comment (body : Json)
  | lineComment (body commit path line : Json) (side : String)
  | mark (way : Mark) (id : Json) (body : String)

def Request.writes : Request → Bool
  | createRef .. | updateFile .. | createFile .. | createPull .. | addLabel _ | removeLabel _
  | comment _ | lineComment .. | mark .. => true
  | _ => false

/-! ## The site -/

/-- The name and the commit of a branch. -/
structure Tip where
  ref : Json
  commit : Json := .str ""
deriving Inhabited

end Forge

open Forge in
/-- A hosting site with a pull request. -/
structure Forge where
  head : Tip := ⟨.str "head", .str "abcdef0123456789"⟩
  base : Tip := ⟨.str "base", .str ""⟩
  branches : List (String × Branch) := []
  labels : List Json := []
  files : List ChangedFile := []
  commits : List Json := [.str "c1", .str "c2"]
  time : Json := .int 1700000000
  remarks : List Remark := []
  /-- Whether replies in a thread are offered, and whether they work. -/
  threadReply : Option Bool := none
  nextNumber : Int := 1
  nextAddress : String := ""
  /-- Why a request fails that comes after a number of requests, if it does. -/
  outage : Nat → Request → Option String := fun _ _ => none
  log : List Request := []

namespace Forge

def entryAt (f : Forge) (path branch : Json) : Option Entry := do
  let entries ← f.branches.lookup (← branch.str?)
  entries.lookup (← path.str?)

/-- The forge with a text set at a path of a branch.  What is no text or stands
at no path leaves nothing behind. -/
def setText (f : Forge) (path : Json) (branch : String) (content : Json) : Forge :=
  match path, content with
  | .str path, .str t =>
      let entries := (f.branches.lookup branch).getD []
      { f with branches := Table.set branch (Table.set path (.text t.toList) entries) f.branches }
  | _, _ => f

/-- The forge with a new branch that has the entries of another. -/
def addBranch (f : Forge) (name : String) (source : Json) : Forge :=
  let entries := (source.str?.bind fun s => f.branches.lookup s).getD []
  { f with branches := Table.set name entries f.branches }

end Redline.Forge
