import Redline.Context
import Redline.Table

/-!
# Comments and their groups

A comment is a remark on a line of a file.  Comments are grouped in four ways:
by file, by how near their lines are, by the code unit of their line, and by a
given table from lines to nodes.  In every grouping the groups come in the
order of their first comment, and within one the comments keep their order
unless it says otherwise.

What a comment says and where comes from outside, so it is given by values.
Comments cannot be put in the order of their lines if these cannot be compared.
-/

namespace Redline

open Outline (Reading)

/-- A remark on a line of a file. -/
structure Comment where
  id : Json
  path : Json
  /-- The line, counted from one. -/
  line : Json
  body : Json
  category : String := "General"
  column : Int := 1
deriving Inhabited

/-! ## Groups by a key -/

/-- The groups with one more item: it joins the group of its key, or starts a
group at the end. -/
def joinGroup {κ α : Type} [BEq κ] (key : κ) (a : α) : List (κ × List α) → List (κ × List α)
  | [] => [(key, [a])]
  | g :: gs => if g.1 == key then (g.1, g.2 ++ [a]) :: gs else g :: joinGroup key a gs

def groupBy {κ α : Type} [BEq κ] (key : α → κ) (as : List α) : List (κ × List α) :=
  as.foldl (fun gs a => joinGroup (key a) a gs) []

namespace Comment

def byFile (cs : List Comment) : Except Fault (List (Json × List Comment)) :=
  match cs.find? fun c => !c.path.isKey with
  | some c => .error (.notKey c.path.sortName)
  | none => .ok (groupBy (·.path) cs)

/-! ## Groups by line -/

/-- The comments in the order of their lines.  Comments of one line keep their
order. -/
def sortByLine (cs : List Comment) : Except Fault (List Comment) :=
  if Json.inOneOrder (cs.map (·.line)) then .ok (cs.mergeSort fun a b => a.line.notAbove b.line)
  else .error .wrongSort

/-- Whether two lines differ by at most a threshold. -/
def areNear (threshold line other : Json) : Except Fault Bool := do
  let distance := ((← other.quantity).sub (← line.quantity)).abs
  return distance.atMost (← threshold.quantity)

/-- Cuts a list of comments where the lines of two neighbours differ by more
than a threshold. -/
def cluster (threshold : Json) : List Comment → Except Fault (List (List Comment))
  | [] => .ok []
  | [c] => .ok [[c]]
  | c :: d :: cs => do
      let near ← areNear threshold c.line d.line
      match ← cluster threshold (d :: cs) with
      | [] => return [[c]]
      | g :: gs => return if near then (c :: g) :: gs else [c] :: g :: gs

/-- The threshold that is used if none is given. -/
def defaultThreshold : Int := 10

def byProximity (threshold : Json) (cs : List Comment) : Except Fault (List (List Comment)) := do
  cluster threshold (← sortByLine cs)

/-! ## Groups by code unit -/

/-- The lines of the code unit that a comment belongs to, if there is one. -/
def unitLines (path : String) (content : Text) (c : Comment) : Reading (Option (Int × Int)) := do
  let e ← Context.extract path content c.line
  return e.map fun e => (e.context.startLine, e.context.endLine)

/-- Joins every comment to the group of its unit. -/
def joinUnits (path : String) (content : Text) :
    List Comment → List (Option (Int × Int) × List Comment) →
      Reading (List (Option (Int × Int) × List Comment))
  | [], groups => pure groups
  | c :: cs, groups => do
      let unit ← unitLines path content c
      joinUnits path content cs (joinGroup unit c groups)

/-- The comments of each code unit of a file, in the order of their lines. -/
def byUnit (path : String) (content : Text) (cs : List Comment) : Reading (List (List Comment)) := do
  let groups ← joinUnits path content cs []
  lift (groups.mapM fun g => sortByLine g.2)

/-- The comments of each code unit of a file whose path and text come from
outside.  They are not looked at if there are no comments. -/
def byUnitOf (path content : Json) (cs : List Comment) : Reading (List (List Comment)) := do
  if cs.isEmpty then return []
  let path ← lift (path.textWith "lower")
  byUnit path (← lift (content.textWith "splitlines")).toList cs

/-! ## Groups by a table -/

/-- A table from lines to nodes, of which the lines are written out.  Of two
entries for one line the last counts. -/
def readTable (entries : List (String × Json)) : Except Fault (List (Json × Json)) :=
  entries.foldlM (fun table e => do return Table.set (Json.int (← readInteger e.1)) e.2 table) []

/-- The node that a table gives for a line: the first of the nodes there. -/
def nodeOf (table : List (Json × Json)) (line : Json) : Except Fault (Option Json) := do
  match table.lookup (← line.key) with
  | none => return none
  | some nodes =>
      if !nodes.truthy then return none
      match (← nodes.parts).head? with
      | none => return none
      | some node => return some (← node.key)

/-- The comments of each node that a table gives.  The others are left out. -/
def byNode (table : List (Json × Json)) (cs : List Comment) : Except Fault (List (Json × List Comment)) := do
  let placed ← cs.filterMapM fun c => do return (← nodeOf table c.line).map fun n => (n, c)
  return (groupBy Prod.fst placed).map fun g => (g.1, g.2.map Prod.snd)

end Comment

end Redline
