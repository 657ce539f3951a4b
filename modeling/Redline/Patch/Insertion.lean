import Redline.Outline.Node

/-!
# Where imports go

New imports go behind the last import of the file.  Only the leading run of
header nodes is looked at, and which kinds of nodes those are depends on the
language.  If the run has no import, they go behind what the language puts
first: a documentation string, a package line or the comments at the top.
Without any of these they go to the very start.
-/

namespace Redline.Patch

open Outline (Node)

/-- What stands at the top of a file. -/
structure HeaderKinds where
  imports : List String
  /-- The other kinds that a header may have. -/
  others : List String
  /-- Whether only the first node of the file stands in for an import. -/
  firstOnly : Bool := false

/-- What stands at the top of a file of a language. -/
def HeaderKinds.ofLanguage (language : String) : Option HeaderKinds :=
  if language = "python" then
    some { imports := ["import_statement", "import_from_statement"], others := ["string"],
           firstOnly := true }
  else if language = "java" then
    some { imports := ["import_declaration"], others := ["package_declaration"] }
  else if language = "javascript" || language = "typescript" then
    some { imports := ["import_statement"], others := ["comment", "hashbang"] }
  else none

/-- The header nodes that lead a list of nodes. -/
def HeaderKinds.leading (k : HeaderKinds) (nodes : List Node) : List Node :=
  nodes.takeWhile fun n => k.imports.contains n.kind || k.others.contains n.kind

def lastOf? (kinds : List String) (nodes : List Node) : Option Node :=
  nodes.reverse.find? fun n => kinds.contains n.kind

def HeaderKinds.anchor? (k : HeaderKinds) (nodes : List Node) : Option Node :=
  let run := k.leading nodes
  (lastOf? k.imports run).orElse fun _ =>
    lastOf? k.others (if k.firstOnly then run.take 1 else run)

/-- The row and the position where imports go, among the top nodes of a file. -/
def insertionAmong (language : String) (nodes : List Node) : Nat × Nat :=
  match (HeaderKinds.ofLanguage language).bind (·.anchor? nodes) with
  | some n => (n.last.row, n.stop)
  | none => (0, 0)

end Redline.Patch
