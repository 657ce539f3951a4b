import Redline.Outline.Node
import Redline.Text.Case

/-!
# Code units

The code unit of a place is the node that a reader would call the whole of
which the place is a part: a function, a class, a block.  The search climbs
from the place toward the root, without taking the root itself.  A node of at
least three lines and two children is a candidate.  The first candidate whose
kind names a definition is the unit, and if there is none the last candidate
is.  Without a candidate the place is its own unit.
-/

namespace Redline.Outline

/-- The words that mark the kind of a definition. -/
def definitionWords : List Text :=
  ["function".toList, "method".toList, "class".toList, "def".toList, "procedure".toList]

/-- Whether a node is large enough for a unit. -/
def Node.isCandidate (n : Node) : Bool :=
  n.first.row + 2 ≤ n.last.row && 2 ≤ n.children.length

/-- Whether the kind of a node names a definition. -/
def Node.isDefinition (n : Node) : Bool :=
  let kind := Text.lower n.kind.toList
  definitionWords.any fun w => kind.contains w

/-- The unit among a best candidate so far and the nodes above, of which the
last is the root. -/
def climb (best : Node) : List Node → Node
  | [] => best
  | [_root] => best
  | n :: above =>
      if n.isCandidate then
        if n.isDefinition then n else climb n above
      else climb best above

def Place.codeUnit (p : Place) : Node := climb p.node p.above

/-- The code unit of a line, counted from one. -/
def Node.codeUnit? (root : Node) (line : Int) : Option Node := (root.place? line).map Place.codeUnit

end Redline.Outline
