import Redline.Text.Lines
import Redline.Number.Quantity

/-!
# Nodes of an outline

An outline is a tree over the lines of a text.  A node has a kind, the span of
characters it covers and the points where it starts and ends, and its children
lie inside it.  Kinds are names, since each language brings its own.

A *place* is a node together with the nodes above it.  `Node.place?` gives the
place of a line: it enters the first child that covers the line as long as
there is one.  `Node.placeOf?` does the same for a line that may be a fraction,
which lies between two lines.
-/

namespace Redline.Outline

/-- A row and a column, both counted from zero. -/
structure Point where
  row : Nat
  column : Nat
deriving DecidableEq, Repr, Inhabited

/-- A node of an outline. -/
structure Node where
  /-- What the node is, in the words of its language. -/
  kind : String
  start : Nat
  stop : Nat
  first : Point
  last : Point
  children : List Node
deriving Inhabited, Repr

/-- The kind of a node that the grammar could not read. -/
def errorKind : String := "ERROR"

/-- The characters of a text that a node covers. -/
def Node.text (n : Node) (t : Text) : Text := Text.slice t n.start n.stop

mutual

/-- The node and all nodes inside it, each before its children. -/
def Node.walk : Node → List Node
  | ⟨kind, start, stop, first, last, children⟩ =>
      ⟨kind, start, stop, first, last, children⟩ :: walkAll children

/-- The walks of a list of nodes, one after the other. -/
def walkAll : List Node → List Node
  | [] => []
  | n :: ns => n.walk ++ walkAll ns

end

open Number (Quantity)

/-- Whether a node covers a row, given by a number that may be negative. -/
def Node.covers (n : Node) (row : Int) : Bool := (n.first.row : Int) ≤ row && row ≤ (n.last.row : Int)

/-- Whether a node covers a row, given by a number of either kind. -/
def Node.coversRow (n : Node) : Quantity → Bool
  | .whole row => n.covers row
  | row => (Quantity.whole n.first.row).atMost row && row.atMost (.whole n.last.row)

/-! ## Places -/

/-- A node and the nodes above it, the nearest first. -/
structure Place where
  node : Node
  above : List Node
deriving Inhabited

mutual

/-- The place in a node, which has the given nodes above it, where only nodes
that are hit are entered. -/
def Node.placeUnder (hit : Node → Bool) (above : List Node) : Node → Option Place
  | ⟨kind, start, stop, first, last, children⟩ =>
      let n : Node := ⟨kind, start, stop, first, last, children⟩
      if hit n then
        match placeAmong hit (n :: above) children with
        | some p => some p
        | none => some ⟨n, above⟩
      else none

/-- The place in the first of a list of nodes that is hit. -/
def placeAmong (hit : Node → Bool) (above : List Node) : List Node → Option Place
  | [] => none
  | n :: ns =>
      match n.placeUnder hit above with
      | some p => some p
      | none => placeAmong hit above ns

end

/-- The place of a line, counted from one, in the outline below a root. -/
def Node.place? (root : Node) (line : Int) : Option Place := root.placeUnder (·.covers (line - 1)) []

/-- The place of a line that is given by a number of either kind. -/
def Node.placeOf? (root : Node) (line : Quantity) : Option Place :=
  root.placeUnder (·.coversRow (line.sub (.whole 1))) []

end Redline.Outline
