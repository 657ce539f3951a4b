import Redline.Outline.CodeUnit
import Redline.Outline.Language
import Redline.Outline.Parsers
import Redline.Json.Quantity

/-!
# The code around a line

`extract` gives the code that a line belongs to, with where it stands.  If the
file has a language and its text an outline, that is the code unit of the line.
Otherwise it is a window of lines around it.

A line comes from outside, so it is a value.  It should be an integer.  A
fraction lies between two lines, and a line that is no number cannot be located:
asking for one is a fault unless there is nothing to look at.
-/

namespace Redline

open Outline
open Number (Quantity)

/-- Where a piece of code stands. -/
structure CodeContext where
  path : String
  /-- The first line, counted from one. -/
  startLine : Int
  endLine : Int
  /-- The kind of the code unit, if it is one. -/
  kind : Option String := none
deriving DecidableEq, Repr, Inhabited

/-- A piece of code and where it stands. -/
structure Excerpt where
  code : Text
  context : CodeContext
deriving DecidableEq, Repr, Inhabited

namespace Context

/-! ## A window of lines -/

/-- The number of lines that a window shows on each side. -/
def reach : Int := 15

/-- The lines from one to another as an excerpt. -/
def linesBetween (path : String) (ls : List Text) (first last : Int) : Excerpt :=
  ⟨Text.unlines (Text.slice ls (first - 1) last), ⟨path, first, last, none⟩⟩

/-- The window of lines around a line that is an integer. -/
def windowAt (path : String) (ls : List Text) (line : Int) : Option Excerpt :=
  if (ls.length : Int) < line then none
  else some (linesBetween path ls (max 1 (line - reach)) (min (ls.length : Int) (line + reach)))

/-- The window of lines around a fraction.  It can be cut out only if it is the
whole text. -/
def windowAround (path : String) (ls : List Text) (line : Quantity) : Except Fault (Option Excerpt) :=
  let length := Quantity.whole ls.length
  if length.below line then .ok none
  else if (Quantity.whole 1).below (line.sub (.whole reach)) || (line.add (.whole reach)).below length then
    .error .wrongSort
  else .ok (some (linesBetween path ls 1 ls.length))

def window (path : String) (content : Text) (line : Json) : Except Fault (Option Excerpt) :=
  let ls := content.paragraphs
  if ls.isEmpty then .ok none
  else
    match line.quantity? with
    | some (.whole n) => .ok (windowAt path ls n)
    | some line => windowAround path ls line
    | none => .error .wrongSort

/-! ## The code unit -/

def ofNode (path : String) (content : Text) (n : Node) : Excerpt :=
  ⟨n.text content, ⟨path, (n.first.row : Int) + 1, (n.last.row : Int) + 1, some n.kind⟩⟩

/-- The place of a line in a tree, if the line is in it. -/
def placeIn (tree : Tree) (line : Json) : Except Fault (Option Place) :=
  match line.quantity? with
  | some (.whole n) => tree.root.map (·.place? n)
  | some line => tree.root.map (·.placeOf? line)
  | none => .error .wrongSort

/-- The code unit of a line in a tree, if the line is in it. -/
def unitIn (path : String) (content : Text) (tree : Tree) (line : Json) :
    Except Fault (Option Excerpt) :=
  (placeIn tree line).map fun place => place.map fun p => ofNode path content p.codeUnit

/-- The tree of a file, if it has a language and can be parsed. -/
def treeOf (path : String) (content : Text) : Reading (Option Tree) :=
  match languageOf? path with
  | none => pure none
  | some language => parse? language content

def extract (path : String) (content : Text) (line : Json) : Reading (Option Excerpt) := do
  match ← treeOf path content with
  | none => lift (window path content line)
  | some tree =>
      match ← lift (unitIn path content tree line) with
      | some excerpt => return some excerpt
      | none => lift (window path content line)

/-! ## The file as a whole -/

/-- What is known about a file without looking at a line. -/
structure FileContext where
  path : String
  extension : String
  imports : List Text
  language : Option String

/-- The words that begin an import, by language. -/
def importWords (language : String) : List Text :=
  if language = "python" then ["import ".toList, "from ".toList]
  else if language = "javascript" || language = "typescript" then
    ["import ".toList, "require(".toList]
  else if language = "java" || language = "go" then ["import ".toList]
  else if language = "rust" then ["use ".toList]
  else []

/-- The number of lines in which imports are looked for. -/
def importReach : Nat := 50

def ofFile (path : String) (content : Text) : FileContext :=
  let language := languageOf? path
  let words := (language.map importWords).getD []
  let ls := (content.paragraphs.take importReach).map Text.strip
  { path := path
    extension := String.ofList (Outline.extension path.toList)
    imports := ls.filter fun l => words.any fun w => w.isPrefixOf l
    language := language }

/-- One node of a chain: its kind, and its name if that says something. -/
def link (kind name : Json) : Except Fault Text :=
  match name.truthy, kind with
  | true, _ => .ok (kind.display ++ ": ".toList ++ name.display)
  | false, .str kind => .ok kind.toList
  | false, _ => .error .wrongSort

/-- A chain of enclosing nodes, each by its kind and its name. -/
def chain (nodes : List (Json × Json)) : Except Fault Text := do
  return List.intercalate " > ".toList (← nodes.mapM fun n => link n.1 n.2)

end Context

end Redline
