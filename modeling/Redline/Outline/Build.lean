import Redline.Outline.Node
import Redline.Text.Blank

/-!
# The outline of a text

A line that starts with a character other than white space opens a *section*,
which reaches to the next such line and loses the blank lines at its end.  The
first line decides the kind of the section by the words it begins with.

A section of more than one line has two children: an `identifier`, which is its
first character, and a `block`, which is all the rest.  The block holds the
lines below the first one in two runs of nearly equal length, the second never
the shorter.  The root covers the whole text and holds the sections.
-/

namespace Redline.Outline

open Text (unlines isBlank allBlank)

/-! ## Kinds of sections -/

/-- How a language names its sections. -/
structure Grammar where
  /-- The kinds of the sections that begin with given words. -/
  rules : List (Text × String)
  /-- The kind of all others. -/
  otherwise : String

def Grammar.ofLanguage (language : String) : Grammar :=
  if language = "python" then
    ⟨[("\"\"\"".toList, "string"), ("'''".toList, "string"),
      ("import ".toList, "import_statement"), ("from ".toList, "import_statement"),
      ("class ".toList, "class_definition"), ("def ".toList, "function_definition"),
      ("async def ".toList, "function_definition")], "expression_statement"⟩
  else if language = "java" then
    ⟨[("package ".toList, "package_declaration"), ("import ".toList, "import_declaration")],
      "class_declaration"⟩
  else if language = "javascript" || language = "typescript" then
    ⟨[("import ".toList, "import_statement"), ("//".toList, "comment"), ("/*".toList, "comment"),
      ("#!".toList, "hashbang")], "function_declaration"⟩
  else ⟨[], "statement"⟩

/-- The kind of the section that a line opens. -/
def Grammar.kindOf (g : Grammar) (line : Text) : String :=
  match g.rules.find? fun r => r.1.isPrefixOf line.strip with
  | some r => r.2
  | none => g.otherwise

/-! ## Sections -/

/-- A line that opens a section, with the lines below it up to the next one. -/
structure Section where
  row : Nat
  offset : Nat
  head : Text
  body : List Text

def opens : Text → Bool
  | [] => false
  | c :: _ => !isBlank c

/-- The number of characters of some lines, each with its line feed. -/
def size : List Text → Nat
  | [] => 0
  | l :: ls => l.length + 1 + size ls

/-- The sections of the lines from a row and a position on. -/
def sections (row offset : Nat) : List Text → List Section
  | [] => []
  | l :: ls =>
      let rest := sections (row + 1) (offset + (l.length + 1)) ls
      if opens l then ⟨row, offset, l, ls.takeWhile fun m => !opens m⟩ :: rest else rest

/-- The lines without the blank ones at the end. -/
def trimLines (ls : List Text) : List Text := (ls.reverse.dropWhile allBlank).reverse

/-! ## Nodes -/

/-- The node of some lines from a row and a position on. -/
def nodeOfLines (kind : String) (row offset : Nat) (ls : List Text) (children : List Node) : Node where
  kind := kind
  start := offset
  stop := offset + (unlines ls).length
  first := ⟨row, 0⟩
  last := ⟨row + (ls.length - 1), (ls.getLastD []).length⟩
  children := children

def runKind : String := "expression_statement"

/-- The two runs of the lines of a block.  The first is left out if it is empty. -/
def runs (row offset : Nat) (body : List Text) : List Node :=
  let half := body.length / 2
  let upper := body.take half
  let lower := body.drop half
  let second := nodeOfLines runKind (row + half) (offset + size upper) lower []
  if upper.isEmpty then [second] else [nodeOfLines runKind row offset upper [], second]

/-- The children of a section: none if it is one line, and else its first
character and its block. -/
def Section.children (s : Section) (whole : Node) (body : List Text) : List Node :=
  if body.isEmpty then []
  else
    [{ kind := "identifier", start := s.offset, stop := s.offset + 1,
       first := ⟨s.row, 0⟩, last := ⟨s.row, 1⟩, children := [] },
     { kind := "block", start := s.offset + 1, stop := whole.stop,
       first := ⟨s.row, 1⟩, last := whole.last,
       children := runs (s.row + 1) (s.offset + (s.head.length + 1)) body }]

def Section.node (g : Grammar) (s : Section) : Node :=
  let body := trimLines s.body
  let whole := nodeOfLines (g.kindOf s.head) s.row s.offset (s.head :: body) []
  { whole with children := s.children whole body }

def rootKind : String := "module"

def build (language : String) (t : Text) : Node :=
  let ls := t.lines
  nodeOfLines rootKind 0 0 ls ((sections 0 0 ls).map (Section.node (Grammar.ofLanguage language)))

end Redline.Outline
