import Redline.Outline.Build
import Redline.Recovery
import Redline.Json.Quantity

/-!
# Parsers that may fail

A parser is looked up by its language and then run on a text.  Either step may
raise a fault or give nothing, and a parse may give a tree that cannot be read or
cannot be edited.  `Parsers` says how every step turns out.  The outcome of a
step may depend on how many steps of its kind came before, so an outage can begin
and end at any moment.

`Parsers.sound` never fails.  `ParserFaults` describes the common kinds of
failure by a few switches.
-/

namespace Redline.Outline

/-- What a parse gives.  It may be impossible to read its root, and to edit it. -/
structure Tree where
  /-- The root, or why it cannot be read. -/
  root : Except Fault Node
  /-- Why the tree cannot be edited, if it cannot. -/
  refusal : Option Fault
deriving Inhabited

def Tree.whole (root : Node) : Tree := ⟨.ok root, none⟩

/-- A tree that can neither be read nor edited. -/
def Tree.broken : Tree := ⟨.error (.outage "broken tree"), some (.noMember "BrokenTree" "edit")⟩

/-- The outcome of looking up a parser. -/
inductive Lookup where
  | found
  /-- There is none. -/
  | absent
  | failed (reason : String)
deriving DecidableEq, Repr

/-- The outcome of running a parser. -/
inductive Parsing where
  | tree (t : Tree)
  | nothing
  | failed (reason : String)
deriving Inhabited

/-- How lookups and parses turn out, and how many of them there were. -/
structure Parsers where
  /-- The outcome of the lookup that comes after a number of lookups. -/
  lookup : Nat → String → Lookup
  /-- The outcome of the parse that comes after a number of parses. -/
  outcome : Nat → String → Text → Parsing
  looked : Nat := 0
  parsed : Nat := 0

instance : Inhabited Parsers := ⟨⟨fun _ _ => .found, fun _ _ _ => .nothing, 0, 0⟩⟩

/-- Parsers that never fail. -/
def Parsers.sound : Parsers where
  lookup _ _ := .found
  outcome _ language t := .tree (.whole (build language t))

/-- An operation that runs parsers. -/
abbrev Reading := EStateM Fault Parsers

/-- Runs the parser of a language, without looking it up. -/
def runParser (language : String) (t : Text) : Reading (Option Tree) := fun p =>
  let q := { p with parsed := p.parsed + 1 }
  match p.outcome p.parsed language t with
  | .tree tree => .ok (some tree) q
  | .nothing => .ok none q
  | .failed reason => .error (.outage reason) q

/-- Looks up the parser of a language and runs it.  A parser that is absent
cannot be run. -/
def parse (language : String) (t : Text) : Reading (Option Tree) := fun p =>
  let q := { p with looked := p.looked + 1 }
  match p.lookup p.looked language with
  | .found => runParser language t q
  | .absent => .error (.noMember "NoneType" "parse") q
  | .failed reason => .error (.outage reason) q

/-- The tree of a text, and nothing if any step fails. -/
def parse? (language : String) (t : Text) : Reading (Option Tree) := recover none (parse language t)

/-! ## Failures by switches -/

/-- Which steps fail. -/
structure ParserFaults where
  failing : String → Bool := fun _ => false
  /-- Whether a language has no parser. -/
  absent : String → Bool := fun _ => false
  /-- The number of parses before every parse fails. -/
  failAfter : Option Nat := none
  nothing : Bool := false
  /-- Whether every parse gives a tree that cannot be read. -/
  broken : Bool := false
  /-- The text that makes every node whose first line holds it an error. -/
  marker : Option Text := none

mutual

/-- The node with every node in it an error whose first line holds the marker. -/
def Node.mark (marker : Text) (ls : List Text) : Node → Node
  | ⟨kind, start, stop, first, last, children⟩ =>
      let kind := if Text.contains (ls.getD first.row []) marker then errorKind else kind
      ⟨kind, start, stop, first, last, markAll marker ls children⟩

def markAll (marker : Text) (ls : List Text) : List Node → List Node
  | [] => []
  | n :: ns => n.mark marker ls :: markAll marker ls ns

end

/-- The outline of a text with the errors that a marker makes.  The root is
never one. -/
def buildMarked (marker : Option Text) (language : String) (t : Text) : Node :=
  let root := build language t
  match marker with
  | some m => { root with children := markAll m t.lines root.children }
  | none => root

/-- The parsers that fail as the switches say. -/
def ParserFaults.parsers (f : ParserFaults) : Parsers where
  lookup _ language :=
    if f.failing language then .failed ("no parser for " ++ language)
    else if f.absent language then .absent
    else .found
  outcome count language t :=
    if f.failAfter.any (· ≤ count) then .failed "parse failed"
    else if f.broken then .tree .broken
    else if f.nothing then .nothing
    else .tree (.whole (buildMarked f.marker language t))

/-! ## Known languages and parsers -/

/-- The languages and parsers that were found so far, by the values that name
them. -/
structure Registry where
  languages : List Json := []
  parsers : List Json := []
deriving Inhabited

/-- Looks up a name unless it is known.  What is found is known afterwards, by the
name it was first found with. -/
def lookupKnown (p : Parsers) (known : List Json) (name : Json) : Option Json × List Json :=
  match known.find? (·.same name) with
  | some first => (some first, known)
  | none =>
      if p.lookup p.looked name.displayed = .found then (some name, known ++ [name]) else (none, known)

/-- Looks up a language and then its parser.  A name has to be a key. -/
def Registry.visit (r : Registry) (p : Parsers) (name : Json) :
    Except Fault (Option Json × Bool × Registry) := do
  let name ← name.key
  let (language, languages) := lookupKnown p r.languages name
  let (parser, parsers) := lookupKnown p r.parsers name
  return (language, parser.isSome, ⟨languages, parsers⟩)

/-- Names in their order, if they have one. -/
def sortedNames (names : List Json) : Except Fault (List Json) :=
  if Json.inOneOrder names then .ok (names.mergeSort Json.notAbove) else .error .wrongSort

end Redline.Outline
