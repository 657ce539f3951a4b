import Redline.Patch.Modification
import Redline.Patch.Insertion
import Redline.Context

/-!
# Patchers

A patcher holds the text of a file, its outline and the modifications that wait
to be applied.  Modifications are registered for a node, and new imports for
the place where imports go.  Imports are put before all other modifications.
-/

namespace Redline

open Outline

/-- A file being changed. -/
structure Patcher where
  path : String
  language : Option String
  content : Text
  /-- Its tree, if it could be parsed. -/
  tree : Option Tree
  /-- The registered modifications, in the order of their application. -/
  modifications : List Modification := []

namespace Patcher

def «open» (path : String) (content : Text) : Reading Patcher := do
  let tree ← Context.treeOf path content
  return { path := path, language := languageOf? path, content := content, tree := tree }

/-! ## Looking around -/

def placeAt (p : Patcher) (line : Json) : Except Fault (Option Place) :=
  match p.tree with
  | none => .ok none
  | some tree => Context.placeIn tree line

def nodeAt (p : Patcher) (line : Json) : Except Fault (Option Node) :=
  (p.placeAt line).map fun place => place.map (·.node)

def unitAt (p : Patcher) (line : Json) : Except Fault (Option Node) :=
  (p.placeAt line).map fun place => place.map Place.codeUnit

def textOf (p : Patcher) (n : Node) : Text := n.text p.content

/-- The nodes of the tree, each before its children. -/
def nodes (p : Patcher) : Except Fault (List Node) :=
  match p.tree with
  | none => .error (.noMember "NoneType" "root_node")
  | some tree => tree.root.map Node.walk

/-- The first node whose text is the given one, up to white space at the ends. -/
def findByText (p : Patcher) (t : Text) : Except Fault (Option Node) :=
  match p.tree with
  | none => .ok none
  | some tree => tree.root.map fun root =>
      root.walk.find? fun n => (p.textOf n).strip == t.strip

/-- The row and the column of a signed position. -/
def pointAt (p : Patcher) (position : Int) : Point :=
  let ls := Text.lines (Text.before p.content position)
  ⟨ls.length - 1, (ls.getLastD []).length⟩

/-- The row and the column of a position that comes from outside.  No position
stands for the end. -/
def pointOf (p : Patcher) : (position : Json) → Except Fault Point
  | .null => .ok (p.pointAt p.content.length)
  | v => v.count.map p.pointAt

/-- The registered modification of a number that comes from outside. -/
def modificationAt (p : Patcher) (index : Json) : Except Fault Modification := do
  match Text.item? p.modifications (← index.count) with
  | some m => return m
  | none => throw .noItem

/-- The row and the position where imports go. -/
def insertionPoint (p : Patcher) : Except Fault (Nat × Nat) :=
  match p.tree with
  | none => .ok (0, 0)
  | some tree => tree.root.map fun root =>
      Patch.insertionAmong (p.language.getD "") root.children

/-! ## Registering -/

def replacementOf (p : Patcher) (n : Node) (text : Text) (suggestions : List String) : Modification :=
  { path := p.path, target := p.textOf n, replacement := text,
    startLine := (n.first.row : Int) + 1, endLine := (n.last.row : Int) + 1,
    start := n.start, stop := n.stop, suggestions := suggestions }

/-- Registers a modification behind all others. -/
def add (p : Patcher) (m : Modification) : Patcher :=
  { p with modifications := p.modifications ++ [m] }

/-- Registers the replacement of a node.  There has to be one. -/
def register (p : Patcher) (n : Option Node) (text : Text) (suggestions : List String) :
    Except Fault (Modification × Patcher) :=
  match n with
  | none => .error (.noMember "NoneType" "start_point")
  | some n =>
      let m := p.replacementOf n text suggestions
      .ok (m, p.add m)

/-- Registers the replacement of a node from a text and suggestions that are
given as values and have to fit the model. -/
def registerGiven (p : Patcher) (n : Option Node) (text suggestions : Json) :
    Except Fault (Modification × Patcher) :=
  match n with
  | none => .error (.noMember "NoneType" "start_point")
  | some n => do
      let fields := (p.replacementOf n [] []).toJson.fields
      let fields := Table.set "modified_text" text (Table.set "suggestion_ids" suggestions fields)
      let m ← Modification.model.ofJson (.obj fields)
      return (m, p.add m)

/-- The text of imports at a position: lines of their own. -/
def importText (content imports : Text) (position : Nat) : Text :=
  let body := imports ++ ['\n']
  if 0 < position && position < content.length && content.getD (position - 1) '\n' ≠ '\n' then
    '\n' :: body
  else body

/-- Registers new imports before all other modifications.  Blank ones are not
registered. -/
def registerImports (p : Patcher) (imports : Text) (suggestions : List String) :
    Except Fault (Option Modification × Patcher) :=
  if imports.allBlank then .ok (none, p)
  else do
    let (row, position) ← p.insertionPoint
    let m : Modification :=
      { path := p.path, target := [], replacement := importText p.content imports position,
        startLine := (row : Int) + 1, endLine := (row : Int) + 1,
        start := position, stop := position, suggestions := suggestions }
    return (some m, { p with modifications := m :: p.modifications })

/-- Registers new imports with suggestions that are given as values and have to
fit the model. -/
def registerImportsGiven (p : Patcher) (imports suggestions : Json) :
    Except Fault (Option Modification × Patcher) :=
  match imports with
  | .str imports => do
      match ← p.registerImports imports.toList [] with
      | (none, q) => return (none, q)
      | (some m, _) =>
          let m ← Modification.model.ofJson (.obj (Table.set "suggestion_ids" suggestions m.toJson.fields))
          return (some m, { p with modifications := m :: p.modifications })
  | v => if v.truthy then .error (.noMember v.sortName "strip") else .ok (none, p)

/-- The suggestions of all registered modifications. -/
def suggestions (p : Patcher) : List String := p.modifications.flatMap (·.suggestions)

end Patcher

end Redline
