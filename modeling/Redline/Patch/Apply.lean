import Redline.Patch.Patcher
import Redline.Formatter

/-!
# Applying modifications

A modification is applied at its own span if the text there is still the one it
was meant for, up to white space at the ends.  Otherwise it is applied at the
first node with that text.  The file is then parsed again, and the spans of all
registered modifications move with the edit.  When anything fails the file and
the modifications stay as they were.

`applyAll` applies all modifications in order, stops at the first that fails,
and formats the file at the end.
-/

namespace Redline.Patcher

open Outline

/-- The span where a modification goes: its own, or that of a node with its
text. -/
def locate (p : Patcher) (m : Modification) : Except Fault (Option (Int × Int)) :=
  if Text.strip (Text.slice p.content m.start m.stop) == m.target.strip then
    .ok (some (m.start, m.stop))
  else
    (p.findByText m.target).map fun n => n.map fun n => ((n.start : Int), (n.stop : Int))

/-- The patcher after the text of a span was replaced and parsed again. -/
def edited (p : Patcher) (start stop : Int) (m : Modification) (updated : Text) (tree : Option Tree) :
    Patcher :=
  { p with
    content := updated
    tree := tree
    modifications :=
      p.modifications.map (Modification.afterEdit start stop (start + m.replacement.length)) }

def editFault (e : Fault) : PatchResult := .failed ("Failed to apply modification: " ++ e.message)

/-- Replaces a span by the text of a modification. -/
def replaceAt (p : Patcher) (tree : Tree) (start stop : Int) (m : Modification) :
    Reading (PatchResult × Patcher) := fun q =>
  match tree.refusal with
  | some e => .ok (editFault e, p) q
  | none =>
      let updated := p.content.splice start stop m.replacement
      match parse (p.language.getD "") updated q with
      | .ok tree r => .ok (.applied updated, p.edited start stop m updated tree) r
      | .error e r => .ok (editFault e, p) r

/-- Applies a modification to a file that has a tree. -/
def applyIn (p : Patcher) (tree : Tree) (m : Modification) : Reading (PatchResult × Patcher) :=
  match p.locate m with
  | .error e => pure (editFault e, p)
  | .ok none => pure (.failed "Could not find matching node for modification", p)
  | .ok (some (start, stop)) => p.replaceAt tree start stop m

/-- The patcher with a tree if one can be had. -/
def ensureTree (p : Patcher) : Reading Patcher :=
  match p.tree, p.language with
  | none, some language => do
      let tree ← parse? language p.content
      return { p with tree := tree }
  | _, _ => pure p

def apply (p : Patcher) (m : Modification) : Reading (PatchResult × Patcher) := do
  let p ← p.ensureTree
  match p.tree with
  | some tree => p.applyIn tree m
  | none =>
      return (.failed "Cannot apply changes without tree-sitter support for this language", p)

/-- Applies `count` modifications from a number on, up to the first that
fails. -/
def applyFrom (p : Patcher) : (index count : Nat) → Reading (PatchResult × Patcher)
  | _, 0 => pure (.applied p.content, p)
  | index, count + 1 =>
      match p.modifications[index]? with
      | none => pure (.applied p.content, p)
      | some m => do
          let (result, p) ← p.apply m
          if result.success then p.applyFrom (index + 1) count else return (result, p)

/-- The patcher with a formatted text.  If that cannot be parsed the old tree
stays. -/
def reformat (p : Patcher) (language : String) (formatted : Text) : Reading Patcher := fun q =>
  match parse language formatted q with
  | .ok tree r => .ok { p with content := formatted, tree := tree } r
  | .error _ r => .ok { p with content := formatted } r

/-- The patcher with its text formatted, if a formatter gives one. -/
def format (p : Patcher) (formatter : Formatter) : Reading Patcher :=
  match p.language with
  | none => pure p
  | some language =>
      match formatter language p.content with
      | .ok (some (c :: t)) => p.reformat language (c :: t)
      | _ => pure p

/-- Applies all registered modifications and formats the file. -/
def applyAll (p : Patcher) (formatter : Formatter) : Reading (PatchResult × Patcher) := do
  if p.modifications.isEmpty then return (.applied p.content, p)
  else
    let (result, p) ← p.applyFrom 0 p.modifications.length
    if result.success then
      let p ← p.format formatter
      return (.applied p.content, p)
    else return (result, p)

end Redline.Patcher
