import Redline.Refine.Generate
import Redline.Forge.Pull
import Redline.Patch.Apply
import Redline.Patch.Validate

/-!
# Refining a file

The comments on a file are grouped by code unit.  For each group the refiner is
asked for changed code, and the change is registered.  In the end all changes
are applied and the result is checked.  The file fails if it cannot be read, if
a change cannot be applied or if the result is not in order.  A group without an
answer is left out.
-/

namespace Redline.Refine

open Session

/-- What came of a file. -/
structure FileResult where
  content : Text
  /-- The ids of the suggestions that were carried out. -/
  implemented : List String
  skipped : List Skipped
deriving DecidableEq, Repr

/-- A file in the making. -/
structure Draft where
  patcher : Patcher
  skipped : List Skipped := []

/-- Registers the imports of a refinement, if it has any. -/
def registerImports (p : Patcher) (imports : Option Text) (ids : List String) : Except Fault Patcher :=
  match imports with
  | none => .ok p
  | some t => (p.registerImports t ids).map (·.2)

/-- Registers a refinement of the code unit at a line, if there is one. -/
def register (p : Patcher) (line : Json) (r : Refinement) (ids : List String) :
    Except Fault Patcher := do
  match ← p.unitAt line with
  | none => return p
  | some unit =>
      let p ← registerImports p r.imports ids
      return (← p.register (some unit) r.code ids).2

/-- Asks for the changes of a group of comments and registers them. -/
def refineGroup (path : String) (content : Text) (d : Draft) (group : List Comment) : Session Draft := do
  match group with
  | [] => return d
  | first :: _ =>
      match ← reading (Context.extract path content first.line) with
      | none => return d
      | some excerpt =>
          match ← changes (.str path) excerpt.code (group.map Request.ofComment) with
          | none => return d
          | some r =>
              let patcher ← lift (register d.patcher first.line r (group.map (·.id.displayed)))
              return ⟨patcher, d.skipped ++ r.skipped⟩

def refineGroups (path : String) (content : Text) : List (List Comment) → Draft → Session Draft
  | [], d => pure d
  | g :: gs, d => do refineGroups path content gs (← refineGroup path content d g)

/-- Applies the registered changes and checks the result. -/
def finish (d : Draft) : Session (Option FileResult) := do
  let formatter ← (fun w => .ok w.formatter w : Session Formatter)
  let (result, p) ← reading (d.patcher.applyAll formatter)
  if !result.success then return none
  let verdict ← reading p.validate
  if !verdict.valid then return none
  return some { content := p.content, implemented := p.suggestions, skipped := d.skipped }

def refineText (path : String) (content : Text) (comments : List Comment) : Session (Option FileResult) := do
  let patcher ← reading (Patcher.open path content)
  let groups ← reading (Comment.byUnit path content comments)
  finish (← refineGroups path content groups { patcher := patcher })

/-- Refines a file of a pull request by comments, if that can be done. -/
def refineFile (c : PullContext) (path : Json) (comments : List Comment) :
    Session (Option FileResult) :=
  recover none do
    Pull.open c
    match path, ← Pull.fileContent path (← forge).head.ref with
    | .str path, some (ch :: t) => refineText path (ch :: t) comments
    | _, _ => return none

end Redline.Refine
