import Redline.Form.Plan

/-!
# What a form writes

`Form.ofText` reads a form and plans it, and `Form.render` writes it with values
for its names.

The steps of a plan are carried out one after the other.  What they write goes to
the store, as one chunk after the other.  `powers` ties the knot: the language at
one level of depth is given by the one below, and below the last nothing can be
done.
-/

namespace Redline

namespace Form

/-! ## Steps -/

def write (v : Value) : Run Unit := modify fun s => { s with output := s.output.push v }

/-- Fails because no other form can be found. -/
def noForms {α : Type} : Run α := Run.misfit "no loader for this environment specified"

/-- Fails because there is no form to choose from. -/
def noChoice {α : Type} : Run α := Run.fail .source "Tried to select from an empty list of templates."

/-- Looks for one of several forms that a value names. -/
def chooseForm (p : Powers) (v : Value) : Run Unit := do
  match v with
  | .missing reason => Run.fail .absence reason
  | v =>
      unless ← v.truthy do
        noChoice
      let w ← v.walk
      match ← w.next p with
      | none => noChoice
      | some _ => noForms

def writeChunk (p : Powers) (site : Site) : Chunk → Run Unit
  | .text t => write (.text t)
  | .value e escape => do
      let v ← valueOf p site e
      let t ← if ← escape.holds then v.escaped p else v.display p
      write (.text t)

/-- Takes the first branch whose condition holds. -/
def runBranches (p : Powers) (site : Site) (otherwise : List Step) : List (Expr × List Step) → Run Unit
  | [] => p.steps site otherwise
  | (e, body) :: rest => do
      if ← (← valueOf p site e).truthy then p.steps site body else runBranches p site otherwise rest

def checkTarget (site : Site) : Target → Run Unit
  | .member s _ => do let _ ← namesIn site.frame s
  | _ => return ()

def makeSlotsKnown (site : Site) (known : List Slot) : Run Unit :=
  known.forM fun s => do
    match ← slotAt site.frame s with
    | some v => makeKnown s.name v
    | none => pure ()

def asAssigned (p : Powers) (v : Value) : Run Value := do
  if (← get).escaping then return .markup (← v.display p) else return v

def blockContext (site : Site) : Option (List Slot) → Run Context
  | none => return site.context
  | some seen => do
      let names ← site.context.all
      let names ← seen.foldlM (fun names s => do
        match ← slotAt site.frame s with
        | some v => return Table.set s.name v names
        | none => return names) names
      return .names names

/-- A call that is given what has been written last as the part to write. -/
def withCaller : Expr → Expr
  | .call e args => .call e (args ++ [.named "caller" .written])
  | e => e

def runStep (p : Powers) (site : Site) : Step → Run Unit
  | .output chunks => chunks.forM (writeChunk p site)
  | .branch branches otherwise => runBranches p site otherwise branches
  | .loop l => do
      let v ← valueOf p site l.values
      if l.recursive then write (← Run.deeper 1 (callLoop p l site v 0))
      else runLoop p l site v 0 none
  | .assign target e known => do
      checkTarget site target
      assign p site.frame target (← valueOf p site e)
      makeSlotsKnown site known
  | .assignPart target filters known escape entry body => do
      enter site entry
      let written ← textWritten (p.steps site body)
      checkTarget site target
      let v ← match filters with
        | none => pure (.text written)
        | some e => do valueOf p { site with written := ← escape.mark written } e
      assign p site.frame target (← asAssigned p v)
      makeSlotsKnown site known
      leave site entry
  | .naming targets entry body => do
      enter site entry
      targets.forM fun (target, e) => do assign p site.frame target (← valueOf p site e)
      p.steps site body
      leave site entry
  | .filtered filters escape entry body => do
      enter site entry
      let written ← textWritten (p.steps site body)
      write (← valueOf p { site with written := ← escape.mark written } filters)
      leave site entry
  | .routine slot isKnown r => do
      let v := Value.object (← Run.new (.routine r site))
      setSlot site.frame slot (some v)
      if isKnown then makeKnown slot.name v
  | .calling call r => do
      let caller := Value.object (← Run.new (.routine r site))
      write (← valueOf p { site with written := caller } (withCaller call))
  | .escaping e body => do
      let before := (← get).escaping
      let escaping ← (← valueOf p site e).truthy
      modify fun s => { s with escaping := escaping }
      p.steps site body
      modify fun s => { s with escaping := before }
  | .block name seen isRequired => do
      let context ← blockContext site seen
      if isRequired then Run.fail .run s!"Required block {inMarks name} not found"
      Run.deeper 1 (runBlock p name context)
  | .lookup e => do
      let _ ← valueOf p site e
      noForms
  | .insertion e several isOptional => do
      let v ← valueOf p site e
      let find : Run Unit := match several, v with
        | some true, v => chooseForm p v
        | none, .text _ | none, .markup _ | none, .missing _ | some false, _ => noForms
        | none, v => chooseForm p v
      if isOptional then Run.orElse find [.source] (pure ()) else find
  | .failure fault => throw fault

/-! ## The knot -/

def powers : Nat → Powers
  | 0 => .none
  | n + 1 =>
      { call := fun v args => callValue (powers n) v args
        filter := fun name v args => filterByValue (powers n) name v args
        test := fun name v args => testByValue (powers n) name v args
        next := fun place => nextAt (powers n) place
        value := fun site e => valueOf (powers n) site e
        steps := fun site steps => steps.forM (runStep (powers n) site) }

def maxLevels : Nat := 100000

def language : Powers := powers maxLevels

/-! ## Forms -/

/-- The values of names that every form knows. -/
def commonNames : List (String × Value) :=
  [("range", .sort "range"), ("dict", .sort "dict"), ("lipsum", .function "generate_lorem_ipsum"),
   ("cycler", .sort "jinja2.utils.Cycler"), ("joiner", .sort "jinja2.utils.Joiner"),
   ("namespace", .sort "jinja2.utils.Namespace")]

def ofText (t : Text) : Except Fault Form := do
  let nodes ← nodesOf t
  return (← (planForm language nodes).run {}).1

def run (form : Form) : Run Unit := do
  let site : Site := { frame := ← newFrame none, context := .form }
  if let some slot := form.whole then
    setSlot site.frame slot (some (.object (← Run.new (.form .form))))
  enter site form.entry
  language.steps site form.body

def render (form : Form) (values : List (String × Json)) : Except Fault Text := do
  let action : Run Text := do
    let named ← values.mapM fun (name, v) => do return (name, ← Value.ofJson v)
    let given := named.foldl (fun names (k, v) => Table.set k v names) commonNames
    modify fun s => { s with given := given, blocks := form.blocks }
    textWritten form.run
  return (← action {}).1

end Form

end Redline
