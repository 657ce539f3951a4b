import Redline.Form.Constant
import Redline.Form.Scope

/-!
# Plans of forms

A form that has been read is made into a plan: names get their slots, what is
known beforehand is computed, and what can never be written is refused.

A filter or a test that there is not is refused, unless it stands under a
condition: then only using it is a fault.  The same goes for what else only
writing can show.
-/

namespace Redline

/-- A form that can be written. -/
structure Form where
  /-- The slot for the form itself, if it asks for it. -/
  whole : Option Form.Slot
  entry : Form.Entry
  body : List Form.Step
  blocks : List Form.Block
deriving Inhabited

namespace Form

/-! ## The state of a planner -/

/-- What a planner knows. -/
structure Planning where
  escaping : Bool := false
  /-- Whether that is only known when the form is written. -/
  unsure : Bool := false
  /-- Whether the form asks for one in whose place it stands. -/
  hasParent : Bool := false
  isReplaced : Bool := false

/-- A planner. -/
abbrev Planner := StateT Planning (Except Fault)

/-- Where a part of a form stands. -/
structure Standing where
  scope : Scope
  /-- Whether it stands in no other part but conditions. -/
  isTop : Bool := false
  /-- Whether it stands in no other part at all. -/
  isRoot : Bool := false
  isSoft : Bool := false
  /-- Whether what it writes is lost if the form is replaced. -/
  isChecked : Bool := false

/-- Where a part in a scope of its own stands. -/
def Standing.inner (here : Standing) (scope : Scope) : Standing := { scope := scope, isChecked := here.isChecked }

def Standing.soft (here : Standing) : Standing := { here with isRoot := false, isSoft := true }

def escapeHere : Planner Escape := do
  let s ← get
  return if s.unsure then .asSet else if s.escaping then .always else .never

def refuse {α : Type} (reason : String) : Planner α := throw (.inForm .rule reason)

def slotOf (here : Standing) (name : String) : Planner Slot :=
  match here.scope.slot? name with
  | some slot => return slot
  | none =>
      throw (Fault.inForm .assumption
        s!"Tried to resolve a name to a reference that was unknown to the frame ({inMarks name})")

/-! ## Expressions -/

mutual

def Literal.check : Literal → Except Fault Unit
  | .int n => do let _ ← writeInteger n
  | .tuple items | .list items => checkLiterals items
  | .record fields => checkFields fields
  | _ => return ()

def checkLiterals : List Literal → Except Fault Unit
  | [] => return ()
  | l :: ls => do
      l.check
      checkLiterals ls

/-- Checks that the fields of a literal can be written. -/
def checkFields : List (Literal × Literal) → Except Fault Unit
  | [] => return ()
  | (k, l) :: fs => do
      k.check
      l.check
      checkFields fs

end

/-- Checks the name of a filter or test. -/
def checkName (here : Standing) (kind : String) (isKnown : Bool) (name : String) : Planner Unit :=
  unless isKnown || here.isSoft do
    refuse s!"No {kind} named {inMarks name}."

def planExprIn (p : Powers) : (fuel : Nat) → Standing → Expr → Planner Expr
  | 0, _, _ => throw (.inForm .depth "maximum recursion depth exceeded")
  | fuel + 1, here, e => do
      let plan := planExprIn p fuel here
      let planArgs := fun (args : List Arg) => args.mapM fun a => do return a.withExpr (← plan a.expr)
      let state ← get
      let e ← if e.isFolded && !state.unsure then e.fold p state.escaping else pure e
      match e with
      | .const l =>
          l.check
          return .const l
      | .name s =>
          let slot ← slotOf here s
          return .slot slot.level slot.name
      | .slot level s => return .slot level s
      | .written => return .written
      | .tuple items => return .tuple (← items.mapM plan)
      | .list items => return .list (← items.mapM plan)
      | .record fields => return .record (← fields.mapM fun (k, e) => do return (← plan k, ← plan e))
      | .member e s => return .member (← plan e) s
      | .item e key => return .item (← plan e) (← plan key)
      | .span start stop step => return .span (← start.mapM plan) (← stop.mapM plan) (← step.mapM plan)
      | .call e args => return .call (← plan e) (← planArgs args)
      | .filter e s args =>
          checkName here "filter" (filter? s).isSome s
          return .filter (← plan e) s (← planArgs args)
      | .test e s args =>
          checkName here "test" (test? s).isSome s
          return .test (← plan e) s (← planArgs args)
      | .opposite e => return .opposite (← plan e)
      | .signed minus e => return .signed minus (← plan e)
      | .operation op a b => return .operation op (← plan a) (← plan b)
      | .joined items _ => return .joined (← items.mapM plan) (state.escaping && !state.unsure)
      | .comparison e others =>
          return .comparison (← plan e) (← others.mapM fun (c, e) => do return (c, ← plan e))
      | .both a b => return .both (← plan a) (← plan b)
      | .either a b => return .either (← plan a) (← plan b)
      | .choice condition yes no line =>
          let plan := planExprIn p fuel here.soft
          let yes ← plan yes
          let condition ← plan condition
          return .choice condition yes (← no.mapM plan) line

def planExpr (p : Powers) (here : Standing) (e : Expr) : Planner Expr := planExprIn p maxNesting here e

mutual

def planTarget (here : Standing) : Expr → Planner Target
  | .name s => do return .slot (← slotOf here s)
  | .tuple items => do return .row (← planTargets here items)
  | .member (.name s) label => do return .member (← slotOf here s) label
  | _ => return .row []

def planTargets (here : Standing) : List Expr → Planner (List Target)
  | [] => return []
  | e :: es => do return (← planTarget here e) :: (← planTargets here es)

end

/-- The slots that are known outside when a target gets a value. -/
def knownSlots (here : Standing) (target : Expr) : Planner (List Slot) :=
  if here.isTop then (targetNames target).mapM (slotOf here) else return []

/-! ## Chunks -/

/-- The plan of a text or a slot, and whether it is known beforehand. -/
def planPiece (p : Powers) (here : Standing) : Piece → Planner (Chunk × Bool)
  | .data t => do return (.text t, !(← get).unsure)
  | .value e => do
      let s ← get
      match e.constantText p s.escaping s.unsure with
      | some t => return (.text t, true)
      | none => return (.value (← planExpr p here e) (← escapeHere), false)

/-- Chunks with those put together that are known beforehand. -/
def mergeChunks : List (Chunk × Bool) → List Chunk
  | [] => []
  | (c, isKnown) :: rest =>
      match c, isKnown, rest, mergeChunks rest with
      | .text s, true, (_, true) :: _, .text t :: more => .text (s ++ t) :: more
      | c, _, _, more => c :: more

/-! ## Parts -/

/-- The names that a routine may ask for beside its parameters. -/
def specialNames : List String := ["caller", "kwargs", "varargs"]

/-- The own values of parameters, of which the last ones have some. -/
def paramDefaults (params : List String) (defaults : List Expr) : List (Option Expr) :=
  List.replicate (params.length - defaults.length) none ++ defaults.map some

/-- The scope of a routine, and the slots of what it asks for beside its
parameters. -/
structure RoutineScope where
  scope : Scope
  caller : Option Slot
  named : Option Slot
  rest : Option Slot

def planScope (here : Standing) (params : List String) (defaults : List Expr) (body : List Node) :
    Planner RoutineScope := do
  let used := undeclared specialNames body
  if used.contains "caller" then
    match (params.zip (paramDefaults params defaults)).lookup "caller" with
    | some none =>
        refuse ("When defining macros or call blocks the special \"caller\" argument must be omitted "
          ++ "or be given a default.")
    | _ => pure ()
  let more := specialNames.filter fun s => used.contains s && !params.contains s
  let scope := here.scope.inside (params ++ more) defaults body
  let slot := fun s => if more.contains s then scope.slot? s else none
  return ⟨scope, slot "caller", slot "kwargs", slot "varargs"⟩

def planParams (p : Powers) (here : Standing) (params : List String) (defaults : List Expr) : Planner (List Param) :=
  (params.zip (paramDefaults params defaults)).mapM fun (s, e) => do
    return ⟨s, ← slotOf here s, ← e.mapM (planExpr p here)⟩

/-- Whether an expression says something, if that is known beforehand. -/
def constantFlag (p : Powers) (unsure : Bool) (e : Expr) : Run (Option Bool) := do
  match ← constantIn p unsure maxNesting e with
  | none => return none
  | some v => some <$> v.truthy

/-- Whether one of several forms is written, or a certain one, if that is known
beforehand. -/
def severalForms : Expr → Option Bool
  | .const (.text _) => some false
  | .const (.tuple _) | .const (.list _) | .tuple _ | .list _ => some true
  | _ => none

mutual

/-- The plan of a part, and whether nothing behind it is planned. -/
def planNode (p : Powers) (here : Standing) : Node → Planner (List Step × Bool)
  | .output pieces => do
      if here.isChecked && (← get).isReplaced then return ([], false)
      return ([.output (mergeChunks (← pieces.mapM (planPiece p here)))], false)
  | .branch branches otherwise => do
      let branches ← planBranches p here.soft branches
      return ([.branch branches (← planNodes p here.soft otherwise)], false)
  | .loop target e test recursive body otherwise => do
      let node := Node.loop target e test recursive body otherwise
      let hasState := recursive || !(undeclared ["loop"] body).isEmpty || node.blocks.any (·.2.1)
      let names := targetNames target
      let scope := here.scope.inside ((if hasState then ["loop"] else []) ++ names) [] body
      let within := here.inner scope
      let test ← test.mapM fun test => do
        let scope := here.scope.inside names [test] []
        return (scope.entry, ← planExpr p (here.inner scope) test)
      if (node.uses true).contains ("loop", .stored) then
        refuse "Can't assign to special loop variable in for-loop target"
      let target ← planTarget within target
      let before ← if recursive then pure none else some <$> planExpr p here e
      let body ← planNodes p within body
      let otherwise ←
        if otherwise.isEmpty then pure none
        else do
          let scope := here.scope.inside [] [] otherwise
          pure (some (scope.entry, ← planNodes p (here.inner scope) otherwise))
      let escape ← escapeHere
      let values ← match before with
        | some e => pure e
        | none => planExpr p here e
      let state := if hasState then some ⟨here.scope.nextLevel, "loop"⟩ else none
      return ([.loop ⟨target, values, test, recursive, state, scope.entry, body, otherwise, escape⟩], false)
  | .assign target e => do
      let known ← knownSlots here target
      let target ← planTarget here target
      return ([.assign target (← planExpr p here e) known], false)
  | .assignPart target filters body => do
      let scope := here.scope.inside [] [] body
      let within := { here.inner scope with isChecked := false }
      let body ← planNodes p within body
      let known ← knownSlots here target
      let target ← planTarget here target
      let filters ← filters.mapM (planExpr p within)
      return ([.assignPart target filters known (← escapeHere) scope.entry body], false)
  | .naming targets body => do
      let names := targets.flatMap fun t => targetNames t.1
      let scope := here.scope.inside names [] body
      let within := here.inner scope
      let targets ← targets.mapM fun (target, e) => do
        return (← planTarget within target, ← planExpr p here e)
      return ([.naming targets scope.entry (← planNodes p within body)], false)
  | .filtered filters body => do
      let scope := here.scope.inside [] [filters] body
      let within := here.inner scope
      let body ← planNodes p within body
      return ([.filtered (← planExpr p within filters) (← escapeHere) scope.entry body], false)
  | .routine name params defaults body => do
      let r ← planScope here params defaults body
      let within := { here.inner r.scope with isChecked := false }
      let params ← planParams p within params defaults
      let body ← planNodes p within body
      let routine := ⟨some name, params, r.caller, r.named, r.rest, r.scope.entry, body⟩
      return ([.routine (← slotOf here name) here.isTop routine], false)
  | .calling params defaults call body => do
      let r ← planScope here params defaults body
      let within := { here.inner r.scope with isChecked := false }
      let params ← planParams p within params defaults
      let body ← planNodes p within body
      let routine := ⟨none, params, r.caller, r.named, r.rest, r.scope.entry, body⟩
      return ([.calling (← planExpr p here call) routine], false)
  | .escaping e body => do
      let scope := here.scope.inside [] [e] body
      let within := here.inner scope
      let before ← get
      let planned ← planExpr p within e
      match beforehand before.escaping (constantFlag p before.unsure e) with
      | .ok (some b) => modify fun s => { s with escaping := b }
      | .ok none => modify fun s => { s with unsure := true }
      | .error fault => throw fault
      let body ← planNodes p within body
      modify fun s => { s with escaping := before.escaping, unsure := before.unsure }
      return ([.naming [] scope.entry [.escaping planned body]], false)
  | .block name inScope required _ => do
      if here.isTop && (← get).isReplaced then return ([], false)
      return ([.block name (if inScope then some here.scope.visible else none) required], false)
  | .parent e => do
      unless here.isTop do
        refuse "cannot use extend from a non top-level scope"
      if (← get).hasParent && (← get).isReplaced then
        return ([.failure (.inForm .run "extended multiple times")], true)
      let planned ← planExpr p here e
      modify fun s => { s with hasParent := true, isReplaced := s.isReplaced || here.isRoot }
      return ([.lookup planned], false)
  | .insertion e isOptional => do
      return ([.insertion (← planExpr p here e) (severalForms e) isOptional], false)
  | .borrow e _ | .borrowNames e _ => do return ([.lookup (← planExpr p here e)], false)

def planNodes (p : Powers) (here : Standing) : List Node → Planner (List Step)
  | [] => return []
  | n :: ns => do
      let (steps, isLast) ← planNode p here n
      if isLast then return steps
      return steps ++ (← planNodes p here ns)

def planBranches (p : Powers) (here : Standing) : List (Expr × List Node) → Planner (List (Expr × List Step))
  | [] => return []
  | (e, body) :: rest => do
      let e ← planExpr p here e
      let body ← planNodes p here body
      return (e, body) :: (← planBranches p here rest)

end

/-! ## Forms -/

/-- The scope of a form or a block: some of its names stand for parts of the
form. -/
def outerScope (special : List String) (body : List Node) : Scope × List String :=
  let used := undeclared special body
  (Scope.inside [] (special.filter used.contains) [] body, used)

def planBlock (p : Powers) (name : String) (body : List Node) : Planner Block := do
  let (scope, used) := outerScope ["self", "super"] body
  let slot := fun s => if used.contains s then scope.slot? s else none
  return ⟨name, slot "self", slot "super", scope.entry, ← planNodes p { scope := scope } body⟩

/-- The first name that stands twice in a list. -/
def firstTwice? : List String → List String → Option String
  | _, [] => none
  | before, s :: rest => if before.contains s then some s else firstTwice? (s :: before) rest

def planForm (p : Powers) (nodes : List Node) : Planner Form := do
  let blocks := blocksOfAll nodes
  if let some name := firstTwice? [] (blocks.map (·.1)) then
    refuse s!"block {inMarks name} defined twice"
  let (scope, used) := outerScope ["self"] nodes
  let here : Standing := { scope := scope, isTop := true, isRoot := true, isChecked := haveParent nodes }
  let body ← planNodes p here nodes
  let planned ← blocks.mapM fun (name, _, body) => planBlock p name body
  let whole := if used.contains "self" then scope.slot? "self" else none
  return ⟨whole, scope.entry, body, planned⟩

end Form

end Redline
