import Redline.Form.Test

/-!
# Calls

What happens when a value is called.  A routine is carried out in a frame of its
own, and gives the text that it writes.  A loop that can be called is carried out
again for other values, one level deeper.  A block is carried out where its names
are looked up.
-/

namespace Redline.Form

/-! ## What is written -/

/-- What an action writes, which is not written then. -/
def captured (x : Run Unit) : Run (List Value) := do
  let before := (← get).output
  modify fun s => { s with output := #[] }
  x
  let written := (← get).output
  modify fun s => { s with output := before }
  return written.toList

/-- The text of values that are written one behind the other. -/
def putInOrder (vs : List Value) : Run Text := do
  let parts ← vs.zipIdx.mapM fun (v, i) => do
    match v.text? with
    | some t => return t
    | none => Run.misfit s!"sequence item {i}: expected str instance, {← v.sortName} found"
  return parts.flatten

def textWritten (x : Run Unit) : Run Text := do putInOrder (← captured x)

/-- A text as it is now, escaped or not. -/
def asSet (t : Text) : Run Value := do return if (← get).escaping then .markup t else .text t

def Escape.holds : Escape → Run Bool
  | never => return false
  | always => return true
  | asSet => do return (← get).escaping

/-- A text that counts as escaped or not. -/
def Escape.mark (e : Escape) (t : Text) : Run Value := do
  return if ← e.holds then .markup t else .text t

/-! ## Loops -/

/-- The rounds of a loop: each value is assigned and the body carried out.  Says
whether there was a round. -/
def rounds (p : Powers) (l : Loop Step) (site : Site) (next : Run (Option Value)) : Run Bool :=
  Run.iterate Run.maxRounds false fun before => do
    match ← next with
    | none => return (before, false)
    | some v =>
        assign p site.frame l.target v
        enter site l.entry
        p.steps site l.body
        return (true, true)

def runLoop (p : Powers) (l : Loop Step) (site : Site) (v : Value) (depth : Nat)
    (recurse : Option (Loop Step × Site)) : Run Unit := do
  let v ← match l.test with
    | none => pure v
    | some (entry, test) => waiting (.testedStart site l.target entry test v)
  let walk ← Run.new (.walk (← v.walk) "")
  let any ← match l.state with
    | none => rounds p l site (nextAt p walk)
    | some slot => do
        setSlot site.frame slot none
        let place ← Run.new (.loop { values := v, walk := walk, depth := depth, recurse := recurse })
        rounds p l site do
          match ← nextAt p place with
          | some (.tuple (v :: _)) =>
              setSlot site.frame slot (some (.object place))
              return some v
          | _ => return none
  leave site l.entry
  unless any do
    match l.otherwise with
    | none => pure ()
    | some (entry, body) =>
        enter site entry
        p.steps site body
        leave site entry

/-- Carries out a loop that can be called, in a frame of its own, and gives what it
writes. -/
def callLoop (p : Powers) (l : Loop Step) (site : Site) (v : Value) (depth : Nat) : Run Value := do
  let frame ← newFrame (some site.frame)
  let written ← textWritten (runLoop p l { site with frame := frame } v depth (some (l, site)))
  l.escape.mark written

/-! ## Routines -/

/-- The name of a routine, as messages give it. -/
def Routine.shownName (r : Routine Step) : String :=
  match r.name with
  | some s => String.ofList (Text.quoted s.toList)
  | none => "None"

/-- Puts what a call gives into the slots of a routine. -/
def bindRoutine (r : Routine Step) (frame : Nat) (args : Args) : Run Unit := do
  let wanted := r.params.length
  let given := args.placed.take wanted
  let (direct, byName) := (r.params.take given.length, r.params.drop given.length)
  (direct.zip given).forM fun (q, v) => setSlot frame q.slot (some v)
  byName.forM fun q => setSlot frame q.slot (args.named.lookup q.name)
  let named := args.named.filter fun a => !byName.any (·.name = a.1)
  let named ← match r.caller with
    | none => pure named
    | some slot => do
        let caller := match named.lookup "caller" with
          | none | some .null => Value.missing "No caller defined"
          | some v => v
        setSlot frame slot (some caller)
        pure (named.filter (·.1 ≠ "caller"))
  match r.named, named with
  | some slot, named =>
      let fields := named.map fun a => (Value.ofString a.1, a.2)
      setSlot frame slot (some (← Run.newRecord fields))
  | none, [] => pure ()
  | none, (name, _) :: _ =>
      if named.any (·.1 = "caller") then
        Run.misfit (s!"macro {r.shownName} was invoked with two values for the special caller argument. "
          ++ "This is most likely a bug.")
      let shown := String.ofList (Text.quoted name.toList)
      Run.misfit s!"macro {r.shownName} takes no keyword argument {shown}"
  match r.rest with
  | some slot => setSlot frame slot (some (.tuple (args.placed.drop wanted)))
  | none =>
      if wanted < args.placed.length then
        Run.misfit s!"macro {r.shownName} takes not more than {wanted} argument(s)"

/-- Gives the parameters that a call has left out their own values. -/
def fillParams (p : Powers) (r : Routine Step) (site : Site) : Run Unit :=
  r.params.forM fun q => do
    if (← slotAt site.frame q.slot).isNone then
      let v ← match q.default with
        | some e => p.value site e
        | none =>
            let shown := String.ofList (Text.quoted q.name.toList)
            pure (.missing s!"parameter {shown} was not provided")
      setSlot site.frame q.slot (some v)

/-- Calls a routine, and gives what it writes. -/
def callRoutine (p : Powers) (r : Routine Step) (site : Site) (args : Args) : Run Value := do
  let frame ← newFrame (some site.frame)
  let site := { site with frame := frame }
  bindRoutine r frame args
  let written ← textWritten do
    enter site r.entry
    fillParams p r site
    p.steps site r.body
  asSet written

/-! ## Blocks -/

/-- What is said about a block that stands for no other one. -/
def noBase (name : String) : Value :=
  .missing s!"there is no parent block called {String.ofList (Text.quoted name.toList)}."

/-- Carries out a block where its names are looked up. -/
def runBlock (p : Powers) (name : String) (context : Context) : Run Unit := do
  match (← get).blocks.find? (·.name = name) with
  | none => return ()
  | some b =>
      let frame ← newFrame none
      if let some slot := b.whole then
        setSlot frame slot (some (.object (← Run.new (.form context))))
      if let some slot := b.base then
        setSlot frame slot (some (noBase name))
      let site : Site := { frame := frame, context := context }
      enter site b.entry
      p.steps site b.body

def callBlock (p : Powers) (name : String) (context : Context) : Run Value := do
  asSet (← textWritten (runBlock p name context))

/-! ## Sorts -/

def rangeOf (args : Args) : Run Value := do
  refuseNamed "range" args
  match args.placed with
  | [] => Run.misfit "range expected at least 1 argument, got 0"
  | [stop] => return .range 0 (← stop.index) 1
  | [start, stop] => return .range (← start.index) (← stop.index) 1
  | [start, stop, step] =>
      let step ← step.index
      let start ← start.index
      let stop ← stop.index
      if step = 0 then Run.fail .value "range() arg 3 must not be zero"
      return .range start stop step
  | vs => Run.misfit s!"range expected at most 3 arguments, got {vs.length}"

/-- The space of names that a call of its sort gives. -/
def namesOf (p : Powers) (args : Args) : Run Value := do
  match ← recordOf p args with
  | .record place =>
      let fields := (← Run.fieldsAt place).toList.filterMap fun (k, v) =>
        k.text?.map fun t => (String.ofList t, v)
      Value.object <$> Run.new (.names fields)
  | v => return v

/-- The one value that a sort is called with, if any. -/
def optionalOne (name : String) (args : Args) : Run (Option Value) := do
  return (← args.between name name 0 1).head?

def callSort (p : Powers) (name : String) (args : Args) : Run Value := do
  match name with
  | "range" => rangeOf args
  | "dict" => recordOf p args
  | "jinja2.utils.Namespace" => namesOf p args
  | "jinja2.utils.Cycler" =>
      let items := (← Signature.bind ⟨"Cycler.__init__", ["self"], [], true, false⟩ args).more
      if items.isEmpty then Run.fail .change "at least one item has to be provided"
      Value.object <$> Run.new (.cycler items 0)
  | "jinja2.utils.Joiner" =>
      let values ← Signature.values
        ⟨"Joiner.__init__", ["self"], [optional "sep" (.ofString ", ")], false, false⟩ args
      Value.object <$> Run.new (.joiner (values.headD .null) false)
  | "str" =>
      match args.placed with
      | [] => return .text []
      | v :: _ => return .text (← v.display p)
  | "markupsafe.Markup" =>
      match args.placed with
      | [] => return .markup []
      | v :: _ => return .markup (← v.display p)
  | "int" =>
      match args.placed with
      | [] => return .int 0
      | v :: _ => return .int (← v.toInteger)
  | "float" =>
      match ← optionalOne name args with
      | none => return .float (.zero false)
      | some v => return .float (← v.toFraction)
  | "bool" =>
      match ← optionalOne name args with
      | none => return .bool false
      | some v => return .bool (← v.truthy)
  | "list" =>
      match ← optionalOne name args with
      | none => Run.newList []
      | some v => Run.newList (← v.items p)
  | "tuple" =>
      match ← optionalOne name args with
      | none => return .tuple []
      | some v => return .tuple (← v.items p)
  | "NoneType" => return .null
  | "type" =>
      match args.placed with
      | [v] => return .sort (← v.fullSort)
      | _ => Run.misfit "type() takes 1 or 3 arguments"
  | name => Run.misfit s!"cannot create '{name}' instances"

/-! ## Values -/

def callObject (p : Powers) (place : Nat) (args : Args) : Run Value := do
  match ← Run.cellAt place with
  | .joiner separator used =>
      noParameters "Joiner.__call__" args
      Run.setCell place (.joiner separator true)
      return if used then separator else .text []
  | .loop l =>
      let values ← Signature.values ⟨"LoopContext.__call__", ["self"], [required "iterable"], false, false⟩ args
      match l.recurse with
      | none => Run.misfit "The loop must have the 'recursive' marker to be called recursively."
      | some (loop, site) => Run.deeper 4 (callLoop p loop site (values.headD .null) (l.depth + 1))
  | .routine r site => Run.deeper 5 (callRoutine p r site args)
  | .block name context =>
      noParameters "BlockReference.__call__" args
      Run.deeper 4 (callBlock p name context)
  | _ => Run.misfit s!"'{← (Value.object place).sortName}' object is not callable"

def callPlain (p : Powers) (v : Value) (args : Args) : Run Value := do
  match v with
  | .missing reason => Run.fail .absence reason
  | .method owner name => callMethod p owner name args
  | .sort name => callSort p name args
  | .function _ => return .markup []
  | .object place => callObject p place args
  | v => Run.misfit s!"'{← v.sortName}' object is not callable"

/-- Calls a value.  If a walk that is asked for more ends, the call gives a value that
is not there. -/
def callValue (p : Powers) (v : Value) (args : Args) : Run Value :=
  Run.orElse (callPlain p v args) [.ending]
    (return .missing "value was undefined because a callable raised a StopIteration exception")

end Redline.Form
