import Redline.Form.Conversion

/-!
# What a call takes

A call gives values by place and by name.  What it may give depends on what is
called.  A *signature* has named parameters, of which the last may have values of
their own.  Plainer calls take a number of values by place, and differ in how they
say that there are too many or too few.
-/

namespace Redline.Form

/-! ## Plain calls -/

def refuseNamed (name : String) (args : Args) : Run Unit :=
  unless args.named.isEmpty do
    Run.misfit s!"{name}() takes no keyword arguments"

def Args.nothing (name : String) (args : Args) : Run Unit := do
  refuseNamed name args
  unless args.placed.isEmpty do
    Run.misfit s!"{name}() takes no arguments ({args.placed.length} given)"

def Args.one (name : String) (args : Args) : Run Value := do
  refuseNamed name args
  match args.placed with
  | [v] => return v
  | vs => Run.misfit s!"{name}() takes exactly one argument ({vs.length} given)"

def argumentCount (n : Nat) : String := s!"{n} argument" ++ (if n = 1 then "" else "s")

/-- The values that are given, between a least and a greatest number of them.
`full` is the name with its owner. -/
def Args.between (full name : String) (least most : Nat) (args : Args) : Run (List Value) := do
  refuseNamed full args
  let n := args.placed.length
  let exactly := least = most
  if n < least then
    let bound := if exactly then "" else "at least "
    Run.misfit s!"{name} expected {bound}{argumentCount least}, got {n}"
  if most < n then
    let bound := if exactly then "" else "at most "
    Run.misfit s!"{name} expected {bound}{argumentCount most}, got {n}"
  return args.placed

/-- The values that are given, between a least and a greatest number of them, by
the other way to say it. -/
def Args.within (name : String) (least most : Nat) (args : Args) : Run (List Value) := do
  refuseNamed name args
  let n := args.placed.length
  if n < least then Run.misfit s!"{name}() takes at least {argumentCount least} ({n} given)"
  if most < n then Run.misfit s!"{name}() takes at most {argumentCount most} ({n} given)"
  return args.placed

/-- The values of parameters that may be given by place or by name. -/
def Args.byName (name : String) (params : List String) (args : Args) : Run (List (Option Value)) := do
  let n := args.placed.length + args.named.length
  if params.length < n then
    Run.misfit s!"{name}() takes at most {argumentCount params.length} ({n} given)"
  let values ← params.zipIdx.mapM fun (param, i) => do
    match args.placed[i]?, args.named.lookup param with
    | some _, some _ => Run.misfit s!"argument for {name}() given by name ('{param}') and position ({i + 1})"
    | some v, none => return some v
    | none, v => return v
  match args.named.find? fun a => !params.contains a.1 with
  | some (wrong, _) =>
      let shown := String.ofList (Text.quoted wrong.toList)
      Run.misfit s!"{shown} is an invalid keyword argument for {name}()"
  | none => return values

/-! ## Signatures -/

/-- A parameter: its name, and its own value if it has one. -/
structure Parameter where
  name : String
  default : Option Value := none

/-- The parameters of what is called. -/
structure Signature where
  name : String
  /-- The parameters that are given before all others. -/
  before : List String := []
  params : List Parameter := []
  more : Bool := false
  moreNamed : Bool := false

def required (name : String) : Parameter := ⟨name, none⟩

def optional (name : String) (v : Value) : Parameter := ⟨name, some v⟩

/-- Names between quotes, as a list in a sentence. -/
def listed : List String → String
  | [] => ""
  | [a] => s!"'{a}'"
  | [a, b] => s!"'{a}' and '{b}'"
  | names =>
      let quoted := names.map fun s => s!"'{s}'"
      String.intercalate ", " quoted.dropLast ++ ", and " ++ quoted.getLastD ""

/-- What a call gives, by parameter. -/
structure Bound where
  values : List Value
  more : List Value
  moreNamed : List (String × Value)

namespace Signature

/-- Fails because too many values are given by place. -/
def tooMany {α : Type} (s : Signature) (given : Nat) : Run α :=
  let most := s.before.length + s.params.length
  let own := (s.params.filter (·.default.isSome)).length
  let range := if 0 < own then s!"from {most - own} to {most}" else s!"{most}"
  let plural := if 0 < own || most ≠ 1 then "s" else ""
  let verb := if given = 1 then "was" else "were"
  Run.misfit s!"{s.name}() takes {range} positional argument{plural} but {given} {verb} given"

def tooFew {α : Type} (s : Signature) (names : List String) : Run α :=
  let plural := if names.length = 1 then "" else "s"
  Run.misfit s!"{s.name}() missing {names.length} required positional argument{plural}: {listed names}"

def bind (s : Signature) (args : Args) : Run Bound := do
  let names := s.params.map (·.name)
  let taken := s.before ++ names.take args.placed.length
  args.named.forM fun (name, _) => do
    if taken.contains name then
      Run.misfit s!"{s.name}() got multiple values for argument '{name}'"
    unless names.contains name || s.moreNamed do
      Run.misfit s!"{s.name}() got an unexpected keyword argument '{name}'"
  if s.params.length < args.placed.length && !s.more then
    s.tooMany (s.before.length + args.placed.length)
  let given := s.params.zipIdx.map fun (param, i) =>
    (param, args.placed[i]?.orElse fun _ => args.named.lookup param.name)
  match given.filter fun (param, v) => v.isNone && param.default.isNone with
  | [] =>
      return ⟨given.map fun (param, v) => (v.orElse fun _ => param.default).getD .null,
        args.placed.drop s.params.length, args.named.filter fun a => !names.contains a.1⟩
  | missing => s.tooFew (missing.map (·.1.name))

/-- The values of the parameters of a signature. -/
def values (s : Signature) (args : Args) : Run (List Value) := do return (← s.bind args).values

end Signature

end Redline.Form
