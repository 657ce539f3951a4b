import Redline.Form.Call

/-!
# Values of expressions

An expression has a value at a site: its slots hold values, or nothing, and then
the value is one that is not there.  What a call, a filter or a test is given is
found before it is used: values by place, then values by name.
-/

namespace Redline.Form

open Number (Binary64)

/-! ## Literals -/

/-- How deep expressions may lie in one another. -/
def maxNesting : Nat := 10000

/-- Fails if a fraction has no numeral. -/
def checkNumeral (x : Binary64) : Run Unit := do
  match x with
  | .infinite _ => Run.fail .word "name 'inf' is not defined"
  | .nan => Run.fail .word "name 'nan' is not defined"
  | _ => return ()

mutual

def Literal.value : Literal → Run Value
  | .null => return .null
  | .bool b => return .bool b
  | .int n => return .int n
  | .float x => do
      checkNumeral x
      return .float x
  | .text t => return .text t
  | .markup t => return .markup t
  | .tuple items => do return .tuple (← valuesOfLiterals items)
  | .list items => do Run.newList (← valuesOfLiterals items)
  | .record fields => do Run.newRecord (← fieldsOfLiterals fields)

def valuesOfLiterals : List Literal → Run (List Value)
  | [] => return []
  | l :: ls => do return (← l.value) :: (← valuesOfLiterals ls)

def fieldsOfLiterals : List (Literal × Literal) → Run (List (Value × Value))
  | [] => return []
  | (k, l) :: fs => do return (← k.value, ← l.value) :: (← fieldsOfLiterals fs)

end

/-! ## What a call is given -/

/-- The names and values of a value that is spread by name.  `called` is what is
called, as messages give it. -/
def spreadNames (called : String) (v : Value) : Run (List (String × Value)) := do
  match v with
  | .record place =>
      (← Run.fieldsAt place).toList.mapM fun (k, w) => do
        match k.text? with
        | some t => return (String.ofList t, w)
        | none => Run.misfit "keywords must be strings"
  | .missing reason => Run.fail .absence reason
  | v => Run.misfit s!"{called}() argument after ** must be a mapping, not {← v.sortName}"

/-- Adds values by name to others, each name once. -/
def addNamed (called : String) (named more : List (String × Value)) : Run (List (String × Value)) :=
  match more.find? fun a => named.any (·.1 = a.1) with
  | some (name, _) => Run.misfit s!"{called}() got multiple values for keyword argument '{name}'"
  | none => return named ++ more

/-- The values of a value that is spread by place. -/
def spreadItems (p : Powers) (v : Value) : Run (List Value) := do
  let w ← Run.orElse v.walk [.sort] (do Run.misfit s!"Value after * must be an iterable, not {← v.sortName}")
  w.all p

/-- What a call is given, by a way to find values. -/
def argsOf (p : Powers) (called : String) (value : Expr → Run Value) (args : List Arg) : Run Args := do
  let placed ← args.filterMapM fun a => do
    match a with
    | .placed e => some <$> value e
    | _ => return none
  let spread ← args.filterMapM fun a => do
    match a with
    | .spread e => do some <$> spreadItems p (← value e)
    | _ => return none
  let named ← args.filterMapM fun a => do
    match a with
    | .named name e => do return some (name, ← value e)
    | _ => return none
  let named ← args.foldlM (fun named a => do
    match a with
    | .spreadNamed e => do addNamed called named (← spreadNames called (← value e))
    | _ => return named) named
  return ⟨placed ++ spread.flatten, named⟩

/-- The functions behind filters, where they are not called like them. -/
def filterFunctions : List (String × String) :=
  [("abs", "abs"), ("length", "len"), ("count", "len"), ("e", "markupsafe._speedups.escape"),
   ("escape", "markupsafe._speedups.escape"), ("d", "jinja2.filters.do_default"), ("safe", "jinja2.filters.do_mark_safe"),
   ("string", "markupsafe._speedups.soft_unicode")]

/-- The function behind a filter, as messages give it. -/
def filterFunction (name : String) : String :=
  (filterFunctions.lookup name).getD ("jinja2.filters.do_" ++ name)

/-! ## Expressions -/

/-- The texts of values, one behind the other. -/
def putTexts (p : Powers) (escaping : Bool) (vs : List Value) : Run Value := do
  if escaping && vs.any Value.isMarkup then return .markup (← vs.mapM (·.escaped p)).flatten
  return .text (← vs.mapM (·.display p)).flatten

/-- Whether two expressions are the same slot. -/
def sameSlot : Expr → Expr → Bool
  | .slot l s, .slot m t => l = m && s = t
  | _, _ => false

/-- Whether an operand compares with the others, one after the other. -/
def compareChain (p : Powers) (value : Expr → Run Value) : Value → List (Comparator × Expr) → Run Bool
  | _, [] => return true
  | v, (c, e) :: others => do
      let w ← value e
      if ← v.compares p c w then compareChain p value w others else return false

def valueIn (p : Powers) (site : Site) : (fuel : Nat) → Expr → Run Value
  | 0, _ => Run.tooDeep
  | fuel + 1, e => do
      let value := valueIn p site fuel
      let optionalValue := fun (e : Option Expr) => match e with
        | some e => value e
        | none => return .null
      match e with
      | .const l => l.value
      | .name s => return (← resolve site.context s).getD (noName s)
      | .slot level s => return (← slotAt site.frame ⟨level, s⟩).getD (noName s)
      | .tuple items => return .tuple (← items.mapM value)
      | .list items => Run.newList (← items.mapM value)
      | .record fields =>
          let fields ← fields.mapM fun (k, e) => do return (← value k, ← value e)
          let place ← Run.new (.record #[])
          fields.forM fun (k, v) => putField place k v
          return .record place
      | .member e name => (← value e).getMember p name
      | .item e (.span start stop step) =>
          let v ← value e
          part v (← optionalValue start) (← optionalValue stop) (← optionalValue step)
      | .item e key =>
          let v ← value e
          v.get p (← value key)
      | .span start stop step => return .span (← optionalValue start) (← optionalValue stop) (← optionalValue step)
      | .call e args =>
          let v ← value e
          p.call v (← argsOf p "jinja2.runtime.Context.call" value args)
      | .filter e name args =>
          let v ← value e
          let args ← argsOf p (filterFunction name) value args
          match filter? name with
          | some f => f p v args
          | none => Run.fail .run s!"No filter named {inMarks name} found."
      | .test e name args =>
          let v ← value e
          let same := match name, args with
            | "sameas", [.placed other] => sameSlot e other
            | _, _ => false
          let args ← argsOf p ("jinja2.tests.test_" ++ name) value args
          match test? name with
          | some f => return .bool (same || (← f p v args))
          | none => Run.fail .run s!"No test named {inMarks name} found."
      | .written => return site.written
      | .opposite e => return .bool !(← (← value e).truthy)
      | .signed minus e => do (← value e).signed minus
      | .operation op a b =>
          let v ← value a
          v.operate p op (← value b)
      | .joined items escaping => do putTexts p escaping (← items.mapM value)
      | .comparison e others => return .bool (← compareChain p value (← value e) others)
      | .both a b =>
          let v ← value a
          if ← v.truthy then value b else return v
      | .either a b =>
          let v ← value a
          if ← v.truthy then return v else value b
      | .choice condition yes no line =>
          if ← (← value condition).truthy then value yes
          else match no with
            | some e => value e
            | none =>
                return .missing (s!"the inline if-expression on line {line} evaluated to false "
                  ++ "and no else section was defined.")

def valueOf (p : Powers) (site : Site) (e : Expr) : Run Value := valueIn p site maxNesting e

end Redline.Form
