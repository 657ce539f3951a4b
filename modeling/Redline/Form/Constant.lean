import Redline.Form.Evaluation

/-!
# Constants in forms

An expression without names and calls is the same whenever the form is written,
so it is computed beforehand.  `constantIn` gives its value, or nothing if it has
none beforehand: it depends on a name, or what it does fails.  Then it is left for
when the form is written, and fails there.

`foldIn` computes what it can inside an expression.  A value takes the place of
its expression only if it can be written as a literal.
-/

namespace Redline.Form

/-! ## Values of constants -/

mutual

/-- The value of a literal, with fractions that have no numeral. -/
def Literal.plainValue : Literal → Run Value
  | .null => return .null
  | .bool b => return .bool b
  | .int n => return .int n
  | .float x => return .float x
  | .text t => return .text t
  | .markup t => return .markup t
  | .tuple items => do return .tuple (← plainValues items)
  | .list items => do Run.newList (← plainValues items)
  | .record fields => do Run.newRecord (← plainFields fields)

def plainValues : List Literal → Run (List Value)
  | [] => return []
  | l :: ls => do return (← l.plainValue) :: (← plainValues ls)

def plainFields : List (Literal × Literal) → Run (List (Value × Value))
  | [] => return []
  | (k, l) :: fs => do return (← k.plainValue, ← l.plainValue) :: (← plainFields fs)

end

/-- The literal of a value, if it has one. -/
def literalIn : (fuel : Nat) → Value → Run (Option Literal)
  | 0, _ => return none
  | fuel + 1, v => do
      let all := fun (vs : List Value) => do
        return (← vs.mapM (literalIn fuel)).mapM id
      match v with
      | .null => return some .null
      | .bool b => return some (.bool b)
      | .int n => return some (.int n)
      | .float x => return some (.float x)
      | .text t => return some (.text t)
      | .markup t => return some (.markup t)
      | .tuple xs => return (← all xs).map Literal.tuple
      | .list place => return (← all (← Run.itemsAt place).toList).map Literal.list
      | .record place =>
          let fields := (← Run.fieldsAt place).toList
          let keys ← all (fields.map (·.1))
          let values ← all (fields.map (·.2))
          match keys, values with
          | some ks, some vs => return some (.record (ks.zip vs))
          | _, _ => return none
      | _ => return none

/-- The values of expressions, if all have one. -/
def allConstant (constant : Expr → Run (Option Value)) : List Expr → Run (Option (List Value))
  | [] => return some []
  | e :: es => do
      match ← constant e with
      | none => return none
      | some v => return (← allConstant constant es).map (v :: ·)

/-- What a call is given, if it is known beforehand. -/
def constantArgs (p : Powers) (constant : Expr → Run (Option Value)) (args : List Arg) : Run (Option Args) := do
  match ← allConstant constant (args.map Arg.expr) with
  | none => return none
  | some vs =>
      let given := args.zip vs
      Run.orNothing do
        let placed ← given.filterMapM fun (a, v) => do
          match a with
          | .placed _ => return some [v]
          | .spread _ => some <$> spreadItems p v
          | _ => return none
        let named ← given.foldlM (fun named (a, v) => do
          match a with
          | .named name _ => return Table.set name v named
          | .spreadNamed _ =>
              (← pairsOf p v).foldlM (fun named (k, w) => do
                match k.text? with
                | some t => return Table.set (String.ofList t) w named
                | none => Run.misfit "keywords must be strings") named
          | _ => return named) []
        return ⟨placed.flatten, named⟩

/-- Whether an operand compares with others, one after the other, if that is known
beforehand. -/
def constantChain (p : Powers) (constant : Expr → Run (Option Value)) :
    Value → List (Comparator × Expr) → Run (Option Bool)
  | _, [] => return some true
  | v, (c, e) :: others => do
      match ← constant e with
      | none => return none
      | some w =>
          match ← Run.orNothing (v.compares p c w) with
          | none => return none
          | some false => return some false
          | some true => constantChain p constant w others

/-- The value of an expression before the form is written, if it has one.  `unsure`
says that one does not know whether values are escaped, and then no filter and no
test is used. -/
def constantIn (p : Powers) (unsure : Bool) : (fuel : Nat) → Expr → Run (Option Value)
  | 0, _ => return none
  | fuel + 1, e => do
      let constant := constantIn p unsure fuel
      let compute := fun (x : Run (Option Value)) (f : Value → Run Value) => do
        match ← Run.orNothing x with
        | some (some a) => Run.orNothing (f a)
        | _ => return none
      let bounds := fun (e : Option Expr) => match e with
        | some e => constant e
        | none => return some .null
      match e with
      | .const l => some <$> l.plainValue
      | .name _ | .slot .. | .call .. | .written => return none
      | .tuple items => return (← allConstant constant items).map Value.tuple
      | .list items =>
          match ← allConstant constant items with
          | some vs => some <$> Run.newList vs
          | none => return none
      | .record fields =>
          let keys ← allConstant constant (fields.map (·.1))
          let values ← allConstant constant (fields.map (·.2))
          match keys, values with
          | some ks, some vs =>
              let place ← Run.new (.record #[])
              (ks.zip vs).forM fun (k, v) => putField place k v
              return some (.record place)
          | _, _ => return none
      | .member e name => compute (constant e) (·.getMember p name)
      | .item e key =>
          match ← Run.orNothing (constant e), ← Run.orNothing (constant key) with
          | some (some v), some (some k) => Run.orNothing (v.get p k)
          | _, _ => return none
      | .span start stop step =>
          match ← bounds start, ← bounds stop, ← bounds step with
          | some a, some b, some c => return some (.span a b c)
          | _, _, _ => return none
      | .filter e name args =>
          if unsure || lateFilters.contains name then return none
          match filter? name with
          | none => return none
          | some f =>
              match ← constantArgs p constant args with
              | none => return none
              | some args =>
                  match ← constant e with
                  | none => return none
                  | some v => Run.orNothing (f p v args)
      | .test e name args =>
          if unsure then return none
          match test? name with
          | none => return none
          | some f =>
              match ← constantArgs p constant args with
              | none => return none
              | some args =>
                  match ← constant e with
                  | none => return none
                  | some v => return (← Run.orNothing (f p v args)).map Value.bool
      | .opposite e => compute (constant e) fun v => do return Value.bool !(← v.truthy)
      | .signed minus e => compute (constant e) (·.signed minus)
      | .operation op a b =>
          match ← Run.orNothing (constant a), ← Run.orNothing (constant b) with
          | some (some v), some (some w) => Run.orNothing (v.operate p op w)
          | _, _ => return none
      | .joined items _ =>
          match ← allConstant constant items with
          | none => return none
          | some vs => some <$> putTexts p false vs
      | .comparison e others =>
          match ← constant e with
          | none => return none
          | some v =>
              match ← Run.orNothing (constantChain p constant v others) with
              | some (some b) => return some (.bool b)
              | _ => return none
      | .both a b =>
          match ← constant a with
          | none => return none
          | some v => if ← v.truthy then constant b else return some v
      | .either a b =>
          match ← constant a with
          | none => return none
          | some v => if ← v.truthy then return some v else constant b
      | .choice condition yes no _ =>
          match ← constant condition with
          | none => return none
          | some v =>
              if ← v.truthy then constant yes
              else match no with
                | some e => constant e
                | none => return none

/-! ## Folding -/

/-- Whether an expression is folded as a whole. -/
def Expr.isFolded : Expr → Bool
  | .const _ | .name _ | .slot .. | .written | .tuple _ | .list _ | .record _ | .span .. => false
  | _ => true

/-- An expression with each inner one made into another. -/
def Expr.mapInner (f : Expr → Run Expr) : Expr → Run Expr
  | .const l => return .const l
  | .name s => return .name s
  | .slot level s => return .slot level s
  | .written => return .written
  | .tuple items => do return .tuple (← items.mapM f)
  | .list items => do return .list (← items.mapM f)
  | .record fields => do return .record (← fields.mapM fun (k, e) => do return (← f k, ← f e))
  | .member e label => do return .member (← f e) label
  | .item e key => do return .item (← f e) (← f key)
  | .span start stop step => do return .span (← start.mapM f) (← stop.mapM f) (← step.mapM f)
  | .call e args => do return .call (← f e) (← args.mapM fun a => do return a.withExpr (← f a.expr))
  | .filter e label args => do
      return .filter (← f e) label (← args.mapM fun a => do return a.withExpr (← f a.expr))
  | .test e label args => do
      return .test (← f e) label (← args.mapM fun a => do return a.withExpr (← f a.expr))
  | .opposite e => do return .opposite (← f e)
  | .signed minus e => do return .signed minus (← f e)
  | .operation op a b => do return .operation op (← f a) (← f b)
  | .joined items escaping => do return .joined (← items.mapM f) escaping
  | .comparison e others => do
      return .comparison (← f e) (← others.mapM fun (c, e) => do return (c, ← f e))
  | .both a b => do return .both (← f a) (← f b)
  | .either a b => do return .either (← f a) (← f b)
  | .choice condition yes no line => do return .choice (← f condition) (← f yes) (← no.mapM f) line

/-- An expression in which all that can be is computed beforehand. -/
def foldIn (p : Powers) : (fuel : Nat) → Expr → Run Expr
  | 0, e => return e
  | fuel + 1, e => do
      let e ← e.mapInner (foldIn p fuel)
      match ← constantIn p false maxNesting e with
      | none => return e
      | some v =>
          match ← literalIn maxDepth v with
          | some l => return .const l
          | none => return e

/-- Carries out an action on a store of its own, in which values are escaped or
not. -/
def beforehand {α : Type} (escaping : Bool) (x : Run α) : Except Fault α :=
  Prod.fst <$> x { escaping := escaping }

/-- An expression in which all that can be is computed beforehand. -/
def Expr.fold (p : Powers) (escaping : Bool) (e : Expr) : Except Fault Expr :=
  beforehand escaping (foldIn p maxNesting e)

/-- The text of an expression that is known beforehand. -/
def Expr.constantText (p : Powers) (escaping unsure : Bool) (e : Expr) : Option Text :=
  let text := do
    match ← constantIn p unsure maxNesting e with
    | none => return none
    | some v => some <$> (if escaping then v.escaped p else v.display p)
  match beforehand escaping text with
  | .ok t => t
  | .error _ => none

end Redline.Form
