import Redline.Form.Pattern
import Redline.Number.Power

/-!
# Operations on values

What a form can do with two values: compute with numbers, put texts and lists
together, repeat them and fill in patterns.  An operation on a value that is not
there fails, and so does one on values that it does not fit.
-/

namespace Redline.Form

open Number (Binary64 Quantity)

/-- The sign of an operation, as messages give it. -/
def Operator.sign : Operator → String
  | add => "+"
  | sub => "-"
  | mul => "*"
  | div => "/"
  | floorDiv => "//"
  | mod => "%"
  | pow => "** or pow()"

/-- Fails because an operation does not fit two values. -/
def unsupported {α : Type} (op : Operator) (v w : Value) : Run α := do
  Run.misfit s!"unsupported operand type(s) for {op.sign}: '{← v.sortName}' and '{← w.sortName}'"

/-! ## Numbers -/

/-- An operation on two integers that are not too large for it. -/
def onIntegers (op : Operator) (a b : Int) : Run Value := do
  match op with
  | .add => return .int (a + b)
  | .sub => return .int (a - b)
  | .mul => return .int (a * b)
  | .div =>
      if b = 0 then Run.fail .division "division by zero"
      match Binary64.ofRatio (a * b.sign) b.natAbs with
      | .infinite _ => Run.fail .size "integer division result too large for a float"
      | x => return .float (if a = 0 then .zero false else x)
  | .floorDiv =>
      if b = 0 then Run.fail .division "integer division or modulo by zero"
      return .int (Int.fdiv a b)
  | .mod =>
      if b = 0 then Run.fail .division "integer modulo by zero"
      return .int (Int.fmod a b)
  | .pow => return .int (Int.pow a b.toNat)

def powerOf (x y : Binary64) : Run Value :=
  match Number.Power.of x y with
  | .real z => return .float z
  | .complex real imaginary => return .complex real imaginary
  | .tooLarge => Run.fail .size "(34, 'Numerical result out of range')"
  | .ofZero => Run.fail .division "0.0 cannot be raised to a negative power"

def onFractions (op : Operator) (x y : Binary64) : Run Value := do
  match op with
  | .add => return .float (x.add y)
  | .sub => return .float (x.add y.neg)
  | .mul => return .float (x.mul y)
  | .div =>
      if y.isZero then Run.fail .division "float division by zero"
      return .float (x.div y)
  | .floorDiv =>
      if y.isZero then Run.fail .division "float floor division by zero"
      return .float (x.floorDiv y)
  | .mod =>
      if y.isZero then Run.fail .division "float modulo"
      return .float (x.floorMod y)
  | .pow => powerOf x y

def onNumbers (op : Operator) (a b : Quantity) : Run Value := do
  match op, a, b with
  | .pow, .whole m, .whole n =>
      if 0 ≤ n then onIntegers op m n else onFractions op (← fractionOf m) (← fractionOf n)
  | op, .whole m, .whole n => onIntegers op m n
  | op, a, b => do
      let x ← nearest a
      onFractions op x (← nearest b)

/-! ## Texts and lists -/

/-- Two values put together, of which not both are numbers. -/
def putTogether (v w : Value) : Run Value := do
  let only := fun (sort : String) => do
    Run.misfit s!"can only concatenate {sort} (not \"{← w.sortName}\") to {sort}"
  match v, w with
  | .text s, .text t => return .text (s ++ t)
  | .text s, .markup t => return .markup (Text.escape s ++ t)
  | .markup s, .text t => return .markup (s ++ Text.escape t)
  | .markup s, .markup t => return .markup (s ++ t)
  | .list a, .list b => Run.newList ((← Run.itemsAt a).toList ++ (← Run.itemsAt b).toList)
  | .bytes a, .bytes b => return .bytes (a ++ b)
  | .text _, _ => only "str"
  | .list _, _ => only "list"
  | .bytes _, _ => Run.misfit s!"can't concat {← w.sortName} to bytes"
  | v, w =>
      match v.row?, w.row? with
      | some xs, some ys => return .tuple (xs ++ ys)
      | some _, none => only "tuple"
      | none, _ => unsupported .add v w

def replicated {α : Type} (n : Int) (xs : List α) : Run (List α) := do
  Run.needRoom (n.toNat * xs.length)
  if xs.isEmpty then return []
  return (List.replicate n.toNat xs).flatten

/-- A value repeated, if it is one that can be. -/
def repeated? (v : Value) (n : Int) : Run (Option Value) := do
  match v with
  | .text t => return some (.text (← replicated n t))
  | .markup t => return some (.markup (← replicated n t))
  | .bytes bs => return some (.bytes (← replicated n bs))
  | .tuple xs => return some (.tuple (← replicated n xs))
  | .group key items => return some (.tuple (← replicated n [key, items]))
  | .list place => some <$> Run.newList (← replicated n (← Run.itemsAt place).toList)
  | _ => return none

/-- Whether a value is a text that is escaped. -/
def Value.isMarkup : Value → Bool
  | .markup _ => true
  | _ => false

/-- A product of two values of which not both are numbers. -/
def repetition (v w : Value) : Run Value := do
  let isRow := fun (v : Value) => do return (← repeated? v 0).isSome
  let nonInteger := fun (n : Value) => do
    Run.misfit s!"can't multiply sequence by non-int of type '{← n.sortName}'"
  if (← isRow v) && w.integer?.isSome then return (← repeated? v (← w.count)).getD v
  if (← isRow w) && v.integer?.isSome then return (← repeated? w (← v.count)).getD w
  if (← isRow v) && !v.isMarkup then nonInteger w
  if (← isRow w) && !w.isMarkup then nonInteger v
  unsupported .mul v w

/-! ## All together -/

def Value.operate (p : Powers) (op : Operator) (v w : Value) : Run Value := do
  match op, v, w with
  | .mod, .text t, w => return .text (← fill p false t w)
  | .mod, .markup t, w => return .markup (← fill p true t w)
  | _, .missing reason, _ => Run.fail .absence reason
  | _, _, .missing reason => Run.fail .absence reason
  | op, v, w =>
      match v.quantity?, w.quantity?, op with
      | some a, some b, op => onNumbers op a b
      | _, _, .add => putTogether v w
      | _, _, .mul => repetition v w
      | _, _, op => unsupported op v w

/-- A value with a plus or a minus before it. -/
def Value.signed (minus : Bool) (v : Value) : Run Value := do
  match v with
  | .missing reason => Run.fail .absence reason
  | .complex real imaginary =>
      return if minus then .complex real.neg imaginary.neg else .complex real imaginary
  | v =>
      match v.quantity? with
      | some q => return .ofQuantity (if minus then q.neg else q)
      | none =>
          let sign := if minus then "-" else "+"
          Run.misfit s!"bad operand type for unary {sign}: '{← v.sortName}'"

end Redline.Form
