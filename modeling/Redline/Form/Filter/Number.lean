import Redline.Form.Filter.Text

/-!
# Filters on numbers

Filters that give numbers, and one that gives a number as a size in words.
-/

namespace Redline.Form

open Number (Binary64 Magnitude)

/-- Without its sign. -/
def absFilter : Filter := fun _ v args => do
  let one := { args with placed := v :: args.placed }
  let _ ← one.one "abs"
  match v.quantity? with
  | some q => return .ofQuantity q.abs
  | none => Run.misfit s!"bad operand type for abs(): '{← v.sortName}'"

/-- The causes for which a value counts as no number. -/
def noNumber : List Cause := [.sort, .value]

/-- The integer that a value stands for in a base. -/
def integerIn (v base : Value) : Run Int := do
  match v.text? with
  | none => v.toInteger
  | some t =>
      match base.integer? with
      | none => Run.misfit "no base"
      | some b =>
          if b < 0 || b = 1 || 36 < b then Run.fail .value "no base"
          match Number.readIn b.toNat t with
          | some n => return n
          | none => Run.fail .value "no integer"

/-- As an integer, or another value if it stands for none. -/
def intFilter : Filter := fun _ v args => do
  let values ← Signature.values
    ⟨"do_int", ["value"], [optional "default" (.int 0), optional "base" (.int 10)], false, false⟩ args
  match values with
  | [otherwise, base] =>
      Run.orElse (Value.int <$> integerIn v base) noNumber do
        Run.orElse (do return .int (← wholePart (← v.toFraction))) noNumber (return otherwise)
  | _ => return v

/-- As a fraction, or another value if it stands for none. -/
def floatFilter : Filter := fun _ v args => do
  let values ← Signature.values
    ⟨"do_float", ["value"], [optional "default" (.float (.zero false))], false, false⟩ args
  Run.orElse (Value.float <$> v.toFraction) noNumber (return values.headD .null)

/-! ## Rounding -/

/-- An integer with its last digits rounded to zeros. -/
def roundInteger (n places : Int) : Int :=
  if 0 ≤ places then n
  else
    let unit : Nat := Nat.pow 10 (-places).toNat
    n.sign * (Number.roundDiv n.natAbs unit * unit : Nat)

/-- A fraction rounded to a number of places.  A tie goes to the even digit. -/
def roundFraction (x : Binary64) (places : Int) : Run Binary64 := do
  match x with
  | .finite negative m =>
      if 323 < places then return x
      if places < -308 then return .zero negative
      let digits := Number.roundDiv (m.num * Nat.pow 10 places.toNat) (m.den * Nat.pow 10 (-places).toNat)
      match Binary64.ofDecimal negative digits (-places) with
      | .infinite _ => Run.fail .size "rounded value too large to represent"
      | y => return y
  | x => return x

def rounded (v places : Value) : Run Value := do
  match v.integer?, v with
  | some n, _ =>
      match places with
      | .null => return .int n
      | places => return .int (roundInteger n (← places.index))
  | none, .float x =>
      match places with
      | .null => return .int (← wholePart (← roundFraction x 0))
      | places => return .float (← roundFraction x (← places.count))
  | none, _ => Run.misfit s!"type {← v.sortName} doesn't define __round__ method"

/-- The integer below or above a number. -/
def wholeBeside (above : Bool) (v : Value) : Run Int := do
  match v.integer?, v with
  | some n, _ => return n
  | none, .float x =>
      match x.ratio? with
      | some (a, b) => return if above then -(Int.fdiv (-a) b) else Int.fdiv a b
      | none => wholePart x
  | none, _ => Run.misfit s!"must be real number, not {← v.sortName}"

def roundFilter : Filter := fun p v args => do
  let values ← Signature.values
    ⟨"do_round", ["value"], [optional "precision" (.int 0), optional "method" (.ofString "common")], false, false⟩ args
  match values with
  | [places, way] =>
      way.checkKey
      match way.text?.map String.ofList with
      | some "common" => rounded v places
      | some "ceil" | some "floor" =>
          let factor ← (Value.int 10).operate p .pow places
          let n ← wholeBeside (way.text? = some "ceil".toList) (← v.operate p .mul factor)
          (Value.int n).operate p .div factor
      | _ => Run.fail .argument "method must be common, ceil or floor"
  | _ => return v

/-! ## Sizes -/

/-- The units of sizes, each the same number of times the one before. -/
def sizeUnits (binary : Bool) : List String :=
  if binary then ["KiB", "MiB", "GiB", "TiB", "PiB", "EiB", "ZiB", "YiB"]
  else ["kB", "MB", "GB", "TB", "PB", "EB", "ZB", "YB"]

/-- A size in the first unit in which it is small, or in the last. -/
def sizeIn (base : Nat) (x : Binary64) : (unit : Nat) → List String → Text
  | _, [] => []
  | unit, name :: names =>
      let below := x.compare? (.ofInt unit) == some .lt
      if below || names.isEmpty then
        let share := ((Binary64.ofInt base).mul x).div (.ofInt unit)
        let sign := if share.isNegative then ['-'] else []
        sign ++ layFraction 'f' 1 false share ++ ' ' :: name.toList
      else sizeIn base x (unit * base) names

def filesizeformatFilter : Filter := fun _ v args => do
  let values ← Signature.values
    ⟨"do_filesizeformat", ["value"], [optional "binary" (.bool false)], false, false⟩ args
  let x ← v.toFraction
  let binary ← (values.headD .null).truthy
  let base : Nat := if binary then 1024 else 1000
  if x.compare? (.ofInt 1) == some .eq then return .ofString "1 Byte"
  if x.compare? (.ofInt base) == some .lt then
    return .text (Number.intText (← wholePart x) ++ " Bytes".toList)
  return .text (sizeIn base x (base * base) (sizeUnits binary))

end Redline.Form
