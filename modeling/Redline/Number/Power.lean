import Redline.Number.Arithmetic

/-!
# Powers

A power of a double precision number by another.  The power of a negative number
by a fraction is a number of two parts.
-/

namespace Redline.Number

namespace Binary64

/-- The number in the arithmetic of the machine. -/
def toFloat : Binary64 → Float
  | finite negative x =>
      let size := (Float.ofNat x.mantissa).scaleB x.exponent
      if negative then -size else size
  | infinite negative => if negative then -(1.0 / 0.0) else 1.0 / 0.0
  | nan => 0.0 / 0.0

def ofFloat (x : Float) : Binary64 :=
  let bits := x.toBits.toNat
  let negative := bits / Nat.pow 2 63 = 1
  let power : Nat := bits / Nat.pow 2 52 % Nat.pow 2 11
  let rest : Nat := bits % Nat.pow 2 52
  if power = 2047 then (if rest = 0 then infinite negative else nan)
  else if power = 0 then finite negative (if rest = 0 then ⟨0, 0⟩ else ⟨rest, -1074⟩)
  else finite negative ⟨Nat.pow 2 52 + rest, (power : Int) - 1075⟩

/-- The integer that a number is, if it is one. -/
def whole? (x : Binary64) : Option Int :=
  match x.ratio? with
  | some (p, q) => if p % q = 0 then some (p / q) else none
  | none => none

def isOdd (x : Binary64) : Bool := (x.whole?.map fun n => n % 2 == 1).getD false

end Binary64

/-- What a power is. -/
inductive Power where
  | real (x : Binary64)
  | complex (real imaginary : Binary64)
  | tooLarge
  | ofZero
deriving DecidableEq, Repr

namespace Power

open Binary64

/-- The power of a finite number above zero by a finite one. -/
def ofPositive (negative : Bool) (x y : Binary64) : Power :=
  match ofFloat (Float.pow x.toFloat y.toFloat) with
  | infinite _ => tooLarge
  | z => real (if negative then z.neg else z)

/-- The power of a finite number below zero by a fraction. -/
def ofNegative (x y : Binary64) : Power :=
  let size := Float.pow x.neg.toFloat y.toFloat
  let phase := Float.atan2 0.0 x.toFloat * y.toFloat
  complex (ofFloat (size * Float.cos phase)) (ofFloat (size * Float.sin phase))

/-- A power of a number by another. -/
def of (x y : Binary64) : Power :=
  let one := ofInt 1
  let size := if x.isNegative then x.neg else x
  if y.isZero then real one
  else if x = nan then real nan
  else if y = nan then real (if x.compare? one == some .eq then one else nan)
  else
    match x, y with
    | _, infinite falling =>
        if size.compare? one == some .eq then real one
        else if (size.compare? one == some .gt) != falling then real (infinite false)
        else real (zero false)
    | infinite negative, y =>
        let sign := negative && y.isOdd
        real (if y.isNegative then zero sign else infinite sign)
    | x, y =>
        if x.isZero then
          if y.isNegative then ofZero else real (zero (x.isNegative && y.isOdd))
        else if x.isNegative && y.whole?.isNone then ofNegative x y
        else ofPositive (x.isNegative && y.isOdd) size y

end Power

end Redline.Number
