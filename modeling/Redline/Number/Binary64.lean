/-!
# Double precision numbers

A finite number is `mantissa * 2 ^ exponent` with a sign.  Its mantissa has at
most 53 bits and its exponent lies between -1074 and 971.  `ofRatio` gives the
number nearest to a quotient of naturals, a tie going to the even mantissa, and
every other operation is an exact one followed by it.
-/

namespace Redline.Number

/-- The integer nearest to `p / q`.  A tie goes to the even one. -/
def roundDiv (p q : Nat) : Nat :=
  let low := p / q
  let twice := 2 * (p % q)
  if twice < q then low
  else if q < twice then low + 1
  else if low % 2 = 0 then low else low + 1

/-- A number that is not negative, `mantissa * 2 ^ exponent`. -/
structure Magnitude where
  mantissa : Nat
  exponent : Int
deriving DecidableEq, Repr, Inhabited

namespace Magnitude

/-- The numerator of the number as a fraction. -/
def num (x : Magnitude) : Nat := x.mantissa * Nat.pow 2 x.exponent.toNat

/-- The denominator of the number as a fraction. -/
def den (x : Magnitude) : Nat := Nat.pow 2 (-x.exponent).toNat

/-- Whether one number is below another. -/
def lt (x y : Magnitude) : Bool := x.num * y.den < y.num * x.den

def floor (x : Magnitude) : Nat := x.num / x.den

/-- The mantissa that `p / q` rounds to when it counts a power of two. -/
def mantissaAt (p q : Nat) (e : Int) : Nat :=
  roundDiv (p * Nat.pow 2 (-e).toNat) (q * Nat.pow 2 e.toNat)

/-- The power of two that the mantissa of `p / q` counts: the quotient has 53
bits before it, unless that power is too small. -/
def scale (p q : Nat) : Int :=
  let e : Int := (p.log2 : Int) - q.log2 - 52
  let e := if p * Nat.pow 2 (-e).toNat < Nat.pow 2 52 * (q * Nat.pow 2 e.toNat) then e - 1 else e
  max e (-1074)

/-- The number nearest to `p / q`, or nothing if that is too large. -/
def ofRatio? (p q : Nat) : Option Magnitude :=
  if p = 0 then some ⟨0, 0⟩
  else
    let e := scale p q
    let m := mantissaAt p q e
    let x : Magnitude := if m = Nat.pow 2 53 then ⟨Nat.pow 2 52, e + 1⟩ else ⟨m, e⟩
    if x.exponent ≤ 971 then some x else none

/-- The number nearest to `p / q`, for quotients in range. -/
def ofRatio (p q : Nat) : Magnitude := (ofRatio? p q).getD ⟨0, 0⟩

def scaleBy (x : Magnitude) (n : Nat) : Magnitude := ofRatio (x.num * n) x.den

end Magnitude

/-- A double precision number. -/
inductive Binary64 where
  | finite (negative : Bool) (size : Magnitude)
  | infinite (negative : Bool)
  /-- No number. -/
  | nan
deriving DecidableEq, Repr, Inhabited

namespace Binary64

/-- The number nearest to `mantissa * 10 ^ exponent`. -/
def ofDecimal (negative : Bool) (mantissa : Nat) (exponent : Int) : Binary64 :=
  match Magnitude.ofRatio? (mantissa * Nat.pow 10 exponent.toNat) (Nat.pow 10 (-exponent).toNat) with
  | some x => finite negative x
  | none => infinite negative

def truncate? : Binary64 → Option Int
  | finite negative x => some (if negative then -(x.floor : Int) else x.floor)
  | _ => none

/-- Whether the number is a zero of either sign. -/
def isZero : Binary64 → Bool
  | finite _ x => x.mantissa = 0
  | _ => false

end Binary64

end Redline.Number
