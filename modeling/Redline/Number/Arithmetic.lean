import Redline.Number.Binary64

/-!
# Arithmetic on double precision numbers

An operation on finite numbers is the exact one on fractions, rounded once.  A
divisor is never zero: whoever divides looks first.
-/

namespace Redline.Number.Binary64

def ratio? : Binary64 → Option (Int × Nat)
  | finite negative x => some (if negative then -(x.num : Int) else x.num, x.den)
  | _ => none

def ofRatio (p : Int) (q : Nat) : Binary64 :=
  match Magnitude.ofRatio? p.natAbs q with
  | some x => finite (p < 0) x
  | none => infinite (p < 0)

def ofInt (n : Int) : Binary64 := ofRatio n 1

def isNegative : Binary64 → Bool
  | finite negative _ => negative
  | infinite negative => negative
  | nan => false

def zero (negative : Bool) : Binary64 := finite negative ⟨0, 0⟩

/-- A number with the other sign. -/
def neg : Binary64 → Binary64
  | finite negative x => finite (!negative) x
  | infinite negative => infinite (!negative)
  | nan => nan

def add (x y : Binary64) : Binary64 :=
  match x.ratio?, y.ratio? with
  | some (a, b), some (c, d) =>
      if a = 0 && c = 0 then zero (x.isNegative && y.isNegative) else ofRatio (a * d + c * b) (b * d)
  | none, some _ => x
  | some _, none => y
  | none, none => if x = y then x else nan

def mul (x y : Binary64) : Binary64 :=
  let negative := x.isNegative ≠ y.isNegative
  match x.ratio?, y.ratio? with
  | some (a, b), some (c, d) => if a * c = 0 then zero negative else ofRatio (a * c) (b * d)
  | _, _ => if x = nan || y = nan || x.isZero || y.isZero then nan else infinite negative

def div (x y : Binary64) : Binary64 :=
  let negative := x.isNegative ≠ y.isNegative
  match x.ratio?, y.ratio? with
  | some (a, b), some (c, d) =>
      if a = 0 then zero negative else ofRatio (a * d * c.sign) (b * c.natAbs)
  | none, some _ => if x = nan then nan else infinite negative
  | some _, none => if y = nan then nan else zero negative
  | none, none => nan

/-- What is left when a quotient is cut toward zero.  It has the sign of the
dividend, and is exact. -/
def remainder (x y : Binary64) : Binary64 :=
  match x.ratio?, y.ratio? with
  | some (a, b), some (c, d) =>
      let rest := Int.tmod (a * d) (c * b)
      if rest = 0 then zero x.isNegative else ofRatio rest (b * d)
  | some _, none => if y = nan then nan else x
  | none, _ => nan

/-- The largest integer that is not above a number. -/
def floor (x : Binary64) : Binary64 :=
  match x.ratio? with
  | some (p, q) => if Int.fdiv p q = 0 then zero x.isNegative else ofInt (Int.fdiv p q)
  | none => x

/-- What a quotient rounded down leaves.  It has the sign of the divisor. -/
def floorMod (x y : Binary64) : Binary64 :=
  let rest := x.remainder y
  if rest.isZero then zero y.isNegative
  else if y.isNegative ≠ rest.isNegative then rest.add y else rest

/-- A quotient rounded down.  The dividend less the remainder is divided, and what
comes out is taken to the nearest integer. -/
def floorDiv (x y : Binary64) : Binary64 :=
  let rest := x.remainder y
  let whole := (x.add rest.neg).div y
  let whole := if !rest.isZero && y.isNegative ≠ rest.isNegative then whole.add (ofInt (-1)) else whole
  if whole.isZero then zero (x.isNegative ≠ y.isNegative)
  else
    let low := whole.floor
    match (whole.add low.neg).ratio? with
    | some (p, q) => if (q : Int) < 2 * p then low.add (ofInt 1) else low
    | none => low

/-- How two numbers compare.  What is no number compares with none. -/
def compare? (x y : Binary64) : Option Ordering :=
  match x, y with
  | nan, _ => none
  | _, nan => none
  | infinite a, infinite b => some (if a = b then .eq else if a then .lt else .gt)
  | infinite a, _ => some (if a then .lt else .gt)
  | _, infinite b => some (if b then .gt else .lt)
  | x, y =>
      match x.ratio?, y.ratio? with
      | some (a, b), some (c, d) => some (compare (a * d) (c * b))
      | _, _ => none

end Redline.Number.Binary64
