import Redline.Number.Arithmetic

/-!
# Numbers of either kind

A quantity is an integer or a double precision number.  An operation on two
integers is exact.  One with a double precision number in it is carried out in
double precision.  A comparison is exact in every case.
-/

namespace Redline.Number

/-- A number of either kind. -/
inductive Quantity where
  | whole (n : Int)
  | fraction (x : Binary64)
deriving DecidableEq, Repr, Inhabited

namespace Quantity

def toBinary64 : Quantity → Binary64
  | whole n => .ofInt n
  | fraction x => x

/-- An operation, by what it does to integers and to double precision
numbers. -/
def combine (onWhole : Int → Int → Int) (onFraction : Binary64 → Binary64 → Binary64) :
    Quantity → Quantity → Quantity
  | whole a, whole b => whole (onWhole a b)
  | x, y => fraction (onFraction x.toBinary64 y.toBinary64)

def add : Quantity → Quantity → Quantity := combine (· + ·) Binary64.add

def sub : Quantity → Quantity → Quantity := combine (· - ·) fun x y => x.add y.neg

def mul : Quantity → Quantity → Quantity := combine (· * ·) Binary64.mul

/-- A quantity with the other sign. -/
def neg : Quantity → Quantity
  | whole n => whole (-n)
  | fraction x => fraction x.neg

/-- A quantity without its sign. -/
def abs : Quantity → Quantity
  | whole n => whole n.natAbs
  | fraction x => fraction (if x.isNegative then x.neg else x)

def isZero : Quantity → Bool
  | whole n => n = 0
  | fraction x => x.isZero

/-- How an integer compares with a double precision number. -/
def compareWhole (n : Int) (x : Binary64) : Option Ordering :=
  match x with
  | .nan => none
  | .infinite negative => some (if negative then .gt else .lt)
  | x => x.ratio?.map fun (p, q) => compare (n * q) p

/-- How two quantities compare.  What is no number compares with none. -/
def compare? : Quantity → Quantity → Option Ordering
  | whole a, whole b => some (compare a b)
  | whole a, fraction y => compareWhole a y
  | fraction x, whole b => (compareWhole b x).map Ordering.swap
  | fraction x, fraction y => x.compare? y

/-- Whether two quantities are worth the same. -/
def same : Quantity → Quantity → Bool
  | whole a, whole b => a = b
  | x, y => x.compare? y == some .eq

/-- Whether one quantity is below another. -/
def below : Quantity → Quantity → Bool
  | whole a, whole b => a < b
  | x, y => x.compare? y == some .lt

/-- Whether one quantity is at most another. -/
def atMost : Quantity → Quantity → Bool
  | whole a, whole b => a ≤ b
  | x, y => x.below y || x.same y

end Quantity

end Redline.Number
