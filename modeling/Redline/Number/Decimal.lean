import Redline.Number.Binary64
import Redline.Text.Basic

/-!
# Numbers as decimal text

`Magnitude.fixed` writes a number with a fixed number of places, rounded once and
exactly.  `Binary64.shortest` writes the fewest digits that read back as the
number, and of those the nearest to it.
-/

namespace Redline.Number

def natText (n : Nat) : Text := Nat.toDigits 10 n

def intText : Int → Text
  | .ofNat n => natText n
  | .negSucc n => '-' :: natText (n + 1)

/-- The digits padded with zeros on the left. -/
def padLeft (width : Nat) (t : Text) : Text := List.replicate (width - t.length) '0' ++ t

/-- The number with a fixed number of places after the point, at least one.
A tie goes to the even last digit. -/
def Magnitude.fixed (x : Magnitude) (places : Nat) : Text :=
  let ds := padLeft (places + 1) (natText (roundDiv (x.num * Nat.pow 10 places) x.den))
  ds.take (ds.length - places) ++ '.' :: ds.drop (ds.length - places)

/-! ## The fewest digits that read back -/

/-- A decimal number `digits * 10 ^ exponent`. -/
structure Decimal where
  digits : Nat
  exponent : Int
deriving DecidableEq, Repr

/-- Whether a decimal reads back as the number. -/
def Decimal.readsAs (d : Decimal) (x : Magnitude) : Bool :=
  Binary64.ofDecimal false d.digits d.exponent = .finite false x

/-- The power of ten of the leading digit of `p / q`, for a quotient above zero:
the largest `k` with `10 ^ k ≤ p / q`. -/
def leadingPower (p q : Nat) : Int :=
  let guess : Int := ((natText p).length : Int) - (natText q).length
  if q * Nat.pow 10 guess.toNat ≤ p * Nat.pow 10 (-guess).toNat then guess else guess - 1

/-- The two neighbours of a number on the grid of decimals with a given last
power of ten, the lower one first. -/
def gridNeighbours (x : Magnitude) (exponent : Int) : Decimal × Decimal :=
  let low := (x.num * Nat.pow 10 (-exponent).toNat) / (x.den * Nat.pow 10 exponent.toNat)
  (⟨low, exponent⟩, ⟨low + 1, exponent⟩)

/-- Whether the number lies nearer to the lower of its two neighbours, or in
the middle with the lower one even. -/
def nearerLow (x : Magnitude) (low : Decimal) : Bool :=
  roundDiv (x.num * Nat.pow 10 (-low.exponent).toNat) (x.den * Nat.pow 10 low.exponent.toNat) = low.digits

/-- The decimal on a grid that reads back as the number. -/
def gridHit? (x : Magnitude) (exponent : Int) : Option Decimal :=
  let (low, high) := gridNeighbours x exponent
  match low.readsAs x, high.readsAs x with
  | true, true => some (if nearerLow x low then low else high)
  | true, false => some low
  | false, true => some high
  | false, false => none

/-- The decimal of the fewest digits that reads back as a number above zero.
Seventeen digits are always enough. -/
def shortestDecimal (x : Magnitude) : Decimal :=
  let top := leadingPower x.num x.den
  ((List.range 17).findSome? fun n => gridHit? x (top - (n : Nat))).getD ⟨x.num / x.den, 0⟩

/-- A decimal without the zeros at the end of its digits. -/
def dropZeros : (fuel : Nat) → Decimal → Decimal
  | 0, d => d
  | fuel + 1, d =>
      if d.digits ≠ 0 && d.digits % 10 = 0 then dropZeros fuel ⟨d.digits / 10, d.exponent + 1⟩
      else d

/-- The exponents of the leading digit that are written with a point only. -/
def positionalPowers : Int × Int := (-4, 15)

/-- A decimal with its point: positional when its leading digit is near the
point, and with a power of ten of at least two digits otherwise. -/
def Decimal.text (d : Decimal) : Text :=
  let ds := natText d.digits
  let top : Int := d.exponent + ds.length - 1
  if positionalPowers.1 ≤ top && top ≤ positionalPowers.2 then
    if 0 ≤ d.exponent then ds ++ List.replicate d.exponent.toNat '0' ++ ['.', '0']
    else if 0 ≤ top then ds.take (top.toNat + 1) ++ '.' :: ds.drop (top.toNat + 1)
    else '0' :: '.' :: List.replicate ((-top).toNat - 1) '0' ++ ds
  else
    let fraction := ds.drop 1
    ds.take 1 ++ (if fraction.isEmpty then [] else '.' :: fraction)
      ++ 'e' :: (if top < 0 then '-' else '+') :: padLeft 2 (natText top.natAbs)

/-- The number in the fewest digits that read back as it. -/
def Binary64.shortest : Binary64 → Text
  | finite negative x =>
      let size :=
        if x.mantissa = 0 then "0.0".toList
        else Decimal.text (dropZeros 400 (shortestDecimal x))
      if negative then '-' :: size else size
  | infinite negative => if negative then "-inf".toList else "inf".toList
  | nan => "nan".toList

end Redline.Number
