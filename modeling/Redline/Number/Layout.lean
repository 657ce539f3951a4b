import Redline.Number.Decimal
import Redline.Number.Arithmetic

/-!
# Numbers laid out

Four layouts of a number that is not negative: with a fixed number of places, with
a power of ten, in whichever of the two is shorter, and in the fewest digits that
read back.  Each value is rounded once and exactly, and a tie goes to the even
digit.

`grouped` puts separators between the digits of an integer.
-/

namespace Redline.Number

/-! ## Digits -/

/-- The digits of a number and the power of ten of the first of them. -/
structure Digits where
  digits : Text
  top : Int

/-- A number of significant digits of a number. -/
def Magnitude.digits (x : Magnitude) (count : Nat) : Digits :=
  if x.mantissa = 0 then ⟨List.replicate count '0', 0⟩
  else
    let top := leadingPower x.num x.den
    let last := top - ((count : Int) - 1)
    let n := roundDiv (x.num * Nat.pow 10 (-last).toNat) (x.den * Nat.pow 10 last.toNat)
    let ds := natText n
    if count < ds.length then ⟨ds.take count, top + 1⟩ else ⟨ds, top⟩

/-- Digits without the zeros at their end, of which one stays. -/
def Digits.short (d : Digits) : Digits :=
  match d.digits with
  | [] => d
  | c :: cs => ⟨c :: Text.trimRight cs (· = '0'), d.top⟩

/-- The fewest digits that read back as a number. -/
def Magnitude.shortestDigits (x : Magnitude) : Digits :=
  if x.mantissa = 0 then ⟨['0'], 0⟩
  else
    let d := dropZeros 400 (shortestDecimal x)
    let ds := natText d.digits
    ⟨ds, d.exponent + ds.length - 1⟩

/-! ## Layouts -/

/-- A whole part and what stands behind the point.  The point is there if there is
something behind it, or if it is wanted. -/
def pointed (pointWanted : Bool) (whole behind : Text) : Text :=
  if behind.isEmpty && !pointWanted then whole else whole ++ '.' :: behind

def Magnitude.places (x : Magnitude) (count : Nat) (pointWanted : Bool) : Text :=
  let ds := padLeft (count + 1) (natText (roundDiv (x.num * Nat.pow 10 count) x.den))
  pointed pointWanted (ds.take (ds.length - count)) (ds.drop (ds.length - count))

def Digits.scientific (d : Digits) (pointWanted : Bool) : Text :=
  pointed pointWanted (d.digits.take 1) (d.digits.drop 1)
    ++ 'e' :: (if d.top < 0 then '-' else '+') :: padLeft 2 (natText d.top.natAbs)

/-- Digits with a point only.  At least one stands behind the point if that is
wanted. -/
def Digits.positional (d : Digits) (pointWanted oneBehind : Bool) : Text :=
  let size : Int := d.digits.length
  let (whole, behind) : Text × Text :=
    if d.top < 0 then (['0'], List.replicate (-d.top - 1).toNat '0' ++ d.digits)
    else if d.top + 1 < size then (d.digits.take (d.top + 1).toNat, d.digits.drop (d.top + 1).toNat)
    else (d.digits ++ List.replicate (d.top + 1 - size).toNat '0', [])
  pointed pointWanted whole (if behind.isEmpty && oneBehind then ['0'] else behind)

/-- A number with a power of ten and a number of places. -/
def Magnitude.scientific (x : Magnitude) (count : Nat) (pointWanted : Bool) : Text :=
  (x.digits (count + 1)).scientific pointWanted

/-- A number in a number of significant digits, in the shorter of two layouts.
Zeros at the end are written if all digits are wanted.  With one digit wanted
behind the point the positional layout ends one digit earlier. -/
def Magnitude.general (x : Magnitude) (count : Nat) (allDigits oneBehind : Bool) : Text :=
  let count := max count 1
  let d := x.digits count
  let shown := if allDigits then d else d.short
  let limit : Int := if oneBehind then (count : Int) - 1 else count
  if d.top < -4 || limit ≤ d.top then shown.scientific allDigits
  else shown.positional allDigits oneBehind

/-- A number in the fewest digits that read back. -/
def Magnitude.shortestText (x : Magnitude) (pointWanted oneBehind : Bool) : Text :=
  let d := x.shortestDigits
  if d.top < -4 || 16 ≤ d.top then d.scientific pointWanted else d.positional pointWanted oneBehind

/-! ## Groups -/

/-- Digits with a separator between groups, counted from the right. -/
def grouped (separator : Char) (size : Nat) (ds : Text) : Text :=
  let n := ds.length
  ds.zipIdx.flatMap fun (c, i) => if 0 < i && (n - i) % size = 0 then [separator, c] else [c]

/-- Digits with zeros before them, so that they have a width with their
separators. -/
def groupedTo (width : Nat) (separator : Char) (size : Nat) (ds : Text) : Text :=
  let fits := fun (n : Nat) => width ≤ n + (n - 1) / size
  let count := ((List.range (width + 1)).find? fun n => ds.length ≤ n && fits n).getD ds.length
  grouped separator size (padLeft count ds)

/-- The digits of a number in a base, in lower case. -/
def digitsIn (base n : Nat) : Text := Nat.toDigits base n

end Redline.Number
