import Redline.Number.Arithmetic
import Redline.Text.Digit

/-!
# Numbers read from text

`readFraction` reads a number with a point, a power of ten or one of the words for
what is no finite number.  `readIn` reads an integer in a base, with the letters
of the base before it if it has any.  White space around a number is allowed, and
so are single underscores between digits.
-/

namespace Redline.Number

open Text (isMargin digitValue?)

/-- A text with the digits of every script written as those of this one. -/
def plainDigits (t : Text) : Text :=
  t.map fun c => match digitValue? c with
    | some d => Char.ofNat (48 + d)
    | none => c

/-- A text without its underscores, if each of them stands between two digits. -/
def withoutUnderscores (isDigit : Char → Bool) : (afterDigit : Bool) → Text → Option Text
  | _, [] => some []
  | afterDigit, '_' :: t =>
      if afterDigit && (t.head?.map isDigit).getD false then withoutUnderscores isDigit false t else none
  | _, c :: t => (withoutUnderscores isDigit (isDigit c) t).map (c :: ·)

def signed (t : Text) : Bool × Text :=
  match t with
  | '-' :: t => (true, t)
  | '+' :: t => (false, t)
  | t => (false, t)

/-! ## Fractions -/

/-- The power of ten that stands behind a number. -/
def readPower : Text → Option Int
  | [] => some 0
  | c :: t =>
      if c = 'e' || c = 'E' then
        let (negative, ds) := signed t
        if ds.isEmpty || !ds.all Char.isDigit then none
        else
          let n : Int := Text.numberOf (ds.map fun d => d.toNat - 48)
          some (if negative then -n else n)
      else none

/-- The number nearest to `digits * 10 ^ power`, however large the power is. -/
def ofDigits (negative : Bool) (digits : Text) (power : Int) : Binary64 :=
  let digits := digits.dropWhile (· = '0')
  let n := Text.numberOf (digits.map fun d => d.toNat - 48)
  let top := power + digits.length
  if n = 0 || top < -400 then .zero negative
  else if 400 < top then .infinite negative
  else .ofDecimal negative n power

/-- The fraction that a text without a sign writes. -/
def readUnsigned (negative : Bool) (t : Text) : Option Binary64 :=
  let word := t.map Char.toLower
  if word = "inf".toList || word = "infinity".toList then some (.infinite negative)
  else if word = "nan".toList then some .nan
  else
    let whole := t.takeWhile Char.isDigit
    let rest := t.drop whole.length
    let behind := match rest with
      | '.' :: r => r.takeWhile Char.isDigit
      | _ => []
    let rest := match rest with
      | '.' :: r => r.drop behind.length
      | r => r
    if whole.isEmpty && behind.isEmpty then none
    else (readPower rest).map fun power => ofDigits negative (whole ++ behind) (power - behind.length)

def readFraction (t : Text) : Option Binary64 :=
  let t := plainDigits (t.trim isMargin)
  match withoutUnderscores Char.isDigit false t with
  | none => none
  | some t =>
      let (negative, t) := signed t
      readUnsigned negative t

/-! ## Integers in a base -/

/-- The value of a digit in a base above ten. -/
def anyDigit? (c : Char) : Option Nat :=
  if c.isDigit then some (c.toNat - 48)
  else if c.isLower then some (c.toNat - 87)
  else if c.isUpper then some (c.toNat - 55)
  else none

/-- The base that the letters before an integer tell, and what stands behind
them. -/
def baseOf : Text → Option (Nat × Text)
  | '0' :: c :: t =>
      if c = 'x' || c = 'X' then some (16, t)
      else if c = 'o' || c = 'O' then some (8, t)
      else if c = 'b' || c = 'B' then some (2, t)
      else none
  | _ => none

def digitsValue? (base : Nat) (t : Text) : Option Nat := do
  let isDigit := fun c => (anyDigit? c).any (· < base)
  let t ← withoutUnderscores isDigit false t
  if t.isEmpty then none
  else
    let ds ← t.mapM fun c => (anyDigit? c).filter (· < base)
    some (ds.foldl (fun n d => base * n + d) 0)

/-- The number of digits of a text in a base that is no power of two must not be
too large. -/
def tooManyDigits (base : Nat) (t : Text) : Bool :=
  !([2, 4, 8, 16, 32].contains base) && Text.maxDigits < (t.filter (· ≠ '_')).length

/-- The integer that a text writes in a base.  The base zero is the one that the
text tells, or ten. -/
def readIn (base : Nat) (t : Text) : Option Int := do
  let (negative, t) := signed (plainDigits (t.trim isMargin))
  let (base, t) ← match baseOf t with
    | some (told, rest) =>
        if base = told || base = 0 then
          some (told, match rest with
            | '_' :: r => r
            | r => r)
        else some (base, t)
    | none =>
        if base = 0 then
          if t.head? = some '0' && t.any (fun c => c ≠ '0' && c ≠ '_') then none else some (10, t)
        else some (base, t)
  if tooManyDigits base t then none
  else
    let n ← digitsValue? base t
    some (if negative then -(n : Int) else n)

end Redline.Number
