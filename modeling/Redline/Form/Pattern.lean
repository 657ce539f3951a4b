import Redline.Form.Conversion

/-!
# Patterns

A pattern is a text with places for values.  A place starts with a percent sign,
may tell the key of its value, its width and its places, and ends in a letter that
says how the value is written.

Values come from a row one after the other, or a single value is the only one.
Values with keys come from a record.  In a pattern that is escaped already every
value is escaped first.
-/

namespace Redline.Form

open Number (Binary64 Magnitude)

/-- How a value is written in its place. -/
structure Spot where
  left : Bool := false
  plus : Bool := false
  /-- Whether a space is written in the place of a plus. -/
  blank : Bool := false
  /-- Whether the letters of the base or all digits are written. -/
  alternate : Bool := false
  zero : Bool := false
  width : Option Int := none
  places : Option Int := none

/-- The values of a pattern. -/
structure Supply where
  /-- The value with keys, if there is one. -/
  record : Option Value
  left : List Value
  escaping : Bool

/-- What a pattern is read with: its values, and what is written so far, the last
first. -/
structure Filling where
  supply : Supply
  done : List Text

def Supply.take (s : Supply) : Run (Value × Supply) := do
  match s.left with
  | v :: vs => return (v, { s with left := vs })
  | [] => Run.misfit "not enough arguments for format string"

/-! ## Values in their places -/

/-- A sign, a start and a body in the place of a value. -/
def Spot.fit (spot : Spot) (isNumber : Bool) (sign start body : Text) : Text :=
  let margin := ((spot.width.getD 0) - (sign.length + start.length + body.length)).toNat
  let fill := if isNumber && spot.zero then '0' else ' '
  if spot.left then sign ++ start ++ body ++ List.replicate margin ' '
  else if fill = '0' then sign ++ start ++ List.replicate margin '0' ++ body
  else List.replicate margin ' ' ++ sign ++ start ++ body

def Spot.sign (spot : Spot) (negative : Bool) : Text :=
  if negative then ['-'] else if spot.plus then ['+'] else if spot.blank then [' '] else []

/-- A text in its place, cut if need be. -/
def Spot.text (spot : Spot) (t : Text) : Text :=
  let t := match spot.places with
    | some n => t.take n.toNat
    | none => t
  spot.fit false [] [] t

/-- An integer in its place, in the base of a letter. -/
def Spot.integer (spot : Spot) (letter : Char) (n : Int) : Run Text := do
  let digits ← match letter with
    | 'o' => pure (Number.digitsIn 8 n.natAbs)
    | 'x' => pure (Number.digitsIn 16 n.natAbs)
    | 'X' => pure ((Number.digitsIn 16 n.natAbs).map Char.toUpper)
    | _ => integerText n.natAbs
  let digits := match spot.places with
    | some k => Number.padLeft (min k.toNat maxRoom) digits
    | none => digits
  let start := if spot.alternate && ['o', 'x', 'X'].contains letter then ['0', letter] else []
  return spot.fit true (spot.sign (n < 0)) start digits

/-- A fraction without its sign, in the layout of a letter. -/
def layFraction (letter : Char) (places : Nat) (alternate : Bool) (x : Binary64) : Text :=
  match x with
  | .finite _ size =>
      match letter with
      | 'e' => size.scientific places alternate
      | 'f' => size.places places alternate
      | _ => size.general places alternate false
  | .infinite _ => "inf".toList
  | .nan => "nan".toList

/-- A fraction in its place, in the layout of a letter. -/
def Spot.fraction (spot : Spot) (letter : Char) (x : Binary64) : Text :=
  let body := layFraction letter.toLower ((spot.places.getD 6).toNat) spot.alternate x
  let body := if letter.isUpper then body.map Char.toUpper else body
  spot.fit true (spot.sign x.isNegative) [] body

/-- The name of the sort of a value in a pattern. -/
def Supply.sortOf (s : Supply) (v : Value) : Run String :=
  if s.escaping then return "_MarkupEscapeHelper" else v.sortName

/-- The integer that a value in a pattern stands for. -/
def Supply.integerOf (s : Supply) (letter : Char) (v : Value) : Run Int := do
  if ['o', 'x', 'X'].contains letter then
    match v.integer?, s.escaping with
    | some n, false => return n
    | _, _ => Run.misfit s!"%{letter} format: an integer is required, not {← s.sortOf v}"
  else
    let wrong : Run Int := do
      Run.misfit s!"%{letter} format: a real number is required, not {← s.sortOf v}"
    match v, s.escaping with
    | v, true => Run.orElse v.toInteger [.sort] wrong
    | .text _, false | .markup _, false | .bytes _, false => wrong
    | v, false => Run.orElse v.toInteger [.sort] wrong

/-- The fraction that a value in a pattern stands for. -/
def Supply.fractionOf (s : Supply) (v : Value) : Run Binary64 := do
  match v, s.escaping with
  | v, true => v.toFraction
  | .missing reason, false => Run.fail .absence reason
  | v, false =>
      match v.quantity? with
      | some q => nearest q
      | none => Run.misfit s!"must be real number, not {← v.sortName}"

/-- The character that a value in a pattern stands for. -/
def Supply.charOf (s : Supply) (v : Value) : Run Char := do
  let wrong : Run Char := Run.misfit "%c requires int or char"
  match v.text?, v.integer?, s.escaping with
  | some [c], _, false => return c
  | none, some n, false =>
      if n < 0 || 0x10FFFF < n then Run.fail .size "%c arg not in range(0x110000)"
      return Char.ofNat n.toNat
  | _, _, _ => wrong

/-- A value in its place, written as a letter says.  The letter stands at a
position. -/
def Spot.write (p : Powers) (spot : Spot) (s : Supply) (letter : Char) (position : Nat) (v : Value) : Run Text := do
  let shown := fun (t : Text) => if s.escaping then Text.escape t else t
  Run.needRoom (spot.width.getD 0).toNat
  match letter with
  | 's' => return spot.text (← if s.escaping then v.escaped p else v.display p)
  | 'r' => return spot.text (shown (← v.shown p))
  | 'a' => return spot.text (asciiOnly (shown (← v.shown p)))
  | 'c' => return spot.fit false [] [] [← s.charOf v]
  | 'd' | 'i' | 'u' | 'o' | 'x' | 'X' => spot.integer letter (← s.integerOf letter v)
  | 'e' | 'E' | 'f' | 'F' | 'g' | 'G' => return spot.fraction letter (← s.fractionOf v)
  | letter =>
      let picture := if 31 ≤ letter.toNat && letter.toNat ≤ 126 then letter else '?'
      let number := String.ofList (Nat.toDigits 16 letter.toNat)
      Run.fail .value s!"unsupported format character '{picture}' (0x{number}) at index {position}"

/-! ## Reading places -/

def Spot.marks : Spot → Text → Spot × Text
  | spot, '-' :: t => Spot.marks { spot with left := true } t
  | spot, '+' :: t => Spot.marks { spot with plus := true } t
  | spot, ' ' :: t => Spot.marks { spot with blank := true } t
  | spot, '#' :: t => Spot.marks { spot with alternate := true } t
  | spot, '0' :: t => Spot.marks { spot with zero := true } t
  | spot, t => (spot, t)

/-- Takes the number of a width or of places, which may be a value. -/
def readSize (name carrier : String) (limit : Int) (s : Supply) (t : Text) : Run (Option Int × Supply × Text) := do
  match t with
  | '*' :: t =>
      let (v, s) ← s.take
      match v.integer?, s.escaping with
      | some n, false =>
          if limit < n || n < -limit - 1 then
            Run.fail .size s!"Python int too large to convert to C {carrier}"
          return (some n, s, t)
      | _, _ => Run.misfit "* wants int"
  | t =>
      let ds := t.takeWhile Char.isDigit
      let n : Int := Text.numberOf (ds.map fun c => c.toNat - 48)
      if limit < n then Run.fail .value s!"{name} too big"
      return (if ds.isEmpty then none else some n, s, t.drop ds.length)

/-- The number of characters of a key up to the bracket that closes it. -/
def keyLength? : (depth : Nat) → Text → Option Nat
  | _, [] => none
  | depth, '(' :: t => (keyLength? (depth + 1) t).map (· + 1)
  | 0, ')' :: _ => some 0
  | depth + 1, ')' :: t => (keyLength? depth t).map (· + 1)
  | depth, _ :: t => (keyLength? depth t).map (· + 1)

/-- Takes the key of a place, and the value that it has. -/
def readKey (p : Powers) (s : Supply) (t : Text) : Run (Supply × Text) := do
  match t with
  | '(' :: t =>
      match s.record with
      | none => Run.misfit "format requires a mapping"
      | some v =>
          match keyLength? 0 t with
          | none => Run.fail .value "incomplete format key"
          | some n =>
              let w ← v.item p (.text (t.take n))
              return ({ s with left := [w] }, t.drop (n + 1))
  | t => return (s, t)

/-- Takes one place, which stands behind its percent sign in a pattern of a
length. -/
def readSpot (p : Powers) (size : Nat) (s : Supply) (t : Text) : Run (Text × Supply × Text) := do
  let (s, t) ← readKey p s t
  let (spot, t) := Spot.marks {} t
  let (width, s, t) ← readSize "width" "ssize_t" maxIndex s t
  let spot := match width with
    | some n => if n < 0 then { spot with left := true, width := some (-n) } else { spot with width := some n }
    | none => spot
  let (spot, s, t) ← match t with
    | '.' :: t => do
        let (places, s, t) ← readSize "precision" "int" 2147483647 s t
        pure ({ spot with places := some (max 0 (places.getD 0)) }, s, t)
    | t => pure (spot, s, t)
  let t := match t with
    | 'h' :: t | 'l' :: t | 'L' :: t => t
    | t => t
  match t with
  | [] => Run.fail .value "incomplete format"
  | letter :: rest =>
      let (v, s) ← s.take
      return (← spot.write p s letter (size - t.length) v, s, rest)

/-- Fills a pattern of a length.  `fuel` bounds the number of its places. -/
def fillFrom (p : Powers) (size : Nat) : (fuel : Nat) → Filling → Text → Run Filling
  | 0, f, _ => return f
  | fuel + 1, f, t => do
      let plain := t.takeWhile (· ≠ '%')
      let f := { f with done := plain :: f.done }
      match t.drop plain.length with
      | [] => return f
      | _ :: '%' :: rest => fillFrom p size fuel { f with done := ['%'] :: f.done } rest
      | _ :: rest =>
          let (written, s, rest) ← readSpot p size f.supply rest
          fillFrom p size fuel ⟨s, written :: f.done⟩ rest

def Value.hasKeys : Value → Run Bool
  | .missing _ | .list _ | .record _ | .bytes _ | .range .. => return true
  | .object place => do
      match ← Run.cellAt place with
      | .form _ => return true
      | _ => return false
  | _ => return false

def fill (p : Powers) (escaping : Bool) (pattern : Text) (v : Value) : Run Text := do
  let s : Supply ← match v.row? with
    | some vs => pure ⟨none, vs, escaping⟩
    | none => do pure ⟨if ← v.hasKeys then some v else none, [v], escaping⟩
  let f ← fillFrom p pattern.length (pattern.length + 1) ⟨s, []⟩ pattern
  if f.supply.record.isNone && !f.supply.left.isEmpty then
    Run.misfit "not all arguments converted during string formatting"
  return f.done.reverse.flatten

end Redline.Form
