import Redline.Json.Basic
import Redline.Json.Encoding
import Redline.Text.Digit

/-!
# Reading JSON

A reader takes a text and gives a value with the rest of the text, or says why
there is none.  `Json.parse?` reads a whole text, and `Json.parseWithin` one
whose values are nested up to a depth.  Besides the standard grammar they take
`NaN`, `Infinity` and `-Infinity`.  Of two fields of one name the last counts.
The reader of a nested value is bounded by the length of the text.
-/

namespace Redline.Json

open Number (Binary64)
open Encoding (isHigh isLow pairChar singleChar)

/-- Whether a character may stand between the parts of a value. -/
def isGap (c : Char) : Bool := c = ' ' || c = '\n' || c = '\t' || c = '\r'

/-- The text without the gap at its start. -/
def skipGap (t : Text) : Text := t.dropWhile isGap

/-! ## Strings -/

def hexValue? (c : Char) : Option Nat :=
  if '0' ≤ c && c ≤ '9' then some (c.toNat - 48)
  else if 'a' ≤ c && c ≤ 'f' then some (c.toNat - 87)
  else if 'A' ≤ c && c ≤ 'F' then some (c.toNat - 55)
  else none

def hex4? (a b c d : Char) : Option Nat := do
  let a ← hexValue? a
  let b ← hexValue? b
  let c ← hexValue? c
  let d ← hexValue? d
  return 4096 * a + 256 * b + 16 * c + d

/-- The character that one letter behind a backslash stands for. -/
def escape? : Char → Option Char
  | '"' => some '"'
  | '\\' => some '\\'
  | '/' => some '/'
  | 'b' => some '\x08'
  | 'f' => some '\x0c'
  | 'n' => some '\n'
  | 'r' => some '\r'
  | 't' => some '\t'
  | _ => none

/-- Puts a character before the string that a reader gave. -/
def consChar (c : Char) (r : Option (Text × Text)) : Option (Text × Text) :=
  r.map fun (s, t) => (c :: s, t)

def readString : Text → Option (Text × Text)
  | [] => none
  | '"' :: t => some ([], t)
  | '\\' :: 'u' :: a :: b :: c :: d :: '\\' :: 'u' :: e :: f :: g :: h :: t =>
      match hex4? a b c d, hex4? e f g h with
      | some m, some n =>
          if isHigh m && isLow n then
            consChar (pairChar m n) (readString t)
          else consChar (singleChar m) (readString ('\\' :: 'u' :: e :: f :: g :: h :: t))
      | some m, none => consChar (singleChar m) (readString ('\\' :: 'u' :: e :: f :: g :: h :: t))
      | none, _ => none
  | '\\' :: 'u' :: a :: b :: c :: d :: t =>
      match hex4? a b c d with
      | some m => consChar (singleChar m) (readString t)
      | none => none
  | '\\' :: c :: t =>
      match escape? c with
      | some e => consChar e (readString t)
      | none => none
  | c :: t => if c.toNat < 0x20 then none else consChar c (readString t)
termination_by t => t.length

/-! ## Numbers -/

/-- Whether a character is one of the ten ASCII digits. -/
def isDigit (c : Char) : Bool := '0' ≤ c && c ≤ '9'

def digitsValue (t : Text) : Nat := t.foldl (fun n c => 10 * n + (c.toNat - 48)) 0

/-- The digits at the start of a text, and the rest. -/
def spanDigits (t : Text) : Text × Text := (t.takeWhile isDigit, t.dropWhile isDigit)

/-- The whole part of a number: a zero, or digits that do not start with one. -/
def readWhole (t : Text) : Option (Text × Text) :=
  match t with
  | '0' :: t => some (['0'], t)
  | _ =>
      let (ds, rest) := spanDigits t
      if ds.isEmpty then none else some (ds, rest)

/-- The digits behind a point, if a point with digits follows. -/
def readFraction (t : Text) : Option (Text × Text) :=
  match t with
  | '.' :: t =>
      let (ds, rest) := spanDigits t
      if ds.isEmpty then none else some (ds, rest)
  | _ => none

/-- The power of ten, if a mark with digits follows. -/
def readPower (t : Text) : Option (Int × Text) :=
  match t with
  | c :: t =>
      if c = 'e' || c = 'E' then
        let (negative, t) :=
          match t with
          | '-' :: t => (true, t)
          | '+' :: t => (false, t)
          | t => (false, t)
        let (ds, rest) := spanDigits t
        if ds.isEmpty then none
        else some (if negative then -(digitsValue ds : Int) else digitsValue ds, rest)
      else none
  | [] => none

/-- Powers of ten beyond this one give zero or a number too large. -/
def powerBound : Int := 100000

def readNumber (negative : Bool) (t : Text) : Option (Json × Text) := do
  let (whole, t) ← readWhole t
  let (fraction, u) := (readFraction t).getD ([], t)
  match fraction, readPower u with
  | [], none =>
      if Text.maxDigits < whole.length then none
      else
        let n := digitsValue whole
        return (int (if negative then -(n : Int) else n), u)
  | ds, power =>
      let (k, rest) := power.getD (0, u)
      let k := max (-powerBound) (min powerBound k)
      return (float (Binary64.ofDecimal negative (digitsValue (whole ++ ds)) (k - ds.length)), rest)

def words : List (Text × Json) :=
  [("null".toList, null), ("true".toList, bool true), ("false".toList, bool false),
   ("NaN".toList, float .nan), ("Infinity".toList, float (.infinite false)),
   ("-Infinity".toList, float (.infinite true))]

/-- Reads a word or a number. -/
def readScalar (t : Text) : Option (Json × Text) :=
  match words.find? fun w => w.1.isPrefixOf t with
  | some w => some (w.2, t.drop w.1.length)
  | none =>
      match t with
      | '-' :: t => readNumber true t
      | t => readNumber false t

/-! ## Values -/

/-- Why a text is not read as JSON. -/
inductive ReadError where
  /-- It does not follow the grammar. -/
  | malformed
  /-- It nests an array or an object too deep. -/
  | tooDeep (kind : String)
deriving DecidableEq, Repr

/-- What a reader gave, which followed the grammar or gave nothing. -/
def grammatical {α : Type} : Option α → Except ReadError α
  | some a => .ok a
  | none => .error .malformed

mutual

/-- Reads a value.  `fuel` bounds the number of calls, and `depth` how deep
arrays and objects may be nested. -/
def readValue : (fuel depth : Nat) → Text → Except ReadError (Json × Text)
  | 0, _, _ => .error .malformed
  | fuel + 1, depth, t =>
      match t, depth with
      | '"' :: t, _ => (grammatical (readString t)).map fun (s, rest) => (str (String.ofList s), rest)
      | '[' :: _, 0 => .error (.tooDeep "array")
      | '[' :: t, depth + 1 =>
          match skipGap t with
          | ']' :: rest => .ok (arr [], rest)
          | t => (readItems fuel depth t).map fun (xs, rest) => (arr xs, rest)
      | '\x7b' :: _, 0 => .error (.tooDeep "object")
      | '\x7b' :: t, depth + 1 =>
          match skipGap t with
          | '\x7d' :: rest => .ok (obj [], rest)
          | t => (readFields fuel depth [] t).map fun (fs, rest) => (obj fs, rest)
      | t, _ => grammatical (readScalar t)

/-- Reads the items of an array up to its bracket. -/
def readItems : (fuel depth : Nat) → Text → Except ReadError (List Json × Text)
  | 0, _, _ => .error .malformed
  | fuel + 1, depth, t => do
      let (x, t) ← readValue fuel depth t
      match skipGap t with
      | ',' :: t =>
          let (xs, rest) ← readItems fuel depth (skipGap t)
          return (x :: xs, rest)
      | ']' :: rest => return ([x], rest)
      | _ => throw .malformed

/-- Reads the fields of an object up to its brace, behind the fields read so far. -/
def readFields :
    (fuel depth : Nat) → List (String × Json) → Text → Except ReadError (List (String × Json) × Text)
  | 0, _, _, _ => .error .malformed
  | fuel + 1, depth, seen, t =>
      match t with
      | '"' :: t => do
          let (name, t) ← grammatical (readString t)
          match skipGap t with
          | ':' :: t =>
              let (x, t) ← readValue fuel depth (skipGap t)
              let seen := Table.set (String.ofList name) x seen
              match skipGap t with
              | ',' :: t => readFields fuel depth seen (skipGap t)
              | '\x7d' :: rest => return (seen, rest)
              | _ => throw .malformed
          | _ => throw .malformed
      | _ => .error .malformed

end

/-- The value that a whole text writes, nested up to a depth. -/
def parseWithin (depth : Nat) (t : Text) : Except ReadError Json := do
  let (v, rest) ← readValue (t.length + 1) depth (skipGap t)
  if (skipGap rest).isEmpty then return v else throw .malformed

def parse? (t : Text) : Option Json := (parseWithin t.length t).toOption

end Redline.Json
