import Redline.Form.Operation
import Redline.Form.Signature

/-!
# Methods of numbers

An integer tells its bits, and a fraction tells whether it is whole.  Both can be
given as a quotient of integers.
-/

namespace Redline.Form

open Number (Binary64 Magnitude)

def bitLength (n : Nat) : Nat := if n = 0 then 0 else n.log2 + 1

/-- The number of ones among the bits of an integer. -/
def bitCount (n : Nat) : Nat := ((Nat.toDigits 2 n).filter (· = '1')).length

/-- The bytes of a number, the least first. -/
def leastFirst : (count : Nat) → Nat → List UInt8
  | 0, _ => []
  | count + 1, n => UInt8.ofNat (n % 256) :: leastFirst count (n / 256)

/-- The bytes of an integer, by what a call gives. -/
def integerBytes (n : Int) (args : Args) : Run Value := do
  if 2 < args.placed.length then
    if 3 < args.placed.length + args.named.length then
      Run.misfit s!"to_bytes() takes at most 3 arguments ({args.placed.length + args.named.length} given)"
    Run.misfit s!"to_bytes() takes at most 2 positional arguments ({args.placed.length} given)"
  let values ← args.byName "to_bytes" ["length", "byteorder", "signed"]
  let length ← match values[0]?.join with
    | some v => v.width
    | none => pure 1
  let order ← match values[1]?.join with
    | none => pure "big"
    | some v =>
        match v.text? with
        | some t => pure (String.ofList t)
        | none =>
            let sort ← match v with
              | .null => pure "None"
              | v => v.sortName
            Run.misfit s!"to_bytes() argument 'byteorder' must be str, not {sort}"
  let signed ← match values[2]?.join with
    | some v => v.truthy
    | none => pure false
  unless order = "big" || order = "little" do
    Run.fail .value "byteorder must be either 'little' or 'big'"
  if length < 0 then Run.fail .value "length argument must be non-negative"
  if n < 0 && !signed then Run.fail .size "can't convert negative int to unsigned"
  let size := length.toNat
  let room : Int := Int.pow 256 size
  let fits := if signed then (-room ≤ 2 * n && 2 * n < room) || (n = 0) else n < room || n = 0
  unless fits do
    Run.fail .size "int too big to convert"
  let bytes := leastFirst size (if n < 0 then n + room else n).toNat
  return .bytes (if order = "big" then bytes.reverse else bytes)

def integerMethod (n : Int) (name : String) (args : Args) : Run (Option Value) := do
  let full := "int." ++ name
  match name with
  | "as_integer_ratio" =>
      args.nothing full
      return some (.tuple [.int n, .int 1])
  | "bit_count" =>
      args.nothing full
      return some (.int (bitCount n.natAbs))
  | "bit_length" =>
      args.nothing full
      return some (.int (bitLength n.natAbs))
  | "conjugate" =>
      args.nothing full
      return some (.int n)
  | "to_bytes" => some <$> integerBytes n args
  | _ => return none

/-- A fraction as a quotient of integers in lowest terms. -/
def lowestTerms (x : Binary64) : Run Value := do
  match x.ratio?, x with
  | some (a, b), _ =>
      let g := Nat.gcd a.natAbs b
      return .tuple [.int (a / g), .int (b / g : Nat)]
  | none, .nan => Run.fail .value "cannot convert NaN to integer ratio"
  | none, _ => Run.fail .size "cannot convert Infinity to integer ratio"

/-- A fraction in hexadecimal digits with a power of two. -/
def hexText (x : Binary64) : Text :=
  let sign := if x.isNegative then ['-'] else []
  match x with
  | .finite _ m =>
      if m.mantissa = 0 then sign ++ "0x0.0p+0".toList
      else
        let shift := 52 - m.mantissa.log2
        let usual := -1022 ≤ m.exponent - shift + 52
        let (lead, rest, power) : Nat × Nat × Int :=
          if usual then (1, m.mantissa * Nat.pow 2 shift - Nat.pow 2 52, m.exponent - shift + 52)
          else (0, m.mantissa, -1022)
        let powerSign := if power < 0 then '-' else '+'
        sign ++ "0x".toList ++ Number.natText lead ++ '.' :: Text.hex 13 rest
          ++ 'p' :: powerSign :: Number.natText power.natAbs
  | .infinite _ => sign ++ "inf".toList
  | .nan => "nan".toList

def fractionMethod (x : Binary64) (name : String) (args : Args) : Run (Option Value) := do
  let full := "float." ++ name
  match name with
  | "as_integer_ratio" =>
      args.nothing full
      some <$> lowestTerms x
  | "conjugate" =>
      args.nothing full
      return some (.float x)
  | "hex" =>
      args.nothing full
      return some (.text (hexText x))
  | "is_integer" =>
      args.nothing full
      return some (.bool ((x.ratio?.map fun (a, b) => a % b == 0).getD false))
  | _ => return none

def bytesMethod (bs : List UInt8) (name : String) (args : Args) : Run (Option Value) := do
  match name with
  | "hex" =>
      let values ← args.byName name ["sep", "bytes_per_sep"]
      let digits := bs.map fun b => Text.hex 2 b.toNat
      match values[0]?.join with
      | none => return some (.text digits.flatten)
      | some v =>
          match v.text? with
          | some [c] => return some (.text (List.intercalate [c] digits))
          | _ => Run.fail .value "sep must be length 1."
  | _ => return none

end Redline.Form
