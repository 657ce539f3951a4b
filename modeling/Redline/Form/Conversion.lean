import Redline.Form.Walk
import Redline.Number.Reading
import Redline.Number.Layout
import Redline.Text.Markup

/-!
# Values as numbers

The integer and the fraction that a value stands for: a number, or a text that
writes one.  And the text of a value as a page writes it.
-/

namespace Redline.Form

open Number (Binary64 Quantity)

/-! ## Numbers -/

/-- The fraction nearest to an integer, if that is not too large. -/
def fractionOf (n : Int) : Run Binary64 :=
  match Binary64.ofInt n with
  | .infinite _ => Run.fail .size "int too large to convert to float"
  | x => return x

def nearest : Quantity → Run Binary64
  | .whole n => fractionOf n
  | .fraction x => return x

def wholePart (x : Binary64) : Run Int :=
  match x, x.truncate? with
  | _, some n => return n
  | .nan, none => Run.fail .value "cannot convert float NaN to integer"
  | _, none => Run.fail .size (Fault.message .infinite)

/-- Bytes as the text that they are in the plainest way. -/
def plainText (bs : List UInt8) : Text := bs.map fun b => Char.ofNat b.toNat

/-- The integer that a text writes, which is shown in another way if it writes
none. -/
def textInteger (t shown : Text) : Run Int := do
  match readInteger (String.ofList t) with
  | .ok n => return n
  | .error (.notInteger _) =>
      Run.fail .value ("invalid literal for int() with base 10: " ++ String.ofList (shown.take shownNumeral))
  | .error fault => Run.fail .value fault.message

/-- A text as it is shown, whether it is escaped or not. -/
def Value.shownText : Value → Text
  | .text t => Text.quoted t
  | .markup t => "Markup(".toList ++ Text.quoted t ++ [')']
  | _ => []

def Value.toInteger (v : Value) : Run Int := do
  match v with
  | .missing reason => Run.fail .absence reason
  | .bytes bs =>
      match Text.readInt (plainText bs) with
      | .ok n => return n
      | .error _ => Run.fail .value ("invalid literal for int() with base 10: " ++ String.ofList (shownBytes bs))
  | .float x => wholePart x
  | v =>
      match v.integer?, v.text? with
      | some n, _ => return n
      | none, some t => textInteger t v.shownText
      | none, none => Run.misfit (Fault.message (.notNumeric (← v.sortName)))

def Value.toFraction (v : Value) : Run Binary64 := do
  let read := fun (t shown : Text) => do
    match Number.readFraction t with
    | some x => return x
    | none => Run.fail .value ("could not convert string to float: " ++ String.ofList shown)
  match v with
  | .missing reason => Run.fail .absence reason
  | .bytes bs => read (plainText bs) (shownBytes bs)
  | v =>
      match v.quantity?, v.text? with
      | some q, _ => nearest q
      | none, some t => read t v.shownText
      | none, none => Run.misfit s!"float() argument must be a string or a real number, not '{← v.sortName}'"

/-- The integer that stands for a position or a number of things. -/
def Value.index (v : Value) : Run Int := do
  match v.integer? with
  | some n => return n
  | none => Run.misfit s!"'{← v.sortName}' object cannot be interpreted as an integer"

def maxIndex : Int := 9223372036854775807

/-- The integer that stands for a number of things, if it is not too large. -/
def Value.count (v : Value) : Run Int := do
  let n ← v.index
  if maxIndex < n || n < -maxIndex - 1 then
    Run.fail .size s!"cannot fit '{← v.sortName}' into an index-sized integer"
  return n

/-- The integer that a call gives for a number of things, if it is not too large. -/
def Value.measure (v : Value) : Run Int := do
  let n ← v.index
  if maxIndex < n || n < -maxIndex - 1 then
    Run.fail .size "Python int too large to convert to C ssize_t"
  return n

/-- The number of characters that a call gives for a width. -/
def Value.width (v : Value) : Run Int := do
  let n ← v.measure
  Run.needRoom n.toNat
  return n

/-! ## Texts -/

/-- A value as a page writes it: a text that is escaped already stays as it is. -/
def Value.escaped (p : Powers) (v : Value) : Run Text := do
  match v with
  | .markup t => return t
  | v => return Text.escape (← v.display p)

/-- A text with every character that is not plain escaped. -/
def asciiOnly (t : Text) : Text := t.flatMap fun c => if c.toNat < 128 then [c] else Text.escapeByNumber c

end Redline.Form
