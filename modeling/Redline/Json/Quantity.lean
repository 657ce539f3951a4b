import Redline.Json.Basic
import Redline.Number.Quantity
import Redline.Fault

/-!
# Values as numbers and as keys

A line number, an id or a threshold comes from outside and may be any value.
Here stands what can be done with it.  A truth value counts as one or zero.
Arithmetic on what is no number is a fault, and so is the order of values of
different sorts.  Two values are *the same* if they are worth the same, so `1`,
`1.0` and `true` are one key.
-/

namespace Redline.Json

open Number (Quantity)

/-! ## Numbers -/

def quantity? : Json → Option Quantity
  | bool b => some (.whole (if b then 1 else 0))
  | int n => some (.whole n)
  | float x => some (.fraction x)
  | _ => none

def ofQuantity : Quantity → Json
  | .whole n => int n
  | .fraction x => float x

/-- The number that a value counts as, or the fault that it is none. -/
def quantity (v : Json) : Except Fault Quantity :=
  match v.quantity? with
  | some q => .ok q
  | none => .error .wrongSort

def count? : Json → Option Int
  | int n => some n
  | bool b => some (if b then 1 else 0)
  | _ => none

/-- The integer that a value counts as, or the fault that it is none. -/
def count (v : Json) : Except Fault Int :=
  match v.count? with
  | some n => .ok n
  | none => .error .wrongSort

/-- The integer that a value stands for: itself, the whole part of a fraction, one and
zero for the truth values, or what a text writes. -/
def toInteger : Json → Except Fault Int
  | int n => .ok n
  | bool b => .ok (if b then 1 else 0)
  | float (.infinite _) => .error .infinite
  | float x =>
      match x.truncate? with
      | some n => .ok n
      | none => .error (.refused "cannot convert float NaN to integer")
  | str s => readInteger s
  | v => .error (.notNumeric v.sortName)

/-! ## Likeness -/

mutual

def same (v w : Json) : Bool :=
  match v.quantity?, w.quantity? with
  | some x, some y => x.same y
  | _, _ =>
      match v, w with
      | null, null => true
      | str s, str t => s == t
      | arr xs, arr ys => sameItems xs ys
      | obj fs, obj gs => fs.length == gs.length && sameFields fs gs
      | _, _ => false

def sameItems : List Json → List Json → Bool
  | [], [] => true
  | x :: xs, y :: ys => same x y && sameItems xs ys
  | _, _ => false

/-- Whether every field of one object is in another. -/
def sameFields : List (String × Json) → List (String × Json) → Bool
  | [], _ => true
  | (k, x) :: fs, gs => (gs.any fun (l, y) => k == l && same x y) && sameFields fs gs

end

instance : BEq Json := ⟨same⟩

@[simp] theorem beq_int (a b : Int) : (int a == int b) = decide (a = b) := by
  simp [BEq.beq, same, quantity?, Quantity.same]

@[simp] theorem beq_str (s t : String) : (str s == str t) = (s == t) := by
  simp [BEq.beq, same, quantity?]

theorem str_beq_self (s : String) : (str s == str s) = true := by simp

/-- Only a text is the same as a text, whichever of the two comes first. -/
theorem eq_str_of_beq {v : Json} {s : String} (h : (v == str s) = true ∨ (str s == v) = true) : v = str s := by
  cases v with
  | str t =>
      rw [beq_str, beq_str, beq_iff_eq, beq_iff_eq] at h
      rcases h with rfl | rfl <;> rfl
  | _ => simp [BEq.beq, same, quantity?] at h

/-! ## Order -/

mutual

/-- Whether one value comes before another.  Numbers are compared by what they are
worth, texts by their characters, and lists by the first items that differ. -/
def precedes (v w : Json) : Except Fault Bool :=
  match v.quantity?, w.quantity? with
  | some x, some y => .ok (x.below y)
  | _, _ =>
      match v, w with
      | str s, str t => .ok (s < t)
      | arr xs, arr ys => precedesItems xs ys
      | _, _ => .error .wrongSort

/-- Whether one list comes before another. -/
def precedesItems : List Json → List Json → Except Fault Bool
  | [], ys => .ok !ys.isEmpty
  | _, [] => .ok false
  | x :: xs, y :: ys => if same x y then precedesItems xs ys else precedes x y

end

/-- Whether all of some values can be put in an order. -/
def inOneOrder : List Json → Bool
  | [] => true
  | v :: vs => (vs.all fun w => (precedes v w).isOk) && inOneOrder vs

/-- Whether a value does not come after another that it can be compared with. -/
def notAbove (v w : Json) : Bool := !(w.precedes v).toOption.getD false

/-! ## Texts -/

/-- The text that a value is, or the fault that it lacks what every text has. -/
def textWith (v : Json) (member : String) : Except Fault String :=
  match v with
  | str s => .ok s
  | v => .error (.noMember v.sortName member)

/-! ## Keys -/

def isKey : Json → Bool
  | arr _ => false
  | obj _ => false
  | _ => true

/-- The value as a key, or the fault that it is none. -/
def key (v : Json) : Except Fault Json := if v.isKey then .ok v else .error (.notKey v.sortName)

/-- The values in a value, one after the other: the items of an array, the
characters of a text, the names of an object. -/
def parts : Json → Except Fault (List Json)
  | arr xs => .ok xs
  | str s => .ok (s.toList.map fun c => str (String.singleton c))
  | obj fs => .ok (fs.map fun f => str f.1)
  | _ => .error .wrongSort

/-- The values in a value of which there have to be a number. -/
def unpack (n : Nat) (v : Json) : Except Fault (List Json) := do
  let vs ← v.parts
  if vs.length < n then throw (.refused s!"not enough values to unpack (expected {n}, got {vs.length})")
  else if n < vs.length then throw (.refused s!"too many values to unpack (expected {n})")
  else return vs

/-- Whether a text is in a value: among the items of an array or the names of an
object, or a part of a text. -/
def holds (v : Json) (s : String) : Bool :=
  match v with
  | arr xs => xs.any fun x => x.str? == some s
  | obj fs => fs.any fun f => f.1 == s
  | str t => Text.contains t.toList s.toList
  | _ => false

end Redline.Json
