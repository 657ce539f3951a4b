import Redline.Table
import Redline.Number.Decimal
import Redline.Text.Quoted

/-!
# JSON values

Payloads, model answers and settings are JSON.  An object keeps its fields in
the order they came in, and a key stands in it once.  A number is an integer of
any size or a double precision number.
-/

namespace Redline

open Number (Binary64)

/-- A JSON value. -/
inductive Json where
  | null
  | bool (b : Bool)
  | int (n : Int)
  | float (x : Binary64)
  | str (s : String)
  | arr (items : List Json)
  | obj (fields : List (String × Json))
deriving Inhabited

namespace Json

def lookup? (name : String) (fields : List (String × Json)) : Option Json :=
  (fields.find? fun f => f.1 == name).map (·.2)

def get? (v : Json) (name : String) : Option Json :=
  match v with
  | obj fields => lookup? name fields
  | _ => none

/-- The field of a name, and null if there is none. -/
def getD (v : Json) (name : String) : Json := (v.get? name).getD null

def str? : Json → Option String
  | str s => some s
  | _ => none

theorem str?_eq_some {v : Json} {s : String} : v.str? = some s ↔ v = str s := by
  cases v <;> simp [str?]

def int? : Json → Option Int
  | int n => some n
  | _ => none

def bool? : Json → Option Bool
  | bool b => some b
  | _ => none

/-- The items of an array, and none of any other value. -/
def items : Json → List Json
  | arr xs => xs
  | _ => []

/-- The fields of an object, and none of any other value. -/
def fields : Json → List (String × Json)
  | obj fs => fs
  | _ => []

def isNull : Json → Bool
  | null => true
  | _ => false

/-- Whether a value says something: it is not null, false, zero or empty. -/
def truthy : Json → Bool
  | null => false
  | bool b => b
  | int n => n ≠ 0
  | float x => !x.isZero
  | str s => s ≠ ""
  | arr xs => !xs.isEmpty
  | obj fs => !fs.isEmpty

/-- The name of a value's sort, as messages give it. -/
def sortName : Json → String
  | null => "NoneType"
  | bool _ => "bool"
  | int _ => "int"
  | float _ => "float"
  | str _ => "str"
  | arr _ => "list"
  | obj _ => "dict"

/-! ## Values inside messages -/

mutual

/-- A value as it is shown inside another one. -/
def shown : Json → Text
  | null => "None".toList
  | bool b => if b then "True".toList else "False".toList
  | int n => Number.intText n
  | float x => x.shortest
  | str s => Text.quoted s.toList
  | arr xs => '[' :: shownItems xs ++ [']']
  | obj fs => '\x7b' :: shownFields fs ++ ['\x7d']

def shownItems : List Json → Text
  | [] => []
  | [x] => shown x
  | x :: xs => shown x ++ ", ".toList ++ shownItems xs

/-- The fields of an object as they are shown. -/
def shownFields : List (String × Json) → Text
  | [] => []
  | [(k, x)] => Text.quoted k.toList ++ ": ".toList ++ shown x
  | (k, x) :: fs => Text.quoted k.toList ++ ": ".toList ++ shown x ++ ", ".toList ++ shownFields fs

end

/-- A value as a message gives it: a text as it is, all else as it is shown. -/
def display : Json → Text
  | str s => s.toList
  | v => shown v

/-- The value as a text: a text itself, and all else as it is shown. -/
def displayed (v : Json) : String := String.ofList v.display

def ofOption {α : Type} (write : α → Json) : Option α → Json
  | some a => write a
  | none => null

def ofText (t : Text) : Json := str (String.ofList t)

def ofNat (n : Nat) : Json := int n

def ofStrings (ss : List String) : Json := arr (ss.map str)

end Json

end Redline
