import Redline.Form.Step
import Redline.Json.Basic
import Redline.Number.Quantity
import Redline.Recovery

/-!
# Values of a form

What a form computes with: the values of JSON, rows, ranges, texts that are
already escaped, and the value that is not there.  The last one is empty when it
is written, and a fault when it is computed with.

A list, a record and every other thing that can change is an *object*.  It lies
in the *store*, and a value names its place there.
-/

namespace Redline.Form

open Number (Binary64 Quantity)

/-! ## Values -/

/-- A part of a record that one can go through. -/
inductive Part where
  | keys
  | values
  | items
deriving DecidableEq, Repr, Inhabited

/-- A value of a form. -/
inductive Value where
  /-- A value that is not there, with what is said if it is used. -/
  | missing (reason : String)
  | null
  | bool (b : Bool)
  | int (n : Int)
  | float (x : Binary64)
  | complex (real imaginary : Binary64)
  | text (t : Text)
  | markup (t : Text)
  | bytes (bs : List UInt8)
  | tuple (items : List Value)
  /-- A key with the list of the values that have it. -/
  | group (key items : Value)
  /-- The integers from one up to another, in steps. -/
  | range (start stop step : Int)
  | span (start stop step : Value)
  | list (place : Nat)
  | record (place : Nat)
  /-- A part of a record, by the place of the record. -/
  | view (part : Part) (place : Nat)
  /-- Another object, by its place. -/
  | object (place : Nat)
  | method (owner : Value) (name : String)
  /-- A function that belongs to no value. -/
  | function (name : String)
  | sort (name : String)
deriving Inhabited

/-- The values that are given to a call. -/
structure Args where
  placed : List Value := []
  named : List (String × Value) := []
deriving Inhabited

/-! ## Objects -/

/-- How the values that one goes through are made into others. -/
inductive Mapper where
  /-- A member of a member of the value, and a value for what is missing. -/
  | reach (path : List Value) (otherwise : Value)
  | filter (name : Value) (args : Args)
deriving Inhabited

/-- How some of the values that one goes through are picked. -/
structure Picker where
  path : List Value
  /-- The test of a name that it has to pass.  Without one it has to say
  something. -/
  test : Option (Value × Args)
  /-- Whether those that pass are the ones that are left out. -/
  negated : Bool
deriving Inhabited

/-- Where names are looked up: in the form, or in a list of names. -/
inductive Context where
  | form
  | names (values : List (String × Value))
deriving Inhabited

/-- Where steps are carried out. -/
structure Site where
  frame : Nat
  context : Context
  written : Value := .null
deriving Inhabited

/-- Where one is while going through values. -/
inductive Walk where
  | start (v : Value)
  | values (rest : List Value)
  | count (next step : Int) (left : Nat)
  | list (place position : Nat)
  | listBack (place position : Nat)
  /-- Before a position of a record, which had a size. -/
  | record (part : Part) (place position size : Nat)
  /-- Where another walk is. -/
  | object (place : Nat)
  /-- Before values that are made from others. -/
  | mapped (f : Mapper) (source : Walk)
  | mappedStart (args : Args) (v : Value)
  /-- Before values that are picked from others. -/
  | picked (p : Picker) (source : Walk)
  | pickedStart (byMember negated : Bool) (args : Args) (v : Value)
  /-- Before lists of a length, with those values that wait for theirs. -/
  | batched (length fill : Value) (waiting : List Value) (source : Walk)
  /-- Before the parts of a value, before the first one. -/
  | slicedStart (v count fill : Value)
  /-- Before the values that differ from all before them. -/
  | distinct (path : List Value) (byCase : Bool) (seen : List Value) (source : Walk)
  | distinctStart (path : Value) (byCase : Bool) (v : Value)
  /-- Before the keys and values of a record, before the first one. -/
  | pairsStart (v : Value)
  | tested (site : Site) (target : Target) (test : Expr) (source : Walk)
  | testedStart (site : Site) (target : Target) (entry : Entry) (test : Expr) (v : Value)
deriving Inhabited

/-- Where a loop is. -/
structure LoopState where
  values : Value
  walk : Nat
  /-- The number of rounds before this one, and nothing before the first. -/
  index : Int := -1
  /-- The number of rounds, if that is known. -/
  length : Option Nat := none
  current : Option Value := none
  previous : Option Value := none
  /-- The value of the round behind, if it was looked at. -/
  next : Option Value := none
  /-- The values that were last looked at for a change. -/
  changed : Option (List Value) := none
  depth : Nat := 0
  /-- The loop itself with its site, if it can be called. -/
  recurse : Option (Loop Step × Site) := none

/-- What lies at a place in the store. -/
inductive Cell where
  | list (items : Array Value)
  | record (fields : Array (Value × Value))
  | names (values : List (String × Value))
  /-- Values that are given one after the other, over and over. -/
  | cycler (items : List Value) (position : Nat)
  /-- A text that is given every time but the first. -/
  | joiner (separator : Value) (used : Bool)
  | walk (w : Walk) (sort : String)
  | loop (state : LoopState)
  | routine (r : Routine Step) (site : Site)
  | form (context : Context)
  | block (name : String) (context : Context)
  /-- A frame: what its slots hold, and the frame around it. -/
  | frame (slots : List (Slot × Option Value)) (outer : Option Nat)

instance : Inhabited Cell := ⟨.list #[]⟩

/-- The objects of a form, and what it has done so far. -/
structure Store where
  cells : Array Cell := #[]
  given : List (String × Value) := []
  /-- The names that are known outside, the latest first. -/
  known : List (String × Value) := []
  escaping : Bool := false
  output : Array Value := #[]
  blocks : List Block := []
  /-- How deep calls lie in one another. -/
  depth : Nat := 0
deriving Inhabited

/-- What changes the store, and may fail. -/
abbrev Run := StateT Store (Except Fault)

namespace Run

def fail {α : Type} (cause : Cause) (reason : String) : Run α := throw (.inForm cause reason)

/-- Fails because a value of its sort does not fit. -/
def misfit {α : Type} (reason : String) : Run α := fail .sort reason

def new (c : Cell) : Run Nat := do
  let s ← get
  set { s with cells := s.cells.push c }
  return s.cells.size

def cellAt (place : Nat) : Run Cell := do return ((← get).cells[place]?).getD default

/-- Puts another object to a place. -/
def setCell (place : Nat) (c : Cell) : Run Unit :=
  modify fun s => { s with cells := s.cells.setIfInBounds place c }

def newList (items : List Value) : Run Value := Value.list <$> new (.list items.toArray)

def newRecord (fields : List (Value × Value)) : Run Value := Value.record <$> new (.record fields.toArray)

def itemsAt (place : Nat) : Run (Array Value) := do
  match ← cellAt place with
  | .list items => return items
  | _ => return #[]

def fieldsAt (place : Nat) : Run (Array (Value × Value)) := do
  match ← cellAt place with
  | .record fields => return fields
  | _ => return #[]

/-- Carries out an action, and goes on with another if it fails for one of some
causes. -/
def orElse {α : Type} (x : Run α) (causes : List Cause) (y : Run α) : Run α := fun s =>
  match x s with
  | .error (.inForm cause reason) => if causes.contains cause then y s else .error (.inForm cause reason)
  | r => r

/-- What an action gives, and nothing if it fails. -/
def orNothing {α : Type} (x : Run α) : Run (Option α) := fun s =>
  match x s with
  | .ok (a, s) => .ok (some a, s)
  | .error _ => .ok (none, s)

end Run

namespace Value

/-! ## Values of other kinds -/

def ofString (s : String) : Value := text s.toList

mutual

def ofJson : Json → Run Value
  | .null => return null
  | .bool b => return bool b
  | .int n => return int n
  | .float x => return float x
  | .str s => return ofString s
  | .arr xs => do Run.newList (← ofItems xs)
  | .obj fs => do Run.newRecord (← ofFields fs)

def ofItems : List Json → Run (List Value)
  | [] => return []
  | x :: xs => do return (← ofJson x) :: (← ofItems xs)

def ofFields : List (String × Json) → Run (List (Value × Value))
  | [] => return []
  | (k, x) :: fs => do return (ofString k, ← ofJson x) :: (← ofFields fs)

end

/-- The number that a value stands for.  A truth value stands for zero or one. -/
def quantity? : Value → Option Quantity
  | bool b => some (.whole (if b then 1 else 0))
  | int n => some (.whole n)
  | float x => some (.fraction x)
  | _ => none

/-- The integer that a value stands for.  A truth value stands for zero or one. -/
def integer? : Value → Option Int
  | bool b => some (if b then 1 else 0)
  | int n => some n
  | _ => none

def ofQuantity : Quantity → Value
  | .whole n => int n
  | .fraction x => float x

/-- The text of a value that is one, escaped or not. -/
def text? : Value → Option Text
  | text t => some t
  | markup t => some t
  | _ => none

def row? : Value → Option (List Value)
  | tuple items => some items
  | group key items => some [key, items]
  | _ => none

/-- Whether a value is not there. -/
def isMissing : Value → Bool
  | missing _ => true
  | _ => false

end Value

/-- The sort of an object, with the place where it is at home if it is not a
plain one. -/
def Cell.sortName : Cell → String
  | .list _ => "list"
  | .record _ => "dict"
  | .names _ => "jinja2.utils.Namespace"
  | .cycler .. => "jinja2.utils.Cycler"
  | .joiner .. => "jinja2.utils.Joiner"
  | .walk _ sort => sort
  | .loop _ => "jinja2.runtime.LoopContext"
  | .routine .. => "jinja2.runtime.Macro"
  | .form _ => "jinja2.runtime.TemplateReference"
  | .block .. => "jinja2.runtime.BlockReference"
  | .frame .. => "frame"

namespace Value

def methodSort : Value → String
  | markup _ => "method"
  | sort _ => "method_descriptor"
  | object _ => "method"
  | _ => "builtin_function_or_method"

/-- The sort of a value, with the place where it is at home if it is not a plain
one. -/
def fullSort : Value → Run String
  | missing _ => return "jinja2.runtime.Undefined"
  | null => return "NoneType"
  | bool _ => return "bool"
  | int _ => return "int"
  | float _ => return "float"
  | complex .. => return "complex"
  | text _ => return "str"
  | markup _ => return "markupsafe.Markup"
  | bytes _ => return "bytes"
  | tuple _ => return "tuple"
  | group .. => return "jinja2.filters._GroupTuple"
  | range .. => return "range"
  | span .. => return "slice"
  | list _ => return "list"
  | record _ => return "dict"
  | view .keys _ => return "dict_keys"
  | view .values _ => return "dict_values"
  | view .items _ => return "dict_items"
  | object place => do return (← Run.cellAt place).sortName
  | method owner _ => return methodSort owner
  | function _ => return "function"
  | sort _ => return "type"

/-- The name of a value's sort, as messages give it. -/
def sortName (v : Value) : Run String := do
  return ((← v.fullSort).splitOn ".").getLastD ""

/-- What a value is called when something is not found in it. -/
def ownerName (v : Value) : Run String := do
  match v with
  | null => return "None"
  | v => return (← v.fullSort) ++ " object"

end Value

end Redline.Form
