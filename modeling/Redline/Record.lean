import Redline.Fault
import Redline.Json.Basic
import Redline.Text.Case

/-!
# Records with checked fields

Records that come from outside are JSON objects whose fields have to fit a
model.  A check reads one field after the other and collects every problem in
the order of the fields.  Fields that the model does not know are passed over.

Some values are converted on the way.  A number is taken for a text, a numeral
or a fraction for an integer, and a few words for a truth value.  An infinite
number for an integer ends the whole check at once.
-/

namespace Redline

/-- The outcome of a check: a value, all problems in order, or a fault that
ended it. -/
inductive Checked (α : Type) where
  | fits (a : α)
  /-- It does not. -/
  | fails (problems : List Problem)
  | aborts (e : Fault)

namespace Checked

/-- Two checks one after the other.  The problems of both are collected, and a
fault ends both. -/
def both {α β : Type} : Checked (α → β) → Checked α → Checked β
  | aborts e, _ => aborts e
  | _, aborts e => aborts e
  | fits f, fits a => fits (f a)
  | fits _, fails qs => fails qs
  | fails ps, fits _ => fails ps
  | fails ps, fails qs => fails (ps ++ qs)

instance : Applicative Checked where
  pure := fits
  seq f a := f.both (a ())

/-- The problems of a check, led to by one more name. -/
def under {α : Type} (name : String) : Checked α → Checked α
  | fits a => fits a
  | fails ps => fails (ps.map fun p => { p with path := name :: p.path })
  | aborts e => aborts e

def problem {α : Type} (e : FieldError) : Checked α := fails [⟨[], e⟩]

/-- The value, or the fault that a model of a name was not met. -/
def orFault {α : Type} (model : String) : Checked α → Except Fault α
  | fits a => .ok a
  | fails ps => .error (.invalid model ps)
  | aborts e => .error e

end Checked

/-- A reader of one value. -/
abbrev Check (α : Type) := Json → Checked α

namespace Check

/-- A value that is not null. -/
def present {α : Type} (check : Check α) : Check α
  | .null => .problem .null
  | v => check v

/-- A text.  A number or a truth value is written out. -/
def text : Check String
  | .str s => .fits s
  | .bool b => .fits (if b then "True" else "False")
  | .int n => .fits (String.ofList (Number.intText n))
  | .float x => .fits (String.ofList x.shortest)
  | _ => .problem .notText

def chars : Check Text := fun v => String.toList <$> text v

/-- An integer.  A fraction loses its places, and a numeral is read. -/
def integer : Check Int
  | .int n => .fits n
  | .bool b => .fits (if b then 1 else 0)
  | .float (.infinite _) => .aborts .infinite
  | .float x =>
      match x.truncate? with
      | some n => .fits n
      | none => .problem .notInteger
  | .str s =>
      match Text.readInt s.toList with
      | .ok n => .fits n
      | .error _ => .problem .notInteger
  | _ => .problem .notInteger

def trueWords : List Text := ["1", "on", "t", "true", "y", "yes"].map String.toList

def falseWords : List Text := ["0", "off", "f", "false", "n", "no"].map String.toList

/-- The truth value that a number stands for. -/
def ofNumber (isZero isOne : Bool) : Checked Bool :=
  if isOne then .fits true else if isZero then .fits false else .problem .notBoolean

/-- A truth value.  One and zero stand for the two, and so do some words. -/
def boolean : Check Bool
  | .bool b => .fits b
  | .int n => ofNumber (n = 0) (n = 1)
  | .float x => ofNumber x.isZero (x = Number.Binary64.ofDecimal false 1 0)
  | .str s =>
      let word := Text.lower s.toList
      if trueWords.contains word then .fits true
      else if falseWords.contains word then .fits false
      else .problem .notBoolean
  | _ => .problem .notBoolean

/-- The items of a list, each checked under its number. -/
def itemsFrom {α : Type} (check : Check α) : Nat → List Json → Checked (List α)
  | _, [] => .fits []
  | i, v :: vs => List.cons <$> (present check v).under (toString i) <*> itemsFrom check (i + 1) vs

def list {α : Type} (check : Check α) : Check (List α)
  | .arr vs => itemsFrom check 0 vs
  | _ => .problem .notList

/-- The two values that a pair holds: the items of a list of two, the characters
of a text of two, or the names of an object of two. -/
def pair? : Json → Option (Json × Json)
  | .arr [k, v] => some (k, v)
  | .str s =>
      match s.toList with
      | [a, b] => some (.str (String.ofList [a]), .str (String.ofList [b]))
      | _ => none
  | .obj [(a, _), (b, _)] => some (.str a, .str b)
  | _ => none

/-- Whether a value can be the name in a pair.  Lists and objects cannot. -/
def isKey : Json → Bool
  | .arr _ | .obj _ => false
  | _ => true

def pairs? (items : List Json) : Option (List (Json × Json)) := do
  let ps ← items.mapM pair?
  if ps.all fun p => isKey p.1 then some ps else none

/-- The fields that pairs make.  Of two pairs of one name the last counts, and
every name has to be a text. -/
def pairFields (ps : List (Json × Json)) : Except FieldError (List (String × Json)) :=
  match ps.mapM fun p => p.1.str?.map fun name => (name, p.2) with
  | some fs => .ok (fs.foldl (fun seen f => Table.set f.1 f.2 seen) [])
  | none => .error .unnamed

/-- The fields of a record: those of an object, or those of a list of pairs. -/
def rawFields : Json → Except FieldError (List (String × Json))
  | .obj fields => .ok fields
  | .arr items =>
      match pairs? items with
      | some ps => pairFields ps
      | none => .error .notRecord
  | .str "" => .ok []
  | _ => .error .notRecord

/-- The fields of a record, none of which has the reserved name. -/
def fieldsOf (v : Json) : Except FieldError (List (String × Json)) := do
  let fields ← rawFields v
  if (Json.lookup? reservedName fields).isSome then throw .reserved else return fields

/-- A record inside another one. -/
def record {α : Type} (read : List (String × Json) → Checked α) : Check α := fun v =>
  match fieldsOf v with
  | .ok fields => read fields
  | .error e => .problem e

end Check

/-! ## Models -/

/-- A model of records. -/
structure Model (α : Type) where
  name : String
  place : String
  read : List (String × Json) → Checked α

/-- A record of a model, from the object with its fields. -/
def Model.ofJson {α : Type} (m : Model α) : Json → Except Fault α
  | .obj fields =>
      if (Json.lookup? reservedName fields).isSome then .error .reserved
      else (m.read fields).orFault m.name
  | v => .error (.notRecord (m.place ++ "." ++ m.name) v.sortName)

/-! ## Fields -/

def required {α : Type} (fields : List (String × Json)) (name : String) (check : Check α) : Checked α :=
  match Json.lookup? name fields with
  | some v => (Check.present check v).under name
  | none => (Checked.problem .missing).under name

/-- A field that may be missing but not null. -/
def defaulted {α : Type} (fields : List (String × Json)) (name : String) (check : Check α) (value : α) :
    Checked α :=
  match Json.lookup? name fields with
  | some v => (Check.present check v).under name
  | none => .fits value

/-- A field that may be missing or null. -/
def optional {α : Type} (fields : List (String × Json)) (name : String) (check : Check α) :
    Checked (Option α) :=
  match Json.lookup? name fields with
  | none | some .null => .fits none
  | some v => (some <$> check v).under name

end Redline
