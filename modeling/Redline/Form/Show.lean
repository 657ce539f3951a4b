import Redline.Form.Powers
import Redline.Number.Layout

/-!
# Values as text

`display` gives a value as a form writes it, and `shown` as it stands inside
another one.  They differ for texts, which are shown between quotes, and for the
value that is not there, which is not written.

An object that holds itself is shown with three points in its place.
-/

namespace Redline.Form

open Number (Binary64)

def maxDepth : Nat := 1000

/-- Where an object is said to lie.  A form cannot rely on it. -/
def somewhere : String := "0x7f0000000000"

def shownByte (quote : Char) (b : UInt8) : Text :=
  let c := Char.ofNat b.toNat
  if b.toNat < 127 then Text.quoteChar quote c else '\\' :: 'x' :: Text.hex 2 b.toNat

def shownBytes (bs : List UInt8) : Text :=
  let quote := Text.quoteFor (bs.map fun b => Char.ofNat b.toNat)
  'b' :: quote :: bs.flatMap (shownByte quote) ++ [quote]

def commaSeparated (ts : List Text) : Text := List.intercalate ", ".toList ts

/-- The texts of integers, unless one has too many digits. -/
def integerText (n : Int) : Run Text := fun s =>
  match writeInteger n with
  | .ok t => .ok (t, s)
  | .error e => .error e

/-- The number of rounds of a loop.  A walk through values that cannot be counted
is gone through, and then starts again where it was. -/
def loopLength (p : Powers) (place : Nat) (l : LoopState) : Run Nat := do
  match l.length with
  | some n => return n
  | none =>
      let size? : Option Nat ← match l.values with
        | .missing _ => pure (some 0)
        | .text t | .markup t => pure (some t.length)
        | .bytes bs => pure (some bs.length)
        | .tuple xs => pure (some xs.length)
        | .group .. => pure (some 2)
        | .range start stop step =>
            pure (some (if 0 < step then ((stop - start + step - 1) / step).toNat
              else ((start - stop - step - 1) / (-step)).toNat))
        | .list at_ => do pure (some (← Run.itemsAt at_).size)
        | .record at_ | .view _ at_ => do pure (some (← Run.fieldsAt at_).size)
        | _ => pure none
      let n ← match size? with
        | some n => pure n
        | none =>
            let rest ← Run.iterate Run.maxRounds ([] : List Value) fun done => do
              match ← p.next l.walk with
              | some v => return (v :: done, true)
              | none => return (done, false)
            Run.setCell l.walk (.walk (.values rest.reverse) "list_iterator")
            pure (rest.length + (l.index + 1).toNat + (if l.next.isSome then 1 else 0))
      Run.setCell place (.loop { l with length := some n })
      return n

/-- A fraction without what only tells that it is one. -/
def bareFraction (x : Binary64) : Text :=
  let size := match x with
    | .finite _ size => size.shortestText false false
    | .infinite _ => "inf".toList
    | .nan => "nan".toList
  if x.isNegative then '-' :: size else size

def shownComplex (real imaginary : Binary64) : Text :=
  if real = .zero false then bareFraction imaginary ++ ['j']
  else
    let sign := if imaginary.isNegative then [] else ['+']
    '(' :: bareFraction real ++ sign ++ bareFraction imaginary ++ "j)".toList

def shownMethod (owner : Value) (name : String) : Run String := do
  let sort ← owner.fullSort
  let short ← owner.sortName
  if let .sort s := owner then return s!"<method '{name}' of '{s}' objects>"
  if owner.methodSort = "method" then
    return s!"<bound method {short}.{name} of <{sort} object at {somewhere}>>"
  return s!"<built-in method {name} of {sort} object at {somewhere}>"

/-- A value as it is shown inside another one.  `around` are the places of the
objects that it stands in. -/
def shownIn (p : Powers) : (fuel : Nat) → (around : List Nat) → Value → Run Text
  | 0, _, _ => Run.fail .depth "maximum recursion depth exceeded while getting the repr of an object"
  | fuel + 1, around, v => do
      let shown := shownIn p fuel around
      let field := fun (around : List Nat) (f : Value × Value) => do
        return (← shownIn p fuel around f.1) ++ ": ".toList ++ (← shownIn p fuel around f.2)
      let row := fun (xs : List Value) => do
        match xs with
        | [x] => return '(' :: (← shown x) ++ ",)".toList
        | xs => return '(' :: commaSeparated (← xs.mapM shown) ++ [')']
      match v with
      | .missing _ => return "Undefined".toList
      | .null => return "None".toList
      | .bool b => return if b then "True".toList else "False".toList
      | .int n => integerText n
      | .float x => return x.shortest
      | .complex real imaginary => return shownComplex real imaginary
      | .text t => return Text.quoted t
      | .markup t => return "Markup(".toList ++ Text.quoted t ++ [')']
      | .bytes bs => return shownBytes bs
      | .tuple xs => row xs
      | .group key items => row [key, items]
      | .range start stop step =>
          let bounds := if step = 1 then [start, stop] else [start, stop, step]
          return "range(".toList ++ commaSeparated (← bounds.mapM integerText) ++ [')']
      | .span start stop step =>
          return "slice(".toList ++ commaSeparated (← [start, stop, step].mapM shown) ++ [')']
      | .list place =>
          if around.contains place then return "[...]".toList
          let items ← (← Run.itemsAt place).toList.mapM (shownIn p fuel (place :: around))
          return '[' :: commaSeparated items ++ [']']
      | .record place =>
          if around.contains place then return "\x7b...\x7d".toList
          let fields ← (← Run.fieldsAt place).toList.mapM (field (place :: around))
          return '\x7b' :: commaSeparated fields ++ ['\x7d']
      | .view part place =>
          if around.contains place then return "...".toList
          let show_ := shownIn p fuel (place :: around)
          let items ← (← Run.fieldsAt place).toList.mapM fun f => match part with
            | .keys => show_ f.1
            | .values => show_ f.2
            | .items => show_ (.tuple [f.1, f.2])
          return (← v.fullSort).toList ++ "([".toList ++ commaSeparated items ++ "])".toList
      | .object place =>
          match ← Run.cellAt place with
          | .names values =>
              let fields ← values.mapM fun f => field around (.text f.1.toList, f.2)
              return "<Namespace \x7b".toList ++ commaSeparated fields ++ "\x7d>".toList
          | .loop l =>
              let n ← loopLength p place l
              return s!"<LoopContext {l.index + 1}/{n}>".toList
          | .routine r .. =>
              let name := match r.name with
                | some s => String.ofList (Text.quoted s.toList)
                | none => "anonymous"
              return s!"<Macro {name}>".toList
          | .form _ => return "<TemplateReference None>".toList
          | .walk _ sort =>
              if sort = "generator" then return s!"<generator object at {somewhere}>".toList
              return s!"<{sort} object at {somewhere}>".toList
          | c => return s!"<{c.sortName} object at {somewhere}>".toList
      | .method owner name => return (← shownMethod owner name).toList
      | .function name => return s!"<function {name} at {somewhere}>".toList
      | .sort name => return s!"<class '{name}'>".toList

/-- A value as it is shown inside another one. -/
def Value.shown (p : Powers) (v : Value) : Run Text := shownIn p maxDepth [] v

/-- A value as a form writes it: a text as it is, nothing for a value that is not
there, and all else as it is shown. -/
def Value.display (p : Powers) : Value → Run Text
  | .text t | .markup t => return t
  | .missing _ => return []
  | v => v.shown p

/-- The value as a form writes it, in a message. -/
def Value.displayed (p : Powers) (v : Value) : Run String := String.ofList <$> v.display p

def Value.shownString (p : Powers) (v : Value) : Run String := String.ofList <$> v.shown p

/-! ## Values that are not there -/

/-- The value that stands for a member that there is not. -/
def noMember (v : Value) (name : String) : Run Value := do
  let owner := String.ofList (Text.quoted (← v.ownerName).toList)
  return .missing s!"{owner} has no attribute {String.ofList (Text.quoted name.toList)}"

/-- The value that stands for an item that there is not. -/
def noItem (p : Powers) (v key : Value) : Run Value := do
  match key.text? with
  | some name => noMember v (String.ofList name)
  | none => return .missing s!"{← v.ownerName} has no element {← key.shownString p}"

/-- The value that stands for a name that there is not. -/
def noName (name : String) : Value :=
  .missing s!"{String.ofList (Text.quoted name.toList)} is undefined"

end Redline.Form
