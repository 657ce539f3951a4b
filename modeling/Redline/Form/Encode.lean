import Redline.Form.Conversion
import Redline.Form.Sort
import Redline.Json.Writer

/-!
# Values as JSON

A value of a form as JSON, with the keys of records in order.  It is written on one
line, or on several with an indent.  The characters that a page gives a meaning to
are written by number.
-/

namespace Redline.Form

def jsonString (t : Text) : Text := Json.stringText (String.ofList t)

def jsonKey (k : Value) : Run Text := do
  match k with
  | .text t | .markup t => return t
  | .null => return "null".toList
  | .bool b => return if b then "true".toList else "false".toList
  | .int n => integerText n
  | .float x => return Json.floatText x
  | k => Run.misfit s!"keys must be str, int, float, bool or None, not {← k.sortName}"

/-- Items of a list or fields of a record between brackets, on one line or on
several. -/
def jsonBlock (indent : Option Text) (level : Nat) (opening closing : Char) (items : List Text) : Text :=
  match indent, items with
  | _, [] => [opening, closing]
  | none, items => opening :: commaSeparated items ++ [closing]
  | some margin, items =>
      let newLine := fun (n : Nat) => '\n' :: (List.replicate n margin).flatten
      opening :: newLine (level + 1) ++ List.intercalate (',' :: newLine (level + 1)) items
        ++ newLine level ++ [closing]

/-- A value as JSON, at a level.  `around` are the places of the objects that it
stands in. -/
def jsonIn (p : Powers) (indent : Option Text) : (fuel level : Nat) → (around : List Nat) → Value → Run Text
  | 0, _, _, _ => Run.tooDeep
  | fuel + 1, level, around, v => do
      let inside := fun (place : Nat) => do
        if around.contains place then Run.fail .value "Circular reference detected"
      let row := fun (around : List Nat) (xs : List Value) => do
        return jsonBlock indent level '[' ']' (← xs.mapM (jsonIn p indent fuel (level + 1) around))
      match v with
      | .null => return "null".toList
      | .bool b => return if b then "true".toList else "false".toList
      | .int n => integerText n
      | .float x => return Json.floatText x
      | .text t | .markup t => return jsonString t
      | .tuple xs => row around xs
      | .group key items => row around [key, items]
      | .list place =>
          inside place
          row (place :: around) (← Run.itemsAt place).toList
      | .record place =>
          inside place
          let keyed := (← Run.fieldsAt place).toList.map fun f => (⟨.tuple [f.1, f.2], .tuple [f.1, f.2]⟩ : Keyed)
          let fields ← (← sortBy false keyed).mapM fun f => do
            match f with
            | .tuple [k, w] =>
                let key ← jsonKey k
                return jsonString key ++ ": ".toList ++ (← jsonIn p indent fuel (level + 1) (place :: around) w)
            | _ => return []
          return jsonBlock indent level '\x7b' '\x7d' fields
      | v => Run.misfit s!"Object of type {← v.sortName} is not JSON serializable"

def jsonIndent (v : Value) : Run (Option Text) := do
  match v with
  | .null => return none
  | v =>
      match v.text?, v.integer? with
      | some t, _ => return some t
      | none, some n => return some (List.replicate n.toNat ' ')
      | none, none => Run.misfit s!"can't multiply sequence by non-int of type '{← v.sortName}'"

def jsonInPage : Char → Text
  | '<' => Json.unitEscape 0x3c
  | '>' => Json.unitEscape 0x3e
  | '&' => Json.unitEscape 0x26
  | '\'' => Json.unitEscape 0x27
  | c => [c]

def Value.toJson (p : Powers) (v indent : Value) : Run Text := do
  let indent ← if v.text?.isSome then pure none else jsonIndent indent
  return (← jsonIn p indent maxDepth 0 [] v).flatMap jsonInPage

end Redline.Form
