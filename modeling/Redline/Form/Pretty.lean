import Redline.Form.Conversion
import Redline.Form.Sort
import Redline.Text.Split

/-!
# Values on several lines

A value that does not fit on a line is shown on several: a list, a row or a record
with one item a line, and a long text in pieces that are cut behind white space.
The keys of a record are in order.
-/

namespace Redline.Form

def prettyWidth : Int := 80

/-- A key of a record, by which the sorts of keys that cannot be compared are put in
order. -/
def sortText (v : Value) : Run Value := do return .ofString s!"<class '{← v.fullSort}'>"

/-- Whether one key comes before another. -/
def keyPrecedes (x y : Value) : Run Bool :=
  Run.orElse (x.precedes y) [.sort] do (← sortText x).precedes (← sortText y)

/-- Fields with one put to its place, behind those that are alike. -/
def putKey (f : Value × Value) : List (Value × Value) → Run (List (Value × Value))
  | [] => return [f]
  | g :: gs => do
      if ← keyPrecedes f.1 g.1 then return f :: g :: gs
      return g :: (← putKey f gs)

/-- The fields of a record in the order of their keys. -/
def orderedFields (fields : List (Value × Value)) : Run (List (Value × Value)) :=
  fields.foldlM (fun sorted f => putKey f sorted) []

/-- A value on one line, with the keys of records in order. -/
def lineIn (p : Powers) : (fuel : Nat) → Value → Run Text
  | 0, _ => Run.tooDeep
  | fuel + 1, v => do
      let line := lineIn p fuel
      match v with
      | .list place =>
          return '[' :: commaSeparated (← (← Run.itemsAt place).toList.mapM line) ++ [']']
      | .tuple [x] => return '(' :: (← line x) ++ ",)".toList
      | .tuple xs => return '(' :: commaSeparated (← xs.mapM line) ++ [')']
      | .record place =>
          let fields ← (← orderedFields (← Run.fieldsAt place).toList).mapM fun (k, w) => do
            return (← line k) ++ ": ".toList ++ (← line w)
          return '\x7b' :: commaSeparated fields ++ ['\x7d']
      | v => v.shown p

/-- The pieces of a line of text, each with the white space behind it.  `fuel`
bounds their number. -/
def piecesOf : (fuel : Nat) → Text → List Text
  | 0, _ => []
  | _, [] => []
  | fuel + 1, t =>
      let word := t.takeWhile fun c => !Text.isBlank c
      let gap := (t.drop word.length).takeWhile Text.isBlank
      (word ++ gap) :: piecesOf fuel (t.drop (word.length + gap.length))

/-- Pieces put together as long as they fit into a width, as they are shown.  The
last one has to leave room for what follows. -/
def packPieces (width allowance : Int) (isLastLine : Bool) : (current : Text) → List Text → List Text
  | current, [] => if current.isEmpty then [] else [Text.quoted current]
  | current, part :: parts =>
      let candidate := current ++ part
      let width := if parts.isEmpty && isLastLine then width - allowance else width
      if width < (Text.quoted candidate).length then
        if current.isEmpty then packPieces width allowance isLastLine part parts
        else Text.quoted current :: packPieces width allowance isLastLine part parts
      else packPieces width allowance isLastLine candidate parts

/-- The pieces in which the lines of a text are shown. -/
def textPieces (width allowance : Int) : List Text → List Text
  | [] => []
  | line :: lines =>
      let isLast := lines.isEmpty
      let own := if isLast then width - allowance else width
      let shown := Text.quoted line
      let here := if (shown.length : Int) ≤ own then [shown]
        else packPieces width allowance isLast [] (piecesOf line.length line)
      here ++ textPieces width allowance lines

def prettyText (t : Text) (indent allowance : Int) (level : Nat) : Text :=
  let outermost := level = 1
  let indent := if outermost then indent + 1 else indent
  let allowance := if outermost then allowance + 1 else allowance
  let lines := Text.markedParagraphs t
  match textPieces (prettyWidth - indent) allowance lines with
  | [_] => (lines.getLast?.map Text.quoted).getD []
  | pieces =>
      let body := List.intercalate ('\n' :: List.replicate indent.toNat ' ') pieces
      if outermost then '(' :: body ++ [')'] else body

def onLines (indent : Int) (ts : List Text) : Text :=
  List.intercalate (",\n".toList ++ List.replicate indent.toNat ' ') ts

/-- A value on several lines if it does not fit on one, at an indent, with room for
what follows. -/
def prettyIn (p : Powers) : (fuel : Nat) → (indent allowance : Int) → (level : Nat) → Value → Run Text
  | 0, _, _, _, _ => Run.tooDeep
  | fuel + 1, indent, allowance, level, v => do
      let line ← lineIn p maxDepth v
      if (line.length : Int) ≤ prettyWidth - indent - allowance then return line
      let items := fun (allowance : Int) (xs : List Value) => do
        let n := xs.length
        let ts ← xs.zipIdx.mapM fun (x, i) =>
          prettyIn p fuel (indent + 1) (if i + 1 = n then allowance else 1) (level + 1) x
        return onLines (indent + 1) ts
      match v with
      | .list place => return '[' :: (← items (allowance + 1) (← Run.itemsAt place).toList) ++ [']']
      | .tuple xs =>
          let ending := if xs.length = 1 then ",)".toList else [')']
          return '(' :: (← items (allowance + ending.length) xs) ++ ending
      | .record place =>
          let fields ← orderedFields (← Run.fieldsAt place).toList
          let n := fields.length
          let ts ← fields.zipIdx.mapM fun ((k, w), i) => do
            let key ← lineIn p maxDepth k
            let rest ← prettyIn p fuel (indent + 1 + key.length + 2)
              (if i + 1 = n then allowance + 1 else 1) (level + 1) w
            return key ++ ": ".toList ++ rest
          return '\x7b' :: onLines (indent + 1) ts ++ ['\x7d']
      | .text t => if t.isEmpty then return line else return prettyText t indent allowance (level + 1)
      | _ => return line

/-- A value on several lines if it does not fit on one. -/
def Value.pretty (p : Powers) (v : Value) : Run Text := prettyIn p maxDepth 0 0 0 v

end Redline.Form
