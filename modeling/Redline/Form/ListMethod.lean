import Redline.Form.Operation
import Redline.Form.Signature
import Redline.Form.Sort

/-!
# Methods of lists, rows and ranges

A list can be changed by its methods.  A row and a range can only be asked.
-/

namespace Redline.Form

/-- The position of a value between two positions of others. -/
def indexIn (p : Powers) (v : Value) (first last : Int) : (position : Nat) → List Value → Run (Option Nat)
  | _, [] => return none
  | i, w :: ws => do
      if first ≤ i && (i : Int) < last then
        if ← w.matches v then return some i
      indexIn p v first last (i + 1) ws

def itemBound (length : Nat) (v : Value) : Run Int := do
  match v.integer? with
  | some n => return if n < 0 then max 0 (n + length) else n
  | none => Run.misfit "slice indices must be integers or have an __index__ method"

/-- The position of a value among others, by what a call gives. -/
def indexOf (p : Powers) (args : List Value) (items : List Value) : Run (Option Nat) := do
  match args with
  | [] => return none
  | v :: bounds =>
      let first ← match bounds[0]? with
        | some b => itemBound items.length b
        | none => pure 0
      let last ← match bounds[1]? with
        | some b => itemBound items.length b
        | none => pure items.length
      indexIn p v first last 0 items

/-- The number of values that are like another. -/
def countLike (v : Value) (items : List Value) : Run Value := do
  return .int (← items.filterM fun w => w.matches v).length

def rowMethod (p : Powers) (items : List Value) (name : String) (args : Args) : Run (Option Value) := do
  let full := "tuple." ++ name
  match name with
  | "count" => some <$> countLike (← args.one full) items
  | "index" =>
      match ← indexOf p (← args.between full name 1 3) items with
      | some i => return some (.int i)
      | none => Run.fail .value "tuple.index(x): x not in tuple"
  | _ => return none

def rangeMethod (p : Powers) (start stop step : Int) (name : String) (args : Args) : Run (Option Value) := do
  let items := rangeItems start stop step
  let full := "range." ++ name
  match name with
  | "count" => some <$> countLike (← args.one full) items
  | "index" =>
      let v ← args.one full
      match ← indexOf p [v] items with
      | some i => return some (.int i)
      | none => Run.fail .value s!"{← v.shownString p} is not in range"
  | _ => return none

/-- The positions before which a value is put. -/
def insertPlace (length : Nat) (i : Int) : Nat :=
  (if i < 0 then max 0 (i + length) else min i length).toNat

def sortAt (p : Powers) (place : Nat) (args : Args) : Run Unit := do
  unless args.placed.isEmpty do
    if 2 < args.placed.length + args.named.length then
      Run.misfit s!"sort() takes at most 2 arguments ({args.placed.length + args.named.length} given)"
    Run.misfit "sort() takes no positional arguments"
  let values ← args.byName "sort" ["key", "reverse"]
  let against ← match values[1]?.join with
    | some v => do pure ((← v.index) ≠ 0)
    | none => pure false
  let items := (← Run.itemsAt place).toList
  let keyOf := (values[0]?.join).getD Value.null
  let keyed ← items.mapM fun v => do
    match keyOf with
    | .null => return (⟨v, v⟩ : Keyed)
    | f => return ⟨← p.call f ⟨[v], []⟩, v⟩
  Run.setCell place (.list (← sortBy against keyed).toArray)

def listMethod (p : Powers) (place : Nat) (name : String) (args : Args) : Run (Option Value) := do
  let full := "list." ++ name
  let items := (← Run.itemsAt place).toList
  let put := fun (items : List Value) => do
    Run.setCell place (.list items.toArray)
    return some Value.null
  match name with
  | "append" =>
      let v ← args.one full
      put (items ++ [v])
  | "clear" =>
      args.nothing full
      put []
  | "copy" =>
      args.nothing full
      some <$> Run.newList items
  | "count" => some <$> countLike (← args.one full) items
  | "extend" =>
      let more ← (← args.one full).items p
      put ((← Run.itemsAt place).toList ++ more)
  | "index" =>
      let values ← args.between full name 1 3
      match ← indexOf p values items with
      | some i => return some (.int i)
      | none =>
          let shown ← (values.head?.getD Value.null).shownString p
          Run.fail .value s!"{shown} is not in list"
  | "insert" =>
      match ← args.between full name 2 2 with
      | [i, v] =>
          let i := insertPlace items.length (← i.measure)
          put (items.take i ++ v :: items.drop i)
      | _ => return none
  | "pop" =>
      let values ← args.between full name 0 1
      let i ← match values with
        | v :: _ => v.measure
        | [] => pure (-1)
      if items.isEmpty then Run.fail .position "pop from empty list"
      match positionOf? items.length i with
      | none => Run.fail .position "pop index out of range"
      | some k =>
          let _ ← put (items.eraseIdx k)
          return items[k]?
  | "remove" =>
      match ← indexOf p [← args.one full] items with
      | some i => put (items.eraseIdx i)
      | none => Run.fail .value "list.remove(x): x not in list"
  | "reverse" =>
      args.nothing full
      put items.reverse
  | "sort" =>
      sortAt p place args
      return some .null
  | _ => return none

def setItem (place : Nat) (key v : Value) : Run Unit := do
  let items ← Run.itemsAt place
  match key.integer? with
  | none => Run.misfit s!"list indices must be integers or slices, not {← key.sortName}"
  | some i =>
      match positionOf? items.size i with
      | some k => Run.setCell place (.list (items.setIfInBounds k v))
      | none => Run.fail .position "list assignment index out of range"

/-- Takes an item out of the list at a place. -/
def dropItem (place : Nat) (key : Value) : Run Unit := do
  let items ← Run.itemsAt place
  match key.integer? with
  | none => Run.misfit s!"list indices must be integers or slices, not {← key.sortName}"
  | some i =>
      match positionOf? items.size i with
      | some k => Run.setCell place (.list (items.toList.eraseIdx k).toArray)
      | none => Run.fail .position "list assignment index out of range"

end Redline.Form
