import Redline.Form.Signature

/-!
# Methods of records

A record is asked and changed by its methods.  Other records, and lists of keys
with their values, can be put into it.
-/

namespace Redline.Form

/-- Fails because a record has no such key. -/
def noKey {α : Type} (p : Powers) (key : Value) : Run α := do
  Run.fail .key (← key.shownString p)

def putField (place : Nat) (key v : Value) : Run Unit := do
  key.checkKey
  Run.setCell place (.record (← setField (← Run.fieldsAt place) key v))

def pairsOf (p : Powers) (v : Value) : Run (List (Value × Value)) := do
  match v with
  | .record place => return (← Run.fieldsAt place).toList
  | .missing reason => Run.fail .absence reason
  | v =>
      (← v.items p).zipIdx.mapM fun (x, i) => do
        let pair ← Run.orElse (x.items p) [.sort]
          (Run.misfit s!"cannot convert dictionary update sequence element #{i} to a sequence")
        match pair with
        | [k, w] => return (k, w)
        | xs =>
            Run.fail .value
              s!"dictionary update sequence element #{i} has length {xs.length}; 2 is required"

/-- Puts what a call gives into the record at a place. -/
def updateAt (p : Powers) (place : Nat) (args : Args) : Run Unit := do
  args.placed.forM fun v => do
    (← pairsOf p v).forM fun (k, w) => putField place k w
  args.named.forM fun (k, w) => putField place (.ofString k) w

def recordOf (p : Powers) (args : Args) : Run Value := do
  if 1 < args.placed.length then
    Run.misfit s!"dict expected at most 1 argument, got {args.placed.length}"
  let place ← Run.new (.record #[])
  updateAt p place args
  return .record place

/-- A new record with keys that all have one value. -/
def recordFrom (p : Powers) (args : List Value) : Run Value := do
  let place ← Run.new (.record #[])
  let v := args[1]?.getD Value.null
  (← (args[0]?.getD Value.null).items p).forM fun k => putField place k v
  return .record place

/-- Takes a field out of the record at a place, or gives another value if it is not
there. -/
def popAt (p : Powers) (place : Nat) (key : Value) (otherwise : Option Value) : Run Value := do
  let fields ← Run.fieldsAt place
  unless fields.isEmpty do
    key.checkKey
  match ← keyIndex? fields key, otherwise with
  | some i, _ =>
      Run.setCell place (.record (dropField fields i))
      return (fields[i]?.map (·.2)).getD .null
  | none, some v => return v
  | none, none => noKey p key

def recordMethod (p : Powers) (place : Nat) (name : String) (args : Args) : Run (Option Value) := do
  let full := "dict." ++ name
  let fields ← Run.fieldsAt place
  match name with
  | "clear" =>
      args.nothing full
      Run.setCell place (.record #[])
      return some .null
  | "copy" =>
      args.nothing full
      some <$> Run.newRecord fields.toList
  | "fromkeys" => some <$> recordFrom p (← args.between full name 1 2)
  | "get" =>
      let values ← args.between full name 1 2
      let key := values[0]?.getD Value.null
      key.checkKey
      return some ((← field? fields key).getD (values[1]?.getD .null))
  | "items" =>
      args.nothing full
      return some (.view .items place)
  | "keys" =>
      args.nothing full
      return some (.view .keys place)
  | "values" =>
      args.nothing full
      return some (.view .values place)
  | "pop" =>
      let values ← args.between full name 1 2
      some <$> popAt p place (values[0]?.getD .null) values[1]?
  | "popitem" =>
      args.nothing full
      match fields.back? with
      | none => Run.fail .key "'popitem(): dictionary is empty'"
      | some (k, v) =>
          Run.setCell place (.record fields.pop)
          return some (.tuple [k, v])
  | "setdefault" =>
      let values ← args.between full name 1 2
      let key := values[0]?.getD Value.null
      key.checkKey
      match ← field? fields key with
      | some v => return some v
      | none =>
          let v := values[1]?.getD Value.null
          putField place key v
          return some v
  | "update" =>
      if 1 < args.placed.length then
        Run.misfit s!"update expected at most 1 argument, got {args.placed.length}"
      updateAt p place args
      return some .null
  | _ => return none

/-- Whether two views have nothing in common. -/
def disjoint (p : Powers) (view other : Value) : Run Bool := do
  let items ← view.items p
  let hit ← (← other.items p).anyM fun v => items.anyM v.matches
  return !hit

end Redline.Form
