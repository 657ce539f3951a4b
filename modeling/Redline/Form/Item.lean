import Redline.Form.Member

/-!
# Items of values

The item of a value at a position or a key, and its part between two bounds.  A
form asks for items and members in one breath: an item that there is not may be a
member, and the other way round, and what is neither is not there.
-/

namespace Redline.Form

/-! ## Parts -/

/-- The integer that a bound of a part stands for. -/
def bound : Value → Run (Option Int)
  | .null => return none
  | v =>
      match v.integer? with
      | some n => return some n
      | none => Run.misfit "slice indices must be integers or None or have an __index__ method"

/-- The first position of a part, the position where it ends, and the step, for a
value of a length. -/
structure Stretch where
  first : Int
  last : Int
  step : Int

/-- The stretch that bounds give in a value of a length. -/
def stretch (length : Nat) (start stop step : Value) : Run Stretch := do
  let step := (← bound step).getD 1
  if step = 0 then Run.fail .value "slice step cannot be zero"
  let start ← bound start
  let stop ← bound stop
  let n : Int := length
  let place := fun (low high i : Int) => max low (min high (if i < 0 then i + n else i))
  if 0 < step then return ⟨(start.map (place 0 n)).getD 0, (stop.map (place 0 n)).getD n, step⟩
  return ⟨(start.map (place (-1) (n - 1))).getD (n - 1), (stop.map (place (-1) (n - 1))).getD (-1), step⟩

def Stretch.of {α : Type} (s : Stretch) (xs : List α) : List α :=
  if s.step = 1 then (xs.take s.last.toNat).drop s.first.toNat
  else
    let items := xs.toArray
    (List.range (rangeLength s.first s.last s.step)).filterMap fun (i : Nat) =>
      items[(s.first + s.step * i).toNat]?

def cut {α : Type} (start stop step : Value) (xs : List α) : Run (List α) := do
  return (← stretch xs.length start stop step).of xs

def part (v start stop step : Value) : Run Value := do
  match v with
  | .text t => return .text (← cut start stop step t)
  | .markup t => return .markup (← cut start stop step t)
  | .bytes bs => return .bytes (← cut start stop step bs)
  | .tuple xs => return .tuple (← cut start stop step xs)
  | .group key items => return .tuple (← cut start stop step [key, items])
  | .list place => Run.newList (← cut start stop step (← Run.itemsAt place).toList)
  | .range a b c =>
      let s ← stretch (rangeLength a b c) start stop step
      return .range (a + c * s.first) (a + c * s.last) (c * s.step)
  | .record _ => Run.misfit "unhashable type: 'slice'"
  | .missing reason => Run.fail .absence reason
  | v => Run.misfit s!"'{← v.sortName}' object is not subscriptable"

/-! ## Items -/

/-- The position that an integer names among others. -/
def positionOf? (length : Nat) (i : Int) : Option Nat :=
  let i := if i < 0 then i + length else i
  if 0 ≤ i && i < length then some i.toNat else none

/-- The item of a sequence at a key, which has to be an integer.  `wrong` says what
keys it has. -/
def itemOf {α : Type} (sort wrong : String) (xs : List α) (key : Value) : Run α := do
  match key.integer? with
  | none => Run.misfit s!"{wrong}, not {← key.sortName}"
  | some i =>
      match (positionOf? xs.length i).bind (xs[·]?) with
      | some x => return x
      | none => Run.fail .position s!"{sort} index out of range"

/-- What is said about a key of a text that is no integer. -/
def textKeyMisfit {α : Type} (key : Value) : Run α := do
  Run.misfit s!"string indices must be integers, not '{← key.sortName}'"

def Value.item (p : Powers) (v key : Value) : Run Value := do
  match key with
  | .span start stop step => part v start stop step
  | key =>
      match v with
      | .missing reason => Run.fail .absence reason
      | .text t =>
          if key.integer?.isNone then textKeyMisfit key
          return .text [← itemOf "string" "" t key]
      | .markup t =>
          if key.integer?.isNone then textKeyMisfit key
          return .markup [← itemOf "string" "" t key]
      | .bytes bs => return .int (← itemOf "index" "byte indices must be integers or slices" bs key).toNat
      | .tuple xs => itemOf "tuple" "tuple indices must be integers or slices" xs key
      | .group a b => itemOf "tuple" "tuple indices must be integers or slices" [a, b] key
      | .list place =>
          let items ← Run.itemsAt place
          match key.integer? with
          | none => Run.misfit s!"list indices must be integers or slices, not {← key.sortName}"
          | some i =>
              match (positionOf? items.size i).bind (items[·]?) with
              | some x => return x
              | none => Run.fail .position "list index out of range"
      | .range start stop step =>
          match key.integer? with
          | none => Run.misfit s!"range indices must be integers or slices, not {← key.sortName}"
          | some i =>
              match positionOf? (rangeLength start stop step) i with
              | some k => return .int (start + step * k)
              | none => Run.fail .position "range object index out of range"
      | .record place =>
          key.checkKey
          match ← field? (← Run.fieldsAt place) key with
          | some w => return w
          | none => Run.fail .key (← key.shownString p)
      | .object place =>
          match ← Run.cellAt place with
          | .form context =>
              key.checkKey
              match key.text? with
              | some t =>
                  let name := String.ofList t
                  if (← get).blocks.any (·.name = name) then return .object (← Run.new (.block name context))
                  Run.fail .key (← key.shownString p)
              | none => Run.fail .key (← key.shownString p)
          | _ => Run.misfit s!"'{← v.sortName}' object is not subscriptable"
      | v => Run.misfit s!"'{← v.sortName}' object is not subscriptable"

/-- The causes for which an item or member counts as not there. -/
def absentCauses : List Cause := [.sort, .key, .position, .member]

/-- What a form gets when it asks for an item. -/
def Value.get (p : Powers) (v key : Value) : Run Value :=
  Run.orElse (v.item p key) absentCauses do
    match key.text? with
    | some name =>
        match ← v.member? p (String.ofList name) with
        | some w => return w
        | none => noItem p v key
    | none => noItem p v key

/-- What a form gets when it asks for a member. -/
def Value.getMember (p : Powers) (v : Value) (name : String) : Run Value := do
  match ← v.member? p name with
  | some w => return w
  | none => Run.orElse (v.item p (.ofString name)) absentCauses (noMember v name)

/-- What a form gets when it asks for a member of a member, on a path. -/
def reach (p : Powers) (path : List Value) (otherwise v : Value) : Run Value :=
  path.foldlM (fun v key => do
    let w ← v.get p key
    match w, otherwise with
    | .missing _, .null => return w
    | .missing _, otherwise => return otherwise
    | w, _ => return w) v

end Redline.Form
