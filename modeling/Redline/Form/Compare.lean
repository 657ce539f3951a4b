import Redline.Form.Show

/-!
# Values compared

When a value says something, when two values are the same, and which of two comes
first.  Numbers are compared by what they are worth and texts by their
characters, whether they are escaped or not.  A value that is not there is like
every other that is not there, and has no order.
-/

namespace Redline.Form

open Number (Binary64 Quantity)

def rangeLength (start stop step : Int) : Nat :=
  if 0 < step then ((stop - start + step - 1) / step).toNat
  else if step < 0 then ((start - stop - step - 1) / (-step)).toNat
  else 0

def rangeItems (start stop step : Int) : List Value :=
  (List.range (rangeLength start stop step)).map fun (i : Nat) => .int (start + step * i)

/-- Whether a value says something: it is there, and not null, false, zero or
empty. -/
def Value.truthy : Value → Run Bool
  | .missing _ => return false
  | .null => return false
  | .bool b => return b
  | .int n => return n ≠ 0
  | .float x => return !x.isZero
  | .complex real imaginary => return !(real.isZero && imaginary.isZero)
  | .text t | .markup t => return !t.isEmpty
  | .bytes bs => return !bs.isEmpty
  | .tuple xs => return !xs.isEmpty
  | .range start stop step => return rangeLength start stop step ≠ 0
  | .list place => do return !(← Run.itemsAt place).isEmpty
  | .record place | .view _ place => do return !(← Run.fieldsAt place).isEmpty
  | _ => return true

/-! ## Likeness -/

def viewItems (part : Part) (place : Nat) : Run (List Value) := do
  return (← Run.fieldsAt place).toList.map fun f => match part with
    | .keys => f.1
    | .values => f.2
    | .items => .tuple [f.1, f.2]

/-- Whether two values are the same object, as far as values can tell. -/
def Value.identical : Value → Value → Bool
  | .list a, .list b | .record a, .record b | .object a, .object b => a = b
  | .null, .null => true
  | .bool a, .bool b => a = b
  | .float .nan, .float .nan => true
  | .sort a, .sort b | .function a, .function b => a = b
  | _, _ => false

/-- Whether two lists have the same values, by a way to compare two. -/
def sameLists (same : Value → Value → Run Bool) : List Value → List Value → Run Bool
  | [], [] => return true
  | x :: xs, y :: ys => do
      if x.identical y then sameLists same xs ys
      else if ← same x y then sameLists same xs ys
      else return false
  | _, _ => return false

def sameIn : (fuel : Nat) → Value → Value → Run Bool
  | 0, _, _ => Run.fail .depth "maximum recursion depth exceeded in comparison"
  | fuel + 1, v, w => do
      let same := sameIn fuel
      let allIn := fun (xs ys : List Value) => xs.allM fun x => ys.anyM (same x)
      match v.quantity?, w.quantity? with
      | some x, some y => return x.same y
      | _, _ =>
          match v.text?, w.text?, v.row?, w.row? with
          | some s, some t, _, _ => return s == t
          | _, _, some xs, some ys => sameLists same xs ys
          | _, _, _, _ =>
              match v, w with
              | .missing _, .missing _ => return true
              | .null, .null => return true
              | .bytes a, .bytes b => return a == b
              | .complex a b, .complex c d =>
                  return a.compare? c == some .eq && b.compare? d == some .eq
              | .list a, .list b =>
                  if a = b then return true
                  sameLists same (← Run.itemsAt a).toList (← Run.itemsAt b).toList
              | .record a, .record b =>
                  if a = b then return true
                  let fs := (← Run.fieldsAt a).toList
                  let gs := (← Run.fieldsAt b).toList
                  if fs.length ≠ gs.length then return false
                  fs.allM fun f => gs.anyM fun g => do
                    if ← same f.1 g.1 then
                      if f.2.identical g.2 then return true
                      same f.2 g.2
                    else return false
              | .range a b c, .range d e f =>
                  let n := rangeLength a b c
                  return n == rangeLength d e f && (n == 0 || (a == d && (n == 1 || c == f)))
              | .span a b c, .span d e f => sameLists same [a, b, c] [d, e, f]
              | .view .values a, .view .values b => return a == b
              | .view part a, .view other b =>
                  let xs ← viewItems part a
                  let ys ← viewItems other b
                  return xs.length == ys.length && (← allIn xs ys)
              | .method o a, .method q b => return a == b && (← same o q)
              | v, w => return v.identical w

/-- Whether two values are the same.  Numbers are compared by what they are worth,
and a value that is not there is like every other that is not there. -/
def Value.same (v w : Value) : Run Bool := sameIn maxDepth v w

/-- Whether a value is the same as another one, or the very same object. -/
def Value.matches (v w : Value) : Run Bool := do
  if v.identical w then return true
  v.same w

/-! ## Keys -/

def checkKey : (fuel : Nat) → Value → Run Unit
  | 0, _ => Run.tooDeep
  | fuel + 1, v => do
      match v with
      | .list _ | .record _ | .span .. | .view .keys _ | .view .items _ =>
          Run.misfit s!"unhashable type: '{← v.sortName}'"
      | .tuple xs => xs.forM (checkKey fuel)
      | .group key items => [key, items].forM (checkKey fuel)
      | _ => return ()

def Value.checkKey (v : Value) : Run Unit := Form.checkKey maxDepth v

/-- The position of a key in fields, of which the first has a position. -/
def keyIndexFrom (key : Value) : (position : Nat) → List (Value × Value) → Run (Option Nat)
  | _, [] => return none
  | i, f :: fs => do
      if ← key.matches f.1 then return some i
      keyIndexFrom key (i + 1) fs

def keyIndex? (fields : Array (Value × Value)) (key : Value) : Run (Option Nat) :=
  keyIndexFrom key 0 fields.toList

def field? (fields : Array (Value × Value)) (key : Value) : Run (Option Value) := do
  match ← keyIndex? fields key with
  | some i => return fields[i]?.map (·.2)
  | none => return none

/-- Fields with the value of a key set, at its place if it is there and at the end
if not. -/
def setField (fields : Array (Value × Value)) (key v : Value) : Run (Array (Value × Value)) := do
  match ← keyIndex? fields key with
  | some i => return fields.modify i fun f => (f.1, v)
  | none => return fields.push (key, v)

/-- Fields without the one at a position. -/
def dropField (fields : Array (Value × Value)) (i : Nat) : Array (Value × Value) :=
  (fields.toList.eraseIdx i).toArray

/-! ## Order -/

def Comparator.sign : Comparator → String
  | eq => "=="
  | ne => "!="
  | lt => "<"
  | le => "<="
  | gt => ">"
  | ge => ">="
  | isIn => "in"
  | notIn => "not in"

/-- Whether a comparison holds for what comes first or last or in one place. -/
def Comparator.holds : Comparator → Option Ordering → Bool
  | lt, o => o == some .lt
  | le, o => o == some .lt || o == some .eq
  | gt, o => o == some .gt
  | ge, o => o == some .gt || o == some .eq
  | eq, o => o == some .eq
  | ne, o => o != some .eq
  | _, _ => false

def compareTexts : Text → Text → Ordering
  | [], [] => .eq
  | [], _ :: _ => .lt
  | _ :: _, [] => .gt
  | c :: s, d :: t => if c = d then compareTexts s t else if c < d then .lt else .gt

/-- Whether two lists compare, by a way to compare two values and a way to see
whether they are the same: the first values that differ decide. -/
def orderLists (c : Comparator) (order : Value → Value → Run Bool) : List Value → List Value → Run Bool
  | [], [] => return c.holds (some .eq)
  | [], _ :: _ => return c.holds (some .lt)
  | _ :: _, [] => return c.holds (some .gt)
  | x :: xs, y :: ys => do
      if ← x.matches y then orderLists c order xs ys else order x y

/-- Whether two values compare, by what comes first. -/
def orderIn : (fuel : Nat) → Comparator → Value → Value → Run Bool
  | 0, _, _, _ => Run.fail .depth "maximum recursion depth exceeded in comparison"
  | fuel + 1, c, v, w => do
      match v, w with
      | .missing reason, _ => Run.fail .absence reason
      | _, .missing reason => Run.fail .absence reason
      | v, w =>
          match v.quantity?, w.quantity?, v.text?, w.text?, v.row?, w.row? with
          | some x, some y, _, _, _, _ => return c.holds (x.compare? y)
          | _, _, some s, some t, _, _ => return c.holds (some (compareTexts s t))
          | _, _, _, _, some xs, some ys => orderLists c (orderIn fuel c) xs ys
          | _, _, _, _, _, _ =>
              match v, w with
              | .list a, .list b =>
                  orderLists c (orderIn fuel c) (← Run.itemsAt a).toList (← Run.itemsAt b).toList
              | .bytes a, .bytes b => return c.holds (some (compare (a.map (·.toNat)) (b.map (·.toNat))))
              | v, w =>
                  Run.misfit (s!"'{c.sign}' not supported between instances of "
                    ++ s!"'{← v.sortName}' and '{← w.sortName}'")

/-- Whether two values compare, by what comes first. -/
def Value.order (c : Comparator) (v w : Value) : Run Bool := orderIn maxDepth c v w

/-- Whether one value comes before another. -/
def Value.precedes (v w : Value) : Run Bool := v.order .lt w

end Redline.Form
