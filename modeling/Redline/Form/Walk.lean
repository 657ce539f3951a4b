import Redline.Form.Frame

/-!
# Going through values

A *walk* goes through the values in a value: the items of a list, the characters
of a text, the keys of a record.  It takes one step at a time, so what a filter
does to the values behind the one that is asked for has not happened yet.

`Walk.next` gives the next value and the walk behind it.
-/

namespace Redline.Form

def Value.walk (v : Value) : Run Walk := do
  match v with
  | .missing _ => return .values []
  | .text t | .markup t => return .values (t.map fun c => .text [c])
  | .bytes bs => return .values (bs.map fun b => .int b.toNat)
  | .tuple xs => return .values xs
  | .group key items => return .values [key, items]
  | .list place => return .list place 0
  | .record place => return .record .keys place 0 (← Run.fieldsAt place).size
  | .view part place => return .record part place 0 (← Run.fieldsAt place).size
  | .range start stop step => return .count start step (rangeLength start stop step)
  | .object place =>
      match ← Run.cellAt place with
      | .walk .. | .loop _ => return .object place
      | _ => Run.misfit s!"'{← v.sortName}' object is not iterable"
  | v => Run.misfit s!"'{← v.sortName}' object is not iterable"

/-- The way to a member of a member that a value names: a text with points in it,
a position or a key. -/
def pathOf (v : Value) : Run (List Value) := do
  match v with
  | .null => return []
  | v =>
      match v.text? with
      | none => return [v]
      | some t =>
          (Text.splitOn t ['.']).mapM fun part =>
            if !part.isEmpty && part.all Text.isAnyDigit then
              match Text.readInt part with
              | .ok n => return Value.int n
              | .error .malformed => throw (.notInteger (String.ofList part))
              | .error (.tooLong n) => throw (.integerTooLong n)
            else return .text part

/-! ## Filters that wait -/

/-- What values are made into, by the arguments of a filter. -/
def mapperOf (args : Args) : Run Mapper := do
  match args.placed, args.named.lookup "attribute" with
  | [], some path =>
      let otherwise := (args.named.lookup "default").getD .null
      match args.named.filter fun a => a.1 ≠ "attribute" && a.1 ≠ "default" with
      | (name, _) :: _ =>
          Run.fail .argument s!"Unexpected keyword argument {String.ofList (Text.quoted name.toList)}"
      | [] => return .reach (← pathOf path) otherwise
  | name :: rest, _ => return .filter name ⟨rest, args.named⟩
  | [], none => Run.fail .argument "map requires a filter argument"

/-- How values are picked, by the arguments of a filter. -/
def pickerOf (byMember negated : Bool) (args : Args) : Run Picker := do
  let (path, rest) ←
    if byMember then
      match args.placed with
      | [] => Run.fail .argument "Missing parameter for attribute name"
      | path :: rest => pure (← pathOf path, rest)
    else pure ([], args.placed)
  match rest with
  | [] => return ⟨path, none, negated⟩
  | name :: rest => return ⟨path, some (name, ⟨rest, args.named⟩), negated⟩

def Mapper.apply (p : Powers) (f : Mapper) (v : Value) : Run Value :=
  match f with
  | .reach path otherwise => Form.reach p path otherwise v
  | .filter name args => p.filter name v args

def Picker.takes (p : Powers) (q : Picker) (v : Value) : Run Bool := do
  let w ← Form.reach p q.path .null v
  let passes ← match q.test with
    | none => w.truthy
    | some (name, args) => do (← p.test name w args).truthy
  return passes != q.negated

/-- A text with the difference of case removed, and any other value as it is. -/
def Value.foldCase : Value → Value
  | .text t => .text (Text.lower t)
  | .markup t => .markup (Text.lower t)
  | v => v

/-! ## Rows that get values -/

/-- Puts values into the items of a row, one by one. -/
def assignItems (assign : Target → Value → Run Unit) : List Target → List Value → Run Unit
  | t :: ts, v :: vs => do
      assign t v
      assignItems assign ts vs
  | _, _ => return ()

/-- Some values of a walk: as many as are wanted, or all that there are. -/
def takeFrom (next : Walk → Run (Option (Value × Walk))) : (count : Nat) → Walk → Run (List Value × Walk)
  | 0, w => return ([], w)
  | n + 1, w => do
      match ← next w with
      | none => return ([], w)
      | some (v, w) =>
          let (vs, w) ← takeFrom next n w
          return (v :: vs, w)

/-- The values in a value, of which there have to be a number. -/
def unpack (next : Walk → Run (Option (Value × Walk))) (wanted : Nat) (v : Value) : Run (List Value) := do
  let w ← Run.orElse v.walk [.sort] do
    Run.misfit s!"cannot unpack non-iterable {← v.sortName} object"
  let (vs, w) ← takeFrom next wanted w
  if vs.length < wanted then
    Run.fail .value s!"not enough values to unpack (expected {wanted}, got {vs.length})"
  if (← next w).isSome then Run.fail .value s!"too many values to unpack (expected {wanted})"
  return vs

/-- What is said when a member is set of something that has none of its own. -/
def noNames {α : Type} : Run α := Run.fail .run "cannot assign attribute on non-namespace object"

/-- The place of the space of names that a slot holds. -/
def namesIn (frame : Nat) (s : Slot) : Run Nat := do
  match ← slotAt frame s with
  | some (.object place) =>
      match ← Run.cellAt place with
      | .names _ => return place
      | _ => noNames
  | _ => noNames

def assignIn (next : Walk → Run (Option (Value × Walk))) : (fuel : Nat) → (frame : Nat) → Target → Value → Run Unit
  | 0, _, _, _ => Run.tooDeep
  | fuel + 1, frame, target, v => do
      match target with
      | .slot s => setSlot frame s (some v)
      | .row ts => assignItems (assignIn next fuel frame) ts (← unpack next ts.length v)
      | .member s name =>
          let place ← namesIn frame s
          match ← Run.cellAt place with
          | .names values => Run.setCell place (.names (Table.set name v values))
          | _ => noNames

def heldBy : (fuel : Nat) → (frame : Nat) → Target → Run Value
  | 0, _, _ => Run.tooDeep
  | fuel + 1, frame, target => do
      match target with
      | .slot s => return (← slotAt frame s).getD .null
      | .row ts => return .tuple (← ts.mapM (heldBy fuel frame))
      | .member .. => return .null

/-! ## Steps of a walk -/

/-- The parts of a value as lists: their number is given, the first ones are longer
by one if need be, and the others may be filled up. -/
def slices (items : List Value) (count fill : Value) : Run (List Value) := do
  match count.integer? with
  | none =>
      match count with
      | .missing reason => Run.fail .absence reason
      | .float x =>
          if x.isZero then Run.fail .division "float floor division by zero"
          Run.misfit "'float' object cannot be interpreted as an integer"
      | count => Run.misfit s!"unsupported operand type(s) for //: 'int' and '{← count.sortName}'"
  | some 0 => Run.fail .division "integer division or modulo by zero"
  | some n =>
      let length : Int := items.length
      let each := Int.fdiv length n
      let extra := Int.fmod length n
      let filled := match fill with
        | .null => false
        | _ => true
      (List.range n.toNat).mapM fun (i : Nat) => do
        let first := i * each + min (i : Int) extra
        let last := (i + 1) * each + min (i + 1 : Int) extra
        let part := (items.take last.toNat).drop first.toNat
        Run.newList (if filled && extra ≤ i then part ++ [fill] else part)

/-- A batch that ends, filled up if need be. -/
def lastBatch (length fill : Value) (items : List Value) : Run Value := do
  match fill, length.integer? with
  | .null, _ => Run.newList items
  | fill, some n =>
      Run.newList (items ++ List.replicate (n - items.length).toNat fill)
  | _, none =>
      if ← (Value.int items.length).precedes length then
        Run.misfit s!"can't multiply sequence by non-int of type '{← length.sortName}'"
      Run.newList items

/-- The next value of a walk, and the walk behind it. -/
def Walk.nextIn (p : Powers) : (fuel : Nat) → Walk → Run (Option (Value × Walk))
  | 0, _ => Run.tooDeep
  | fuel + 1, w => do
      let next := Walk.nextIn p fuel
      match w with
      | .start v => next (← v.walk)
      | .values [] => return none
      | .values (v :: vs) => return some (v, .values vs)
      | .count _ _ 0 => return none
      | .count n step (left + 1) => return some (.int n, .count (n + step) step left)
      | .list place i => return (← Run.itemsAt place)[i]?.map fun v => (v, .list place (i + 1))
      | .listBack _ 0 => return none
      | .listBack place (i + 1) => return (← Run.itemsAt place)[i]?.map fun v => (v, .listBack place i)
      | .record part place i size =>
          let fields ← Run.fieldsAt place
          if fields.size ≠ size then Run.fail .change "dictionary changed size during iteration"
          return fields[i]?.map fun f =>
            let v := match part with
              | .keys => f.1
              | .values => f.2
              | .items => .tuple [f.1, f.2]
            (v, .record part place (i + 1) size)
      | .object place => return (← p.next place).map fun v => (v, .object place)
      | .mappedStart args v =>
          if ← v.truthy then next (.mapped (← mapperOf args) (.start v)) else return none
      | .mapped f source =>
          match ← next source with
          | none => return none
          | some (v, source) => return some (← f.apply p v, .mapped f source)
      | .pickedStart byMember negated args v =>
          if ← v.truthy then next (.picked (← pickerOf byMember negated args) (.start v)) else return none
      | .picked q source =>
          let (found, source) ← Run.iterate Run.maxRounds (none, source) fun (_, source) => do
            match ← next source with
            | none => return ((none, source), false)
            | some (v, source) =>
                if ← q.takes p v then return ((some v, source), false)
                return ((none, source), true)
          return found.map fun v => (v, .picked q source)
      | .batched length fill waiting source =>
          let (waiting, found, source) ← Run.iterate Run.maxRounds (waiting, none, source)
            fun (waiting, _, source) => do
              match ← next source with
              | none => return ((waiting, none, .values []), false)
              | some (v, source) =>
                  if ← (Value.int waiting.length).same length then
                    return (([v], some waiting, source), false)
                  return ((waiting ++ [v], none, source), true)
          match found, waiting with
          | some items, waiting => return some (← Run.newList items, .batched length fill waiting source)
          | none, [] => return none
          | none, items => return some (← lastBatch length fill items, .values [])
      | .slicedStart v pieces fill =>
          let (items, _) ← takeFrom next Run.maxRounds (.start v)
          next (.values (← slices items pieces fill))
      | .distinctStart path byCase v => next (.distinct (← pathOf path) byCase [] (.start v))
      | .distinct path byCase seen source =>
          let (found, seen, source) ← Run.iterate Run.maxRounds (none, seen, source)
            fun (_, seen, source) => do
              match ← next source with
              | none => return ((none, seen, source), false)
              | some (v, source) =>
                  let key ← Form.reach p path .null v
                  let key := if byCase then key else key.foldCase
                  key.checkKey
                  if ← seen.anyM key.matches then return ((none, seen, source), true)
                  return ((some v, key :: seen, source), false)
          return found.map fun v => (v, .distinct path byCase seen source)
      | .pairsStart v =>
          match v with
          | .missing _ => return none
          | .record place => next (← (Value.view .items place).walk)
          | _ => Run.misfit "Can only get item pairs from a mapping."
      | .testedStart site target entry test v =>
          let frame ← newFrame (some site.frame)
          let site := { site with frame := frame }
          enter site entry
          next (.tested site target test (.start v))
      | .tested site target test source =>
          let (found, source) ← Run.iterate Run.maxRounds (none, source) fun (_, source) => do
            match ← next source with
            | none => return ((none, source), false)
            | some (v, source) =>
                assignIn next maxDepth site.frame target v
                if ← (← p.value site test).truthy then
                  return ((some (← heldBy maxDepth site.frame target), source), false)
                return ((none, source), true)
          return found.map fun v => (v, .tested site target test source)

/-- The next value of a walk, and the walk behind it. -/
def Walk.next (p : Powers) (w : Walk) : Run (Option (Value × Walk)) := Walk.nextIn p maxDepth w

/-- Takes the next value of the walk at a place.  A loop gives each value with
itself. -/
def nextAt (p : Powers) (place : Nat) : Run (Option Value) := do
  match ← Run.cellAt place with
  | .walk w sort =>
      match ← w.next p with
      | none =>
          Run.setCell place (.walk (.values []) sort)
          return none
      | some (v, w) =>
          Run.setCell place (.walk w sort)
          return some v
  | .loop l =>
      let v ← match l.next with
        | some v => pure (some v)
        | none => p.next l.walk
      match v, ← Run.cellAt place with
      | some v, .loop l =>
          Run.setCell place (.loop { l with
            next := none, index := l.index + 1, previous := l.current, current := some v })
          return some (.tuple [v, .object place])
      | _, _ => return none
  | _ => return none

/-! ## Whole walks -/

def Walk.all (p : Powers) (w : Walk) : Run (List Value) := do
  let (done, _) ← Run.iterate Run.maxRounds (#[], w) fun (done, w) => do
    match ← w.next p with
    | none => return ((done, w), false)
    | some (v, w) => return ((done.push v, w), true)
  return done.toList

/-- The values in a value, one after the other. -/
def Value.items (p : Powers) (v : Value) : Run (List Value) := do
  match v with
  | .tuple xs => return xs
  | .list place => return (← Run.itemsAt place).toList
  | .range start stop step =>
      Run.needRoom (rangeLength start stop step)
      return rangeItems start stop step
  | v => (← v.walk).all p

def newWalk (sort : String) (w : Walk) : Run Value := Value.object <$> Run.new (.walk w sort)

def waiting (w : Walk) : Run Value := newWalk "generator" w

def assign (p : Powers) (frame : Nat) (target : Target) (v : Value) : Run Unit :=
  assignIn (Walk.next p) maxDepth frame target v

def Value.length (p : Powers) (v : Value) : Run Nat := do
  match v with
  | .missing _ => return 0
  | .text t | .markup t => return t.length
  | .bytes bs => return bs.length
  | .tuple xs => return xs.length
  | .group .. => return 2
  | .list place => return (← Run.itemsAt place).size
  | .record place | .view _ place => return (← Run.fieldsAt place).size
  | .range start stop step => return rangeLength start stop step
  | .object place =>
      match ← Run.cellAt place with
      | .loop l => loopLength p place l
      | _ => Run.misfit s!"object of type '{← v.sortName}' has no len()"
  | v => Run.misfit s!"object of type '{← v.sortName}' has no len()"

/-! ## Members of collections -/

/-- Whether a value is in another one. -/
def Value.holds (p : Powers) (whole v : Value) : Run Bool := do
  match whole with
  | .missing _ => return false
  | .text t | .markup t =>
      match v.text? with
      | some s => return Text.contains t s
      | none => Run.misfit s!"'in <string>' requires string as left operand, not {← v.sortName}"
  | .bytes bs =>
      match v with
      | .bytes cs => return Text.contains (bs.map fun b => Char.ofNat b.toNat) (cs.map fun b => Char.ofNat b.toNat)
      | .int n => return bs.any fun b => (b.toNat : Int) = n
      | v => Run.misfit s!"a bytes-like object is required, not '{← v.sortName}'"
  | .record place | .view .keys place =>
      v.checkKey
      return (← keyIndex? (← Run.fieldsAt place) v).isSome
  | .range start stop step =>
      match v.quantity? with
      | some (.whole n) =>
          let k := n - start
          return k % step == 0 && 0 ≤ k / step && (k / step).toNat < rangeLength start stop step
      | _ => (rangeItems start stop step).anyM v.matches
  | .tuple _ | .group .. | .list _ | .view _ _ => (← whole.items p).anyM v.matches
  | .object place =>
      match ← Run.cellAt place with
      | .walk .. =>
          Run.iterate Run.maxRounds false fun _ => do
            match ← p.next place with
            | none => return (false, false)
            | some w => if ← v.matches w then return (true, false) else return (false, true)
      | _ => Run.misfit s!"argument of type '{← whole.sortName}' is not iterable"
  | whole => Run.misfit s!"argument of type '{← whole.sortName}' is not iterable"

def Value.compares (p : Powers) (c : Comparator) (v w : Value) : Run Bool := do
  match c with
  | .eq => v.same w
  | .ne => return !(← v.same w)
  | .isIn => w.holds p v
  | .notIn => return !(← w.holds p v)
  | c => v.order c w

end Redline.Form
