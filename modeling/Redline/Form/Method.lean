import Redline.Form.ListMethod
import Redline.Form.NumberMethod
import Redline.Form.RecordMethod
import Redline.Form.TextMethod

/-!
# Methods

Calling a method of a value, by the sort of the value.  A few methods belong to
values of every sort: they are what a form can also write with a sign.
-/

namespace Redline.Form

/-! ## Methods behind signs -/

/-- The operations with the names of their methods. -/
def operatorMethods : List (String × Operator) :=
  [("__add__", .add), ("__sub__", .sub), ("__mul__", .mul), ("__truediv__", .div), ("__floordiv__", .floorDiv),
   ("__mod__", .mod), ("__pow__", .pow)]

/-- The comparisons with the names of their methods. -/
def comparatorMethods : List (String × Comparator) :=
  [("__eq__", .eq), ("__ne__", .ne), ("__lt__", .lt), ("__le__", .le), ("__gt__", .gt), ("__ge__", .ge)]

/-- The values that a method behind a sign is given. -/
def signArguments (count : Nat) (args : Args) : Run (List Value) := do
  let n := args.placed.length
  if n ≠ count then Run.misfit s!"expected {argumentCount count}, got {n}"
  return args.placed

/-- A walk back through a value, if it has an order. -/
def Value.walkBack (v : Value) : Run (Option Value) := do
  match v with
  | .text t | .markup t => some <$> newWalk "reversed" (.values (t.reverse.map fun c => .text [c]))
  | .bytes bs => some <$> newWalk "reversed" (.values (bs.reverse.map fun b => .int b.toNat))
  | .tuple xs => some <$> newWalk "reversed" (.values xs.reverse)
  | .group key items => some <$> newWalk "reversed" (.values [items, key])
  | .list place => some <$> newWalk "list_reverseiterator" (.listBack place (← Run.itemsAt place).size)
  | .record place =>
      let keys := (← viewItems .keys place).reverse
      some <$> newWalk "dict_reversekeyiterator" (.values keys)
  | .view part place =>
      let sort := match part with
        | .keys => "dict_reversekeyiterator"
        | .values => "dict_reversevalueiterator"
        | .items => "dict_reverseitemiterator"
      some <$> newWalk sort (.values (← viewItems part place).reverse)
  | .range start stop step =>
      let n := rangeLength start stop step
      some <$> newWalk "range_iterator" (.count (start + step * ((n : Int) - 1)) (-step) n)
  | _ => return none

def walkSort : Value → String
  | .text t | .markup t => if t.all (·.toNat < 128) then "str_ascii_iterator" else "str_iterator"
  | .bytes _ => "bytes_iterator"
  | .tuple _ | .group .. => "tuple_iterator"
  | .list _ => "list_iterator"
  | .record _ | .view .keys _ => "dict_keyiterator"
  | .view .values _ => "dict_valueiterator"
  | .view .items _ => "dict_itemiterator"
  | .range .. => "range_iterator"
  | _ => "generator"

def Value.iterator (v : Value) : Run Value := do
  match v with
  | .object _ => return v
  | v => newWalk (walkSort v) (← v.walk)

/-- A method that a form can also write with a sign. -/
def signMethod (p : Powers) (v : Value) (name : String) (args : Args) : Run (Option Value) := do
  match operatorMethods.lookup name, comparatorMethods.lookup name with
  | some op, _ =>
      let values ← signArguments 1 args
      some <$> v.operate p op (values.headD .null)
  | none, some c =>
      let values ← signArguments 1 args
      return some (.bool (← v.compares p c (values.headD .null)))
  | none, none =>
      match name with
      | "__str__" =>
          let _ ← signArguments 0 args
          return some (.text (← v.display p))
      | "__repr__" =>
          let _ ← signArguments 0 args
          return some (.text (← v.shown p))
      | "__format__" => return some (.text (← v.formatted p (← mustBeText (← args.one "object.__format__"))))
      | "__len__" =>
          let _ ← signArguments 0 args
          return some (.int (← v.length p))
      | "__contains__" =>
          let values ← signArguments 1 args
          return some (.bool (← v.holds p (values.headD .null)))
      | "__getitem__" =>
          let values ← signArguments 1 args
          some <$> v.item p (values.headD .null)
      | "__iter__" =>
          let _ ← signArguments 0 args
          some <$> v.iterator
      | "__reversed__" =>
          let _ ← signArguments 0 args
          v.walkBack
      | "__neg__" =>
          let _ ← signArguments 0 args
          some <$> v.signed true
      | "__pos__" =>
          let _ ← signArguments 0 args
          some <$> v.signed false
      | "__abs__" =>
          let _ ← signArguments 0 args
          return v.quantity?.map fun q => .ofQuantity q.abs
      | "__int__" | "__index__" =>
          let _ ← signArguments 0 args
          return some (.int (← v.toInteger))
      | "__float__" =>
          let _ ← signArguments 0 args
          return some (.float (← v.toFraction))
      | "__bool__" =>
          let _ ← signArguments 0 args
          return some (.bool (← v.truthy))
      | "__hash__" =>
          let _ ← signArguments 0 args
          v.checkKey
          return v.integer?.map Value.int
      | _ => return none

def changeMethod (p : Powers) (v : Value) (name : String) (args : Args) : Run (Option Value) := do
  match v, name with
  | .list place, "__setitem__" =>
      let values ← signArguments 2 args
      setItem place (values[0]?.getD .null) (values[1]?.getD .null)
      return some .null
  | .list place, "__delitem__" =>
      let values ← signArguments 1 args
      dropItem place (values[0]?.getD .null)
      return some .null
  | .record place, "__setitem__" =>
      let values ← signArguments 2 args
      putField place (values[0]?.getD .null) (values[1]?.getD .null)
      return some .null
  | .record place, "__delitem__" =>
      let values ← signArguments 1 args
      let _ ← popAt p place (values[0]?.getD .null) none
      return some .null
  | .record place, "__or__" =>
      let values ← signArguments 1 args
      match values with
      | [.record other] =>
          let copy ← Run.new (.record (← Run.fieldsAt place))
          updateAt p copy ⟨[.record other], []⟩
          return some (.record copy)
      | _ => return some (.sort "NotImplementedType")
  | _, _ => return none

/-! ## Methods of objects -/

/-- Checks that a method of an object is given nothing. -/
def noParameters (full : String) (args : Args) : Run Unit := do
  let _ ← Signature.values ⟨full, ["self"], [], false, false⟩ args

def objectMethod (p : Powers) (place : Nat) (name : String) (args : Args) : Run (Option Value) := do
  match ← Run.cellAt place, name with
  | .cycler items position, "next" | .cycler items position, "__next__" =>
      noParameters "Cycler.next" args
      Run.setCell place (.cycler items ((position + 1) % max items.length 1))
      return items[position]?
  | .cycler items _, "reset" =>
      noParameters "Cycler.reset" args
      Run.setCell place (.cycler items 0)
      return some .null
  | .loop l, "cycle" =>
      let values ← Signature.bind ⟨"LoopContext.cycle", ["self"], [], true, false⟩ args
      match values.more with
      | [] => Run.misfit "no items for cycling given"
      | vs => return vs[(l.index % vs.length).toNat]?
  | .loop l, "changed" =>
      let values ← Signature.bind ⟨"LoopContext.changed", ["self"], [], true, false⟩ args
      let same ← match l.changed with
        | some before => (Value.tuple before).same (.tuple values.more)
        | none => pure false
      unless same do
        Run.setCell place (.loop { l with changed := some values.more })
      return some (.bool !same)
  | .loop l, "__len__" =>
      noParameters "LoopContext.__len__" args
      return some (.int (← loopLength p place l))
  | .loop _, "__iter__" =>
      noParameters "LoopContext.__iter__" args
      return some (.object place)
  | .loop _, "__next__" =>
      noParameters "LoopContext.__next__" args
      match ← p.next place with
      | some v => return some v
      | none => Run.fail .ending ""
  | .walk .., "__next__" =>
      let _ ← signArguments 0 args
      match ← p.next place with
      | some v => return some v
      | none => Run.fail .ending ""
  | .walk .., "__iter__" =>
      let _ ← signArguments 0 args
      return some (.object place)
  | .walk .., "close" =>
      args.nothing "generator.close"
      Run.setCell place (.walk (.values []) "generator")
      return some .null
  | .walk .., "send" =>
      let _ ← args.one "generator.send"
      match ← p.next place with
      | some v => return some v
      | none => Run.fail .ending ""
  | _, "__call__" => some <$> p.call (.object place) args
  | _, _ => return none

/-! ## All methods -/

/-- A method of a value that is no sort. -/
def valueMethod (p : Powers) (v : Value) (name : String) (args : Args) : Run (Option Value) := do
  match v with
  | .text t => textMethod p t name args
  | .markup t => markupMethod p t name args
  | .bytes bs => if name = "decode" then some <$> decoded bs args else bytesMethod bs name args
  | .tuple xs => rowMethod p xs name args
  | .group key items => rowMethod p [key, items] name args
  | .list place => listMethod p place name args
  | .record place => recordMethod p place name args
  | .bool b => integerMethod (if b then 1 else 0) name args
  | .int n => integerMethod n name args
  | .float x => fractionMethod x name args
  | .range start stop step => rangeMethod p start stop step name args
  | .view _ _ =>
      if name = "isdisjoint" then return some (.bool (← disjoint p v (← args.one "dict_keys.isdisjoint")))
      return none
  | .object place => objectMethod p place name args
  | .method .. | .function _ => if name = "__call__" then some <$> p.call v args else return none
  | _ => return none

/-- Calls a method of a value that is no sort, or of a sort that is called like a
value. -/
def callOwnMethod (p : Powers) (v : Value) (name : String) (args : Args) : Run Value := do
  match ← valueMethod p v name args with
  | some w => return w
  | none =>
      match ← changeMethod p v name args with
      | some w => return w
      | none =>
          match ← signMethod p v name args with
          | some w => return w
          | none => Run.misfit s!"'{v.methodSort}' object is not callable"

/-- Calls a method of a sort.  The first value that is given is the one whose method it
is. -/
def callSortMethod (p : Powers) (sort name : String) (args : Args) : Run Value := do
  match args.placed with
  | [] => Run.misfit s!"unbound method {sort}.{name}() needs an argument"
  | v :: placed =>
      let found ← v.fullSort
      if found = sort || (sortsAbove found).contains sort then
        callOwnMethod p v name ⟨placed, args.named⟩
      else
        let given ← v.sortName
        Run.misfit s!"descriptor '{name}' for '{sort}' objects doesn't apply to a '{given}' object"

def callMethod (p : Powers) (v : Value) (name : String) (args : Args) : Run Value := do
  match v, name with
  | .sort s, "mro" =>
      args.nothing "type.mro"
      Run.newList ((s :: sortsAbove s).map .sort)
  | .sort "dict", "fromkeys" => recordFrom p (← args.between "dict.fromkeys" name 1 2)
  | .sort "str", "maketrans" => callOwnMethod p (.text []) name args
  | .sort s, name =>
      if (sortMethods s).contains name then callSortMethod p s name args else callOwnMethod p v name args
  | v, name => callOwnMethod p v name args

end Redline.Form
