import Redline.Form.Filter.Text

/-!
# Filters on lists

Filters that work on the values in a value: they pick, order, group, count and join
them.  Some of them give a walk that has not started yet.
-/

namespace Redline.Form

/-! ## Ends -/

/-- A value that is not there, for a reason. -/
def absent (reason : String) : Value := .missing reason

def firstFilter : Filter := fun p v args => do
  let _ ← Signature.values ⟨"sync_do_first", ["environment", "seq"], [], false, false⟩ args
  match ← (← v.walk).next p with
  | some (w, _) => return w
  | none => return absent "No first item, sequence was empty."

/-- The values in a value, from the last to the first, if it has an order. -/
def Value.backwards (p : Powers) (v : Value) : Run (List Value) := do
  match v with
  | .missing _ => return []
  | v =>
      match ← v.walkBack with
      | some w => w.items p
      | none => Run.misfit s!"'{← v.sortName}' object is not reversible"

def lastFilter : Filter := fun p v args => do
  let _ ← Signature.values ⟨"do_last", ["environment", "seq"], [], false, false⟩ args
  match ← v.backwards p with
  | w :: _ => return w
  | [] => return absent "No last item, sequence was empty."

def randomFilter : Filter := fun p v args => do
  let _ ← Signature.values ⟨"do_random", ["context", "seq"], [], false, false⟩ args
  if (← v.length p) = 0 then return absent "No random item, sequence was empty."
  v.item p (.int 0)

def reverseFilter : Filter := fun p v args => do
  let _ ← Signature.values ⟨"do_reverse", ["value"], [], false, false⟩ args
  match v with
  | .text t => return .text t.reverse
  | .markup t => return .markup t.reverse
  | .missing _ => newWalk "reversed" (.values [])
  | v =>
      match ← v.walkBack with
      | some w => return w
      | none =>
          Run.orElse (do Run.newList (← v.items p).reverse) [.sort]
            (Run.fail .argument "argument must be iterable")

def listFilter : Filter := fun p v args => do
  let _ ← Signature.values ⟨"sync_do_list", ["value"], [], false, false⟩ args
  Run.newList (← v.items p)

def lengthFilter : Filter := fun p v args => do
  let one := { args with placed := v :: args.placed }
  let _ ← one.one "len"
  return .int (← v.length p)

/-! ## Order -/

/-- The ways to the members that values are sorted by. -/
def sortPaths (v : Value) : Run (List (List Value)) := do
  match v.text? with
  | some t => (Text.splitOn t [',']).mapM fun part => pathOf (.text part)
  | none => return [← pathOf v]

/-- A key without case, if case does not count. -/
def keyOf (byCase : Bool) (v : Value) : Value := if byCase then v else v.foldCase

def sortFilter : Filter := fun p v args => do
  let values ← Signature.values
    ⟨"do_sort", ["environment", "value"],
      [optional "reverse" (.bool false), optional "case_sensitive" (.bool false), optional "attribute" .null],
      false, false⟩ args
  match values with
  | [against, byCase, path] =>
      let paths ← sortPaths path
      let byCase ← byCase.truthy
      let items ← v.items p
      let against ← against.index
      let keyed ← items.mapM fun x => do
        let keys ← paths.mapM fun path => do return keyOf byCase (← reach p path .null x)
        return (⟨.tuple keys, x⟩ : Keyed)
      Run.newList (← sortBy (against ≠ 0) keyed)
  | _ => return v

def dictsortFilter : Filter := fun p v args => do
  let values ← Signature.values
    ⟨"do_dictsort", ["value"],
      [optional "case_sensitive" (.bool false), optional "by" (.ofString "key"), optional "reverse" (.bool false)],
      false, false⟩ args
  match values with
  | [byCase, by_, against] =>
      let byKey ← by_.same (.ofString "key")
      unless byKey || (← by_.same (.ofString "value")) do
        Run.fail .argument "You can only sort by either \"key\" or \"value\""
      let byCase ← byCase.truthy
      let pairs ← (← callMember p v "items" []).items p
      let against ← against.index
      let keyed ← pairs.mapM fun pair => do
        let key ← pair.item p (.int (if byKey then 0 else 1))
        return (⟨keyOf byCase key, pair⟩ : Keyed)
      Run.newList (← sortBy (against ≠ 0) keyed)
  | _ => return v

/-- The value whose key stands on one side of all others, the first of several. -/
def extreme (c : Comparator) : Keyed → List Keyed → Run Value
  | best, [] => return best.value
  | best, x :: xs => do
      if ← x.key.order c best.key then extreme c x xs else extreme c best xs

/-- The least or the greatest of the values in it. -/
def extremeFilter (name : String) (c : Comparator) : Filter := fun p v args => do
  let values ← Signature.values
    ⟨name, ["environment", "value"], [optional "case_sensitive" (.bool false), optional "attribute" .null],
      false, false⟩ args
  match values with
  | [byCase, path] =>
      let items ← v.items p
      let byCase ← byCase.truthy
      if items.isEmpty then return absent "No aggregated item, sequence was empty."
      let path ← pathOf path
      let keyed ← items.mapM fun x => do
        return (⟨keyOf byCase (← reach p path .null x), x⟩ : Keyed)
      match keyed with
      | x :: xs => extreme c x xs
      | [] => return v
  | _ => return v

/-- Values in groups of those that follow one another with the same key. -/
def groupUp (xs : List Keyed) : Run (List (List Keyed)) :=
  xs.foldlM (fun groups x => do
    match groups.getLast? with
    | some (y :: ys) =>
        if ← x.key.matches y.key then return groups.dropLast ++ [(y :: ys) ++ [x]]
        return groups ++ [[x]]
    | _ => return groups ++ [[x]]) []

def groupbyFilter : Filter := fun p v args => do
  let values ← Signature.values
    ⟨"sync_do_groupby", ["environment", "value"],
      [required "attribute", optional "default" .null, optional "case_sensitive" (.bool false)], false, false⟩ args
  match values with
  | [path, otherwise, byCase] =>
      let path ← pathOf path
      let byCase ← byCase.truthy
      let keyed ← (← v.items p).mapM fun x => do
        let key := keyOf byCase (← reach p path otherwise x)
        return (⟨key, .tuple [key, x]⟩ : Keyed)
      let sorted := (← sortBy false keyed).filterMap fun pair => match pair with
        | .tuple [key, x] => some (⟨key, x⟩ : Keyed)
        | _ => none
      let groups ← (← groupUp sorted).mapM fun group => do
        let items ← Run.newList (group.map (·.value))
        let first := group.headD default
        let key ← if byCase then pure first.key else reach p path otherwise first.value
        return Value.group key items
      Run.newList groups
  | _ => return v

/-! ## Joining -/

def sumFilter : Filter := fun p v args => do
  let values ← Signature.values
    ⟨"sync_do_sum", ["environment", "iterable"], [optional "attribute" .null, optional "start" (.int 0)],
      false, false⟩ args
  match values with
  | [path, start] =>
      let path ← pathOf path
      let walk ← v.walk
      if start.text?.isSome then Run.misfit "sum() can't sum strings [use ''.join(seq) instead]"
      if let .bytes _ := start then Run.misfit "sum() can't sum bytes [use b''.join(seq) instead]"
      (← walk.all p).foldlM (fun total x => do total.operate p .add (← reach p path .null x)) start
  | _ => return v

def joinFilter : Filter := fun p v args => do
  let values ← Signature.values
    ⟨"sync_do_join", ["eval_ctx", "value"], [optional "d" (.text []), optional "attribute" .null], false, false⟩ args
  match values with
  | [between, path] =>
      let path ← pathOf path
      let items ← (← v.items p).mapM fun x => reach p path .null x
      if !(← get).escaping then
        let texts ← items.mapM fun x => x.display p
        return .text (List.intercalate (← between.display p) texts)
      if between.isMarkup || items.any Value.isMarkup then
        let texts ← items.mapM fun x => x.escaped p
        return .markup (List.intercalate (← between.escaped p) texts)
      let texts ← items.mapM fun x => x.display p
      return .text (List.intercalate (← between.display p) texts)
  | _ => return v

/-! ## Walks that wait -/

def batchFilter : Filter := fun _ v args => do
  let values ← Signature.values
    ⟨"do_batch", ["value"], [required "linecount", optional "fill_with" .null], false, false⟩ args
  waiting (.batched (values[0]?.getD .null) (values[1]?.getD .null) [] (.start v))

def sliceFilter : Filter := fun _ v args => do
  let values ← Signature.values
    ⟨"sync_do_slice", ["value"], [required "slices", optional "fill_with" .null], false, false⟩ args
  waiting (.slicedStart v (values[0]?.getD .null) (values[1]?.getD .null))

def uniqueFilter : Filter := fun _ v args => do
  let values ← Signature.values
    ⟨"do_unique", ["environment", "value"],
      [optional "case_sensitive" (.bool false), optional "attribute" .null], false, false⟩ args
  let byCase ← (values[0]?.getD Value.null).truthy
  waiting (.distinctStart (values[1]?.getD .null) byCase v)

def itemsFilter : Filter := fun _ v args => do
  let _ ← Signature.values ⟨"do_items", ["value"], [], false, false⟩ args
  waiting (.pairsStart v)

/-- Each made into another value. -/
def mapFilter : Filter := fun _ v args => do
  let b ← Signature.bind ⟨"sync_do_map", ["context", "value"], [], true, true⟩ args
  waiting (.mappedStart ⟨b.more, b.moreNamed⟩ v)

/-- Those that pass a test, or those that do not. -/
def pickFilter (name : String) (byMember negated : Bool) : Filter := fun _ v args => do
  let b ← Signature.bind ⟨name, ["context", "value"], [], true, true⟩ args
  waiting (.pickedStart byMember negated ⟨b.more, b.moreNamed⟩ v)

/-! ## Single values -/

/-- Another value if it is not there. -/
def defaultFilter : Filter := fun _ v args => do
  let values ← Signature.values
    ⟨"do_default", ["value"], [optional "default_value" (.text []), optional "boolean" (.bool false)], false, false⟩ args
  match values with
  | [otherwise, alsoEmpty] =>
      if v.isMissing then return otherwise
      if ← alsoEmpty.truthy then
        if ← v.truthy then return v else return otherwise
      return v
  | _ => return v

def attrFilter : Filter := fun p v args => do
  let values ← Signature.values ⟨"do_attr", ["environment", "obj"], [required "name"], false, false⟩ args
  let name ← (values.headD .null).displayed p
  match ← v.member? p name with
  | some w => return w
  | none => noMember v name

end Redline.Form
