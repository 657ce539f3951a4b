import Redline.Form.Filter

/-!
# Tests

A test says whether something holds for a value.  The tests stand here by name.
-/

namespace Redline.Form

/-- A test: what it says about a value and about what a call gives. -/
abbrev Test := Powers → Value → Args → Run Bool

def plainTest (name before : String) (f : Powers → Value → Run Bool) : Test := fun p v args => do
  let _ ← Signature.values ⟨name, [before], [], false, false⟩ args
  f p v

def binaryTest (name param : String) (f : Powers → Value → Value → Run Bool) : Test := fun p v args => do
  let values ← Signature.values ⟨name, ["value"], [required param], false, false⟩ args
  f p v (values.headD .null)

def comparingTest (name : String) (c : Comparator) : Test := fun p v args => do
  let values ← Args.between ("_operator." ++ name) name 2 2 ⟨v :: args.placed, args.named⟩
  v.compares p c (values[1]?.getD .null)

/-- What is left when a value is divided is the same as a number. -/
def leaves (p : Powers) (v divisor : Value) (rest : Int) : Run Bool := do
  (← v.operate p .mod divisor).same (.int rest)

def Value.callable : Value → Run Bool
  | .missing _ | .method .. | .function _ | .sort _ => return true
  | .object place => do
      match ← Run.cellAt place with
      | .joiner .. | .loop _ | .routine .. | .block .. => return true
      | _ => return false
  | _ => return false

/-- Whether a value is a row of others, with a length and items. -/
def Value.isSequence : Value → Run Bool
  | .missing _ | .text _ | .markup _ | .bytes _ | .tuple _ | .group .. | .range .. | .list _ | .record _ => return true
  | _ => return false

def Value.isIterable (v : Value) : Run Bool := Run.orElse (do let _ ← v.walk; return true) [.sort] (return false)

/-- Whether two values are one and the same.  Small integers and texts of one
character are, if they are alike. -/
def Value.isOneWith : Value → Value → Bool
  | .int a, .int b => a = b && -5 ≤ a && a ≤ 256
  | .text s, .text t => s = t && s.length ≤ 1 && s.all (·.toNat < 256)
  | .tuple [], .tuple [] => true
  | v, w => v.identical w

/-- Whether a value is an integer and no truth value. -/
def Value.isInteger : Value → Bool
  | .int _ => true
  | _ => false

def Value.isFraction : Value → Bool
  | .float _ => true
  | _ => false

def Value.isNumber : Value → Bool
  | .complex .. => true
  | v => v.quantity?.isSome

def Value.isRecord : Value → Bool
  | .record _ => true
  | _ => false

def Value.bool? : Value → Option Bool
  | .bool b => some b
  | _ => none

def Value.isNull : Value → Bool
  | .null => true
  | _ => false

def testNames : List String :=
  ["odd", "even", "divisibleby", "defined", "undefined", "filter", "test", "none", "boolean", "false", "true",
   "integer", "float", "lower", "upper", "string", "mapping", "number", "sequence", "iterable", "callable", "sameas",
   "escaped", "in", "==", "eq", "equalto", "!=", "ne", ">", "gt", "greaterthan", "ge", ">=", "<", "lt", "lessthan",
   "<=", "le"]

def isNameIn (names : List String) (v : Value) : Run Bool := do
  v.checkKey
  return (v.text?.map fun t => names.contains (String.ofList t)).getD false

def tests : List (String × Test) :=
  let holds := fun (name : String) (f : Value → Bool) => plainTest name "value" fun _ v => return f v
  [("odd", plainTest "test_odd" "value" fun p v => leaves p v (.int 2) 1),
   ("even", plainTest "test_even" "value" fun p v => leaves p v (.int 2) 0),
   ("divisibleby", binaryTest "test_divisibleby" "num" fun p v w => leaves p v w 0),
   ("defined", holds "test_defined" fun v => !v.isMissing),
   ("undefined", holds "test_undefined" Value.isMissing),
   ("filter", fun _ v args => do
      let _ ← Signature.values ⟨"test_filter", ["env", "value"], [], false, false⟩ args
      isNameIn (filters.map (·.1)) v),
   ("test", fun _ v args => do
      let _ ← Signature.values ⟨"test_test", ["env", "value"], [], false, false⟩ args
      isNameIn testNames v),
   ("none", holds "test_none" Value.isNull),
   ("boolean", holds "test_boolean" fun v => v.bool?.isSome),
   ("false", holds "test_false" fun v => v.bool? = some false),
   ("true", holds "test_true" fun v => v.bool? = some true),
   ("integer", holds "test_integer" Value.isInteger),
   ("float", holds "test_float" Value.isFraction),
   ("lower", plainTest "test_lower" "value" fun p v => do return Text.isLower (← v.display p)),
   ("upper", plainTest "test_upper" "value" fun p v => do return Text.isUpper (← v.display p)),
   ("string", holds "test_string" fun v => v.text?.isSome),
   ("mapping", holds "test_mapping" Value.isRecord),
   ("number", holds "test_number" Value.isNumber),
   ("sequence", plainTest "test_sequence" "value" fun _ v => v.isSequence),
   ("iterable", plainTest "test_iterable" "value" fun _ v => v.isIterable),
   ("callable", fun _ v args => do
      let _ ← Args.one "callable" ⟨v :: args.placed, args.named⟩
      v.callable),
   ("sameas", binaryTest "test_sameas" "other" fun _ v w => return v.isOneWith w),
   ("escaped", holds "test_escaped" Value.isMarkup),
   ("in", binaryTest "test_in" "seq" fun p v w => w.holds p v)]
  ++ ["==", "eq", "equalto"].map (·, comparingTest "eq" .eq)
  ++ ["!=", "ne"].map (·, comparingTest "ne" .ne)
  ++ [">", "gt", "greaterthan"].map (·, comparingTest "gt" .gt)
  ++ ["ge", ">="].map (·, comparingTest "ge" .ge)
  ++ ["<", "lt", "lessthan"].map (·, comparingTest "lt" .lt)
  ++ ["<=", "le"].map (·, comparingTest "le" .le)

def test? (name : String) : Option Test := tests.lookup name

def testByValue (p : Powers) (name v : Value) (args : Args) : Run Value := do
  name.checkKey
  match name.text?.bind fun t => test? (String.ofList t) with
  | some f => return .bool (← f p v args)
  | none => unknownByValue p "test" name

end Redline.Form
