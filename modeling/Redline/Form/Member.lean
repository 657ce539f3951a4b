import Redline.Form.Compare

/-!
# Members of values

A value has members: values that belong to it, and methods that can be called.
Which ones it has depends on its sort.  A space of names has the members that it
was given, and a loop tells where it is.
-/

namespace Redline.Form

/-! ## Methods by sort -/

def commonMethods : List String :=
  ["__str__", "__repr__", "__eq__", "__ne__", "__lt__", "__le__", "__gt__", "__ge__", "__hash__", "__format__"]

def textMethods : List String :=
  ["capitalize", "casefold", "center", "count", "encode", "endswith", "expandtabs", "find", "format", "format_map",
   "index", "isalnum", "isalpha", "isascii", "isdecimal", "isdigit", "isidentifier", "islower", "isnumeric",
   "isprintable", "isspace", "istitle", "isupper", "join", "ljust", "lower", "lstrip", "maketrans", "partition",
   "removeprefix", "removesuffix", "replace", "rfind", "rindex", "rjust", "rpartition", "rsplit", "rstrip", "split",
   "splitlines", "startswith", "strip", "swapcase", "title", "translate", "upper", "zfill", "__len__",
   "__contains__", "__getitem__", "__add__", "__mul__", "__mod__", "__iter__"]

/-- The methods of a text that is escaped, beside those of a text. -/
def markupMethods : List String := ["__html__", "unescape", "striptags", "escape", "__html_format__"]

def bytesMethods : List String := ["decode", "hex", "__len__", "__contains__", "__getitem__", "__iter__"]

def rowMethods : List String :=
  ["count", "index", "__len__", "__contains__", "__getitem__", "__add__", "__mul__", "__iter__"]

def listMethods : List String :=
  ["append", "clear", "copy", "count", "extend", "index", "insert", "pop", "remove", "reverse", "sort", "__len__",
   "__contains__", "__getitem__", "__setitem__", "__delitem__", "__add__", "__mul__", "__iter__", "__reversed__"]

def recordMethods : List String :=
  ["clear", "copy", "fromkeys", "get", "items", "keys", "pop", "popitem", "setdefault", "update", "values",
   "__len__", "__contains__", "__getitem__", "__setitem__", "__delitem__", "__iter__", "__or__"]

def integerMethods : List String :=
  ["as_integer_ratio", "bit_count", "bit_length", "conjugate", "to_bytes", "__add__", "__sub__", "__mul__",
   "__truediv__", "__floordiv__", "__mod__", "__pow__", "__neg__", "__pos__", "__abs__", "__int__", "__float__",
   "__bool__", "__index__"]

def fractionMethods : List String :=
  ["as_integer_ratio", "conjugate", "hex", "is_integer", "__add__", "__sub__", "__mul__", "__truediv__",
   "__floordiv__", "__mod__", "__pow__", "__neg__", "__pos__", "__abs__", "__int__", "__float__", "__bool__"]

/-- The sorts that a sort stands under, the nearest first. -/
def sortsAbove (sort : String) : List String :=
  if sort = "object" then []
  else if sort = "bool" then ["int", "object"]
  else if sort = "markupsafe.Markup" then ["str", "object"]
  else if sort = "jinja2.filters._GroupTuple" then ["tuple", "object"]
  else ["object"]

def sortMethods (sort : String) : List String :=
  match sort with
  | "str" => textMethods
  | "markupsafe.Markup" => textMethods ++ markupMethods
  | "bytes" => bytesMethods
  | "tuple" => rowMethods
  | "list" => listMethods
  | "dict" => recordMethods
  | "int" | "bool" => integerMethods
  | "float" => fractionMethods
  | _ => []

def Cell.methods : Cell → List String
  | .cycler .. => ["next", "reset", "__next__"]
  | .joiner .. => ["__call__"]
  | .loop _ => ["cycle", "changed", "__call__", "__len__", "__iter__", "__next__"]
  | .routine .. => ["__call__"]
  | .block .. => ["__call__"]
  | .walk _ sort =>
      if sort = "generator" then ["__iter__", "__next__", "send", "close"] else ["__iter__", "__next__"]
  | _ => []

/-- The methods of a value, beside those that every value has. -/
def Value.methods : Value → Run (List String)
  | .text _ => return textMethods
  | .markup _ => return textMethods ++ markupMethods
  | .bytes _ => return bytesMethods
  | .tuple _ | .group .. => return rowMethods
  | .list _ => return listMethods
  | .record _ => return recordMethods
  | .bool _ | .int _ => return integerMethods
  | .float _ => return fractionMethods
  | .range .. => return ["count", "index", "__len__", "__contains__", "__getitem__", "__iter__"]
  | .span .. => return ["indices"]
  | .view .values _ => return ["__len__", "__iter__"]
  | .view _ _ => return ["isdisjoint", "__len__", "__contains__", "__iter__"]
  | .object place => do return (← Run.cellAt place).methods
  | .method .. | .function _ => return ["__call__"]
  | .sort s => return "mro" :: sortMethods s
  | _ => return []

/-! ## Members of objects -/

/-- The value of the next round of a loop, which is looked at before its time. -/
def peek (p : Powers) (place : Nat) (l : LoopState) : Run (Option Value) := do
  match l.next with
  | some v => return some v
  | none =>
      let v ← p.next l.walk
      match ← Run.cellAt place with
      | .loop l => Run.setCell place (.loop { l with next := v })
      | _ => pure ()
      return v

def loopMember? (p : Powers) (place : Nat) (l : LoopState) (name : String) : Run (Option Value) := do
  match name with
  | "index0" => return some (.int l.index)
  | "index" => return some (.int (l.index + 1))
  | "revindex0" => return some (.int ((← loopLength p place l) - (l.index + 1)))
  | "revindex" => return some (.int ((← loopLength p place l) - l.index))
  | "length" => return some (.int (← loopLength p place l))
  | "first" => return some (.bool (l.index = 0))
  | "last" => return some (.bool (← peek p place l).isNone)
  | "depth" => return some (.int (l.depth + 1))
  | "depth0" => return some (.int l.depth)
  | "previtem" => return some (l.previous.getD (.missing "there is no previous item"))
  | "nextitem" => return some ((← peek p place l).getD (.missing "there is no next item"))
  | _ => return none

def routineMember? (r : Routine Step) : String → Option Value
  | "name" => some ((r.name.map Value.ofString).getD .null)
  | "arguments" => some (.tuple (r.params.map fun q => .ofString q.name))
  | "catch_kwargs" => some (.bool r.named.isSome)
  | "catch_varargs" => some (.bool r.rest.isSome)
  | "caller" => some (.bool r.caller.isSome)
  | "explicit_caller" => some (.bool (r.params.any (·.name = "caller")))
  | _ => none

/-- A member of an object that is no method. -/
def objectMember? (p : Powers) (place : Nat) (name : String) : Run (Option Value) := do
  match ← Run.cellAt place with
  | .names values => return values.lookup name
  | .loop l => loopMember? p place l name
  | .routine r .. => return routineMember? r name
  | .cycler items position =>
      return match name with
        | "items" => some (.tuple items)
        | "pos" => some (.int position)
        | "current" => items[position]?
        | _ => none
  | .joiner separator used =>
      return match name with
        | "sep" => some separator
        | "used" => some (.bool used)
        | _ => none
  | .block s _ =>
      return match name with
        | "name" => some (.ofString s)
        | "super" => some (.missing s!"there is no parent block called {String.ofList (Text.quoted s.toList)}.")
        | _ => none
  | _ => return none

/-! ## Members -/

/-- A member of a value that is no method. -/
def plainMember? (p : Powers) (v : Value) (name : String) : Run (Option Value) := do
  match v, name with
  | .object place, name => objectMember? p place name
  | .bool b, "real" | .bool b, "numerator" => return some (.int (if b then 1 else 0))
  | .int n, "real" | .int n, "numerator" => return some (.int n)
  | .bool _, "imag" | .int _, "imag" => return some (.int 0)
  | .bool _, "denominator" | .int _, "denominator" => return some (.int 1)
  | .float x, "real" => return some (.float x)
  | .float _, "imag" => return some (.float (.zero false))
  | .range start _ _, "start" => return some (.int start)
  | .range _ stop _, "stop" => return some (.int stop)
  | .range _ _ step, "step" => return some (.int step)
  | .span start _ _, "start" => return some start
  | .span _ stop _, "stop" => return some stop
  | .span _ _ step, "step" => return some step
  | .group key _, "grouper" => return some key
  | .group _ items, "list" => return some items
  | .method _ s, "__name__" | .function s, "__name__" => return some (.ofString s)
  | .method owner _, "__self__" => return some owner
  | .sort s, "__name__" | .sort s, "__qualname__" => return some (.ofString ((s.splitOn ".").getLastD s))
  | .sort s, "__module__" =>
      let home := (s.splitOn ".").dropLast
      return some (.ofString (if home.isEmpty then "builtins" else ".".intercalate home))
  | .sort s, "__mro__" => return some (.tuple ((s :: sortsAbove s).map .sort))
  | .sort s, "__bases__" => return some (.tuple (((sortsAbove s).take 1).map .sort))
  | .sort s, "__base__" => return some (((sortsAbove s).head?.map Value.sort).getD .null)
  | _, _ => return none

def Value.isNames : Value → Run Bool
  | .object place => do
      match ← Run.cellAt place with
      | .names _ => return true
      | _ => return false
  | _ => return false

/-- A member of a value.  Whoever asks for one of a value that is not there
fails. -/
def Value.member? (p : Powers) (v : Value) (name : String) : Run (Option Value) := do
  match v with
  | .missing reason =>
      if name = "__class__" then return some (.sort (← v.fullSort))
      if name.startsWith "__" then return none
      Run.fail .absence reason
  | v =>
      if name = "__class__" then return some (.sort (← v.fullSort))
      match ← plainMember? p v name with
      | some w => return some w
      | none =>
          if ← v.isNames then return none
          if (← v.methods).contains name || commonMethods.contains name then return some (.method v name)
          return none

end Redline.Form
