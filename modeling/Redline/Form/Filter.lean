import Redline.Form.Filter.List
import Redline.Form.Filter.Number
import Redline.Form.Filter.Page

/-!
# Filters

The filters by name, and how one is used.
-/

namespace Redline.Form

def filters : List (String × Filter) :=
  [("abs", absFilter), ("attr", attrFilter), ("batch", batchFilter), ("capitalize", capitalizeFilter),
   ("center", centerFilter), ("count", lengthFilter), ("d", defaultFilter), ("default", defaultFilter),
   ("dictsort", dictsortFilter), ("e", escapeFilter), ("escape", escapeFilter),
   ("filesizeformat", filesizeformatFilter), ("first", firstFilter), ("float", floatFilter),
   ("forceescape", forceescapeFilter), ("format", formatFilter), ("groupby", groupbyFilter),
   ("indent", indentFilter), ("int", intFilter), ("join", joinFilter), ("last", lastFilter),
   ("length", lengthFilter), ("list", listFilter), ("lower", lowerFilter), ("items", itemsFilter),
   ("map", mapFilter), ("min", extremeFilter "do_min" .lt), ("max", extremeFilter "do_max" .gt),
   ("pprint", pprintFilter), ("random", randomFilter), ("reject", pickFilter "sync_do_reject" false true),
   ("rejectattr", pickFilter "sync_do_rejectattr" true true), ("replace", replaceFilter),
   ("reverse", reverseFilter), ("round", roundFilter), ("safe", safeFilter),
   ("select", pickFilter "sync_do_select" false false), ("selectattr", pickFilter "sync_do_selectattr" true false),
   ("slice", sliceFilter), ("sort", sortFilter), ("string", stringFilter), ("striptags", striptagsFilter),
   ("sum", sumFilter), ("title", titleFilter), ("trim", trimFilter), ("truncate", truncateFilter),
   ("unique", uniqueFilter), ("upper", upperFilter), ("urlencode", urlencodeFilter), ("urlize", urlizeFilter),
   ("wordcount", wordcountFilter), ("wordwrap", wordwrapFilter), ("xmlattr", xmlattrFilter),
   ("tojson", tojsonFilter)]

/-- The filters that depend on what the form knows, so that they cannot be used
before it is written. -/
def lateFilters : List String := ["map", "select", "reject", "selectattr", "rejectattr", "random"]

def filter? (name : String) : Option Filter := filters.lookup name

/-- What is said about the name of a filter or test that is a value. -/
def unknownByValue {α : Type} (p : Powers) (kind : String) (name : Value) : Run α := do
  let base := s!"No {kind} named {← name.shownString p}"
  match name with
  | .missing reason =>
      Run.fail .run s!"{base}. ({reason}; did you forget to quote the callable name?)"
  | _ => Run.fail .run s!"{base}."

def filterByValue (p : Powers) (name v : Value) (args : Args) : Run Value := do
  name.checkKey
  match name.text?.bind fun t => filter? (String.ofList t) with
  | some f => f p v args
  | none => unknownByValue p "filter" name

end Redline.Form
