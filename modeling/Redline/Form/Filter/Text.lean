import Redline.Form.Method
import Redline.Text.Wrap

/-!
# Filters on texts

Filters that work on the text of a value.  A text that is escaped already stays so
where that is possible.
-/

namespace Redline.Form

/-- A filter: what it makes of a value and of what a call gives. -/
abbrev Filter := Powers → Value → Args → Run Value

/-- The text of a value, escaped if the value is an escaped text. -/
def Value.soft (p : Powers) (v : Value) : Run Value := do
  match v with
  | .text _ | .markup _ => return v
  | v => return .text (← v.display p)

/-- Fails because a value has no such member. -/
def lacksMember {α : Type} (v : Value) (name : String) : Run α := do
  match v with
  | .missing reason => Run.fail .absence reason
  | v => Run.fail .member s!"'{← v.sortName}' object has no attribute '{name}'"

/-- Calls a method of a value that has to have it. -/
def callMember (p : Powers) (v : Value) (name : String) (args : List Value) : Run Value := do
  match ← v.member? p name with
  | some (.method owner name) => callMethod p owner name ⟨args, []⟩
  | some f => p.call f ⟨args, []⟩
  | none => lacksMember v name

/-! ## Case and space -/

/-- A filter that calls a method of the text of a value. -/
def viaMethod (full before method : String) (params : List Parameter) : Filter := fun p v args => do
  let values ← Signature.values ⟨full, [before], params, false, false⟩ args
  callMethod p (← v.soft p) method ⟨values, []⟩

def upperFilter : Filter := viaMethod "do_upper" "s" "upper" []

def lowerFilter : Filter := viaMethod "do_lower" "s" "lower" []

def capitalizeFilter : Filter := viaMethod "do_capitalize" "s" "capitalize" []

def centerFilter : Filter := viaMethod "do_center" "value" "center" [optional "width" (.int 80)]

/-- Without some characters at its ends. -/
def trimFilter : Filter := viaMethod "do_trim" "value" "strip" [optional "chars" .null]

/-- Whether a word can start behind a character. -/
def isWordGap (c : Char) : Bool := Text.isBlank c || ['-', '(', '\x7b', '[', '<'].contains c

/-- The words of a text and the gaps between them.  `fuel` bounds their number. -/
def titleRuns : (fuel : Nat) → Text → List Text
  | 0, _ => []
  | _, [] => []
  | fuel + 1, c :: t =>
      let run := (c :: t).takeWhile fun d => isWordGap d = isWordGap c
      run :: titleRuns fuel ((c :: t).drop run.length)

/-- A word with a capital first and small letters behind it. -/
def titleWord : Text → Text
  | [] => []
  | c :: t => Text.upperChar c ++ Text.lower t

/-- With a capital at the start of every word. -/
def titleFilter : Filter := fun p v args => do
  let _ ← Signature.values ⟨"do_title", ["s"], [], false, false⟩ args
  let t ← v.display p
  return .text ((titleRuns t.length t).flatMap titleWord)

/-- With one text in the place of another. -/
def replaceFilter : Filter := fun p v args => do
  let values ← Signature.values
    ⟨"do_replace", ["eval_ctx", "s"], [required "old", required "new", optional "count" .null], false, false⟩ args
  match values with
  | [old, new, count] =>
      let count := match count with
        | .null => .int (-1)
        | v => v
      if !(← get).escaping then
        let plain := fun (v : Value) => do return Value.text (← v.display p)
        callMethod p (← plain v) "replace" ⟨[← plain old, ← plain new, count], []⟩
      else
        let v ← if old.isMarkup || (new.isMarkup && !v.isMarkup) then Value.markup <$> v.escaped p else v.soft p
        callMethod p v "replace" ⟨[← old.soft p, ← new.soft p, count], []⟩
  | _ => return v

/-! ## Lines -/

/-- A value put before another one, with the sign that assigns. -/
def extendBy (v w : Value) : Run Value := do
  match v with
  | .text _ | .markup _ | .tuple _ | .group .. => putTogether v w
  | .missing reason => Run.fail .absence reason
  | .list _ => return v
  | .bytes _ => putTogether v w
  | v => Run.misfit s!"unsupported operand type(s) for +=: '{← v.sortName}' and '{← w.sortName}'"

def indentFilter : Filter := fun p v args => do
  let values ← Signature.values
    ⟨"do_indent", ["s"],
      [optional "width" (.int 4), optional "first" (.bool false), optional "blank" (.bool false)], false, false⟩ args
  match values with
  | [width, first, blank] =>
      let margin ← match width.text? with
        | some _ => pure width
        | none => (Value.text [' ']).operate p .mul width
      let safe := fun (t : Text) => if v.isMarkup then Value.markup t else .text t
      let margin ← if v.isMarkup then safe <$> margin.display p else pure margin
      let newLine := safe ['\n']
      let whole ← extendBy v newLine
      let lines ← (← callMember p whole "splitlines" []).items p
      let body ←
        if ← blank.truthy then do
          let list ← Run.newList lines
          callMethod p (← putTogether newLine margin) "join" ⟨[list], []⟩
        else
          match lines with
          | [] => Run.fail .position "pop from empty list"
          | [line] => pure line
          | line :: rest => do
              let rest ← rest.mapM fun l => do if ← l.truthy then putTogether margin l else pure l
              let list ← Run.newList rest
              putTogether line (← putTogether newLine (← callMethod p newLine "join" ⟨[list], []⟩))
      if ← first.truthy then putTogether margin body else return body
  | _ => return v

/-- Checks something that is taken for granted. -/
def assume (holds : Bool) (message : String) : Run Unit :=
  unless holds do
    Run.fail .assumption message

def truncateFilter : Filter := fun p v args => do
  let values ← Signature.values
    ⟨"do_truncate", ["env", "s"],
      [optional "length" (.int 255), optional "killwords" (.bool false), optional "end" (.ofString "..."),
       optional "leeway" .null], false, false⟩ args
  match values with
  | [length, killWords, ending, leeway] =>
      let leeway := match leeway with
        | .null => .int 5
        | v => v
      let size := Value.int (← ending.length p)
      assume (← length.order .ge size) s!"expected length >= {← size.displayed p}, got {← length.displayed p}"
      assume (← leeway.order .ge (.int 0)) s!"expected leeway >= 0, got {← leeway.displayed p}"
      let limit ← length.operate p .add leeway
      if ← (Value.int (← v.length p)).order .le limit then return v
      let start ← part v .null (← length.operate p .sub size) .null
      if ← killWords.truthy then start.operate p .add ending
      else
        let pieces ← (← callMember p start "rsplit" [.text [' '], .int 1]).items p
        (pieces.headD .null).operate p .add ending
  | _ => return v

def wordwrapFilter : Filter := fun p v args => do
  let values ← Signature.values
    ⟨"do_wordwrap", ["environment", "s"],
      [optional "width" (.int 79), optional "break_long_words" (.bool true), optional "wrapstring" .null,
       optional "break_on_hyphens" (.bool true)], false, false⟩ args
  match values with
  | [width, breakWords, separator, atHyphens] =>
      let separator := match separator with
        | .null => .text ['\n']
        | v => v
      let breakWords ← breakWords.truthy
      let cutAtHyphens := match atHyphens with
        | .bool true => true
        | _ => false
      let lines ← (← callMember p v "splitlines" []).items p
      let wrapped ← lines.mapM fun line => do
        let t := (line.text?).getD []
        if ← width.order .le (.int 0) then
          Run.fail .value s!"invalid width {← width.shownString p} (must be > 0)"
        let size ← width.toInteger
        let list ← Run.newList ((Text.wrap size.toNat breakWords cutAtHyphens t).map Value.text)
        callMember p separator "join" [list]
      callMember p separator "join" [← Run.newList wrapped]
  | _ => return v

def wordcountFilter : Filter := fun p v args => do
  let _ ← Signature.values ⟨"do_wordcount", ["s"], [], false, false⟩ args
  let t ← v.display p
  let starts := (Bool.false :: t.map Text.isWordChar).zip (t.map Text.isWordChar)
  return .int (starts.filter fun (before, here) => here && !before).length

/-! ## Patterns and pages -/

def formatFilter : Filter := fun p v args => do
  if !args.placed.isEmpty && !args.named.isEmpty then
    Run.fail .argument "can't handle positional and keyword arguments at the same time"
  let values ← if args.named.isEmpty then pure (Value.tuple args.placed)
    else Run.newRecord (args.named.map fun (k, v) => (.ofString k, v))
  (← v.soft p).operate p .mod values

def escapeFilter : Filter := fun p v args => do
  let one := { args with placed := v :: args.placed }
  let _ ← one.one "markupsafe._speedups.escape"
  return .markup (← v.escaped p)

/-- Escaped, even if it is so already. -/
def forceescapeFilter : Filter := fun p v args => do
  let _ ← Signature.values ⟨"do_forceescape", ["value"], [], false, false⟩ args
  return .markup (Text.escape (← v.display p))

def safeFilter : Filter := fun p v args => do
  let _ ← Signature.values ⟨"do_mark_safe", ["value"], [], false, false⟩ args
  return .markup (← v.display p)

def stringFilter : Filter := fun p v args => do
  let one := { args with placed := v :: args.placed }
  let _ ← one.one "markupsafe._speedups.soft_str"
  v.soft p

/-- Without the tags of a page. -/
def striptagsFilter : Filter := fun p v args => do
  let _ ← Signature.values ⟨"do_striptags", ["value"], [], false, false⟩ args
  return .text (Text.stripTags (← v.display p))

end Redline.Form
