import Redline.Form.Layout

/-!
# Texts with fields

A text with fields has places between braces.  A field names a value by its
number or its name, and may lead on to a member or an item of it.  Then come a
letter that turns the value into text, and a layout, which may have fields
itself.

In a text that is escaped already every field is escaped.
-/

namespace Redline.Form

/-- Where the values of fields come from. -/
structure Source where
  /-- The values by place, or nothing if fields have names only. -/
  placed : Option (List Value)
  named : Value
  escaping : Bool

/-- How the fields without a name are numbered. -/
inductive Numbering where
  /-- Not yet. -/
  | fresh
  /-- One after the other, and the next one. -/
  | automatic (next : Nat)
  | manual
deriving DecidableEq, Repr

/-- A field that has been read. -/
structure Field where
  name : Text
  conversion : Option Char
  layout : Text

/-! ## Reading -/

/-- The name of a field, the character that ends it, and what stands behind
that. -/
def fieldName : (inBrackets : Bool) → Text → Run (Text × Char × Text)
  | _, [] => Run.fail .value "expected '\x7d' before end of string"
  | true, c :: t => do
      let (name, stop, rest) ← fieldName (c ≠ ']') t
      return (c :: name, stop, rest)
  | false, c :: t => do
      if c = '\x7b' then Run.fail .value "unexpected '\x7b' in field name"
      if c = '\x7d' || c = ':' || c = '!' then return ([], c, t)
      let (name, stop, rest) ← fieldName (c = '[') t
      return (c :: name, stop, rest)

/-- The layout of a field, up to the brace that closes it, and what stands behind
that. -/
def fieldLayout : (depth : Nat) → Text → Run (Text × Text)
  | _, [] => Run.fail .value "unmatched '\x7b' in format spec"
  | depth, c :: t => do
      if c = '\x7d' && depth = 0 then return ([], t)
      let depth := if c = '\x7b' then depth + 1 else if c = '\x7d' then depth - 1 else depth
      let (layout, rest) ← fieldLayout depth t
      return (c :: layout, rest)

def readField (t : Text) : Run (Field × Text) := do
  let (name, stop, rest) ← fieldName false t
  match stop with
  | '\x7d' => return (⟨name, none, []⟩, rest)
  | ':' =>
      let (layout, rest) ← fieldLayout 0 rest
      return (⟨name, none, layout⟩, rest)
  | _ =>
      match rest with
      | [] => Run.fail .value "end of string while looking for conversion specifier"
      | c :: '\x7d' :: rest => return (⟨name, some c, []⟩, rest)
      | c :: ':' :: rest =>
          let (layout, rest) ← fieldLayout 0 rest
          return (⟨name, some c, layout⟩, rest)
      | _ :: _ :: _ => Run.fail .value "expected ':' after conversion specifier"
      | [_] => Run.fail .value "unmatched '\x7b' in format spec"

/-- The number that a name writes, if it writes one. -/
def fieldNumber? (t : Text) : Run (Option Nat) := do
  if t.isEmpty || !t.all Text.isDecimal then return none
  return (← readCount t).1

/-! ## Values of fields -/

/-- What a name leads on to. -/
inductive Lead where
  | member (name : Text)
  | item (key : Value)

/-- What a name leads on to, one after the other.  `fuel` bounds their number. -/
def leadsIn : (fuel : Nat) → Text → Run (List Lead)
  | 0, _ => return []
  | fuel + 1, t => do
      let filled := fun (name : Text) => do
        if name.isEmpty then Run.fail .value "Empty attribute in format string"
      match t with
      | [] => return []
      | '.' :: t =>
          let name := t.takeWhile fun c => c ≠ '.' && c ≠ '['
          filled name
          return .member name :: (← leadsIn fuel (t.drop name.length))
      | '[' :: t =>
          let name := t.takeWhile (· ≠ ']')
          if name.length = t.length then Run.fail .value "Missing ']' in format string"
          filled name
          let key := match ← fieldNumber? name with
            | some n => Value.int n
            | none => .text name
          return .item key :: (← leadsIn fuel (t.drop (name.length + 1)))
      | _ => Run.fail .value "Only '.' or '[' may follow ']' in format field specifier"

def follow (p : Powers) (v : Value) : Lead → Run Value
  | .item key => v.item p key
  | .member name => do
      match ← v.member? p (String.ofList name) with
      | some w => return w
      | none => Run.fail .member s!"'{← v.sortName}' object has no attribute '{String.ofList name}'"

/-- The number of a field, if it has one, and how the next ones are numbered. -/
def numberOf (source : Source) (numbering : Numbering) (first : Text) : Run (Option Nat × Numbering) := do
  let toAutomatic : Run (Option Nat × Numbering) :=
    Run.fail .value "cannot switch from manual field specification to automatic field numbering"
  let toManual : Run (Option Nat × Numbering) :=
    if source.escaping then toAutomatic
    else Run.fail .value "cannot switch from automatic field numbering to manual field specification"
  match first.isEmpty, ← fieldNumber? first, numbering with
  | true, _, .manual => toAutomatic
  | true, _, .automatic n => return (some n, .automatic (n + 1))
  | true, _, .fresh => return (some 0, .automatic 1)
  | false, some _, .automatic _ => toManual
  | false, some n, _ => return (some n, .manual)
  | false, none, numbering => return (none, numbering)

/-- The value of a field, and how the next ones are numbered.  Where fields are
escaped, one that leads on to something does not count as numbered. -/
def fieldValue (p : Powers) (source : Source) (numbering : Numbering) (name : Text) : Run (Value × Numbering) := do
  let first := name.takeWhile fun c => c ≠ '.' && c ≠ '['
  let (number, numbering) ←
    if source.escaping && first.length < name.length then pure (← fieldNumber? first, numbering)
    else numberOf source numbering first
  let v ← match number, source.placed with
    | none, _ => source.named.item p (.text first)
    | some _, none => Run.fail .value "Format string contains positional fields"
    | some n, some vs =>
        match vs[n]? with
        | some v => pure v
        | none =>
            if source.escaping then Run.fail .position "tuple index out of range"
            Run.fail .position s!"Replacement index {n} out of range for positional args tuple"
  let rest := name.drop first.length
  let leads ← leadsIn (rest.length + 1) rest
  return (← leads.foldlM (follow p) v, numbering)

def convert (p : Powers) (letter : Option Char) (v : Value) : Run Value := do
  match letter with
  | none => return v
  | some 's' => return .text (← v.display p)
  | some 'r' => return .text (← v.shown p)
  | some 'a' => return .text (asciiOnly (← v.shown p))
  | some c =>
      let number := String.ofList (Nat.toDigits 16 c.toNat)
      let picture := if 32 < c.toNat && c.toNat < 127 then String.singleton c else s!"\\x{number}"
      Run.fail .value s!"Unknown conversion specifier {picture}"

def layField (p : Powers) (source : Source) (v : Value) (layout : Text) : Run Text := do
  if !source.escaping then v.formatted p layout
  else
    match v with
    | .markup t =>
        unless layout.isEmpty do
          Run.fail .value "Unsupported format specification for Markup."
        return t
    | v => return Text.escape (← v.formatted p layout)

/-! ## Filling in -/

/-- A text up to its first brace, and what stands there: nothing, a brace that is
written twice, or a field. -/
def readLiteral (t : Text) : Run (Text × Option Field × Text) := do
  let plain := t.takeWhile fun c => c ≠ '\x7b' && c ≠ '\x7d'
  match t.drop plain.length with
  | [] => return (plain, none, [])
  | ['\x7b'] => Run.fail .value "Single '\x7b' encountered in format string"
  | '\x7b' :: '\x7b' :: rest => return (plain ++ ['\x7b'], none, rest)
  | '\x7b' :: rest =>
      let (field, rest) ← readField rest
      return (plain, some field, rest)
  | '\x7d' :: '\x7d' :: rest => return (plain ++ ['\x7d'], none, rest)
  | _ => Run.fail .value "Single '\x7d' encountered in format string"

/-- A text with its fields filled in.  Layouts have fields to a `depth`, and `fuel`
bounds their number. -/
def fillFields (p : Powers) (source : Source) : (depth fuel : Nat) → Numbering → Text → Run (Text × Numbering)
  | 0, _, _, _ => Run.fail .value "Max string recursion exceeded"
  | _ + 1, 0, numbering, _ => return ([], numbering)
  | depth + 1, fuel + 1, numbering, t => do
      if t.isEmpty then return ([], numbering)
      let (plain, field, rest) ← readLiteral t
      match field with
      | none =>
          let (after, numbering) ← fillFields p source (depth + 1) fuel numbering rest
          return (plain ++ after, numbering)
      | some field =>
          let (v, numbering) ← fieldValue p source numbering field.name
          let v ← convert p field.conversion v
          let (layout, numbering) ←
            if source.escaping || field.layout.any (· = '\x7b') then
              fillFields p source depth fuel numbering field.layout
            else pure (field.layout, numbering)
          let laid ← layField p source v layout
          let (after, numbering) ← fillFields p source (depth + 1) fuel numbering rest
          return (plain ++ laid ++ after, numbering)

/-- A text with its fields filled in from a source. -/
def fillIn (p : Powers) (source : Source) (t : Text) : Run Text := do
  return (← fillFields p source (if source.escaping then 3 else 2) (t.length + 1) .fresh t).1

end Redline.Form
