import Redline.Form.Field
import Redline.Form.Operation
import Redline.Form.Signature
import Redline.Text.Case
import Redline.Text.Encoding
import Redline.Text.Letter

/-!
# Methods of texts

The methods of a text, by name.  A text that is escaped already has them too.
Some of them give an escaped text again, and then escape the texts that they are
given.
-/

namespace Redline.Form

/-! ## What methods are given -/

/-- The name of a value's sort, in the words about an argument. -/
def argumentSort : Value → Run String
  | .null => return "None"
  | v => v.sortName

/-- The text that a value is, or else the fault that it is none. -/
def mustBeText (v : Value) : Run Text := do
  match v.text? with
  | some t => return t
  | none => Run.misfit s!"must be str, not {← v.sortName}"

def textArgument (place : String) (v : Value) : Run Text := do
  match v.text? with
  | some t => return t
  | none => Run.misfit s!"{place} must be str, not {← argumentSort v}"

def searchBounds (length : Nat) (start stop : Option Value) : Run (Int × Int) := do
  let first := (← bound (start.getD .null)).getD 0
  let last := (← bound (stop.getD .null)).getD length
  let fromEnd := fun (i : Int) => if i < 0 then max 0 (i + length) else i
  return (fromEnd first, min (fromEnd last) length)

/-- The part of a text that is searched, with its first position. -/
def searched (t : Text) (first last : Int) : Option Text :=
  if last < first then none else some ((t.take last.toNat).drop first.toNat)

/-- The position of a pattern in a part of a text. -/
def searchIn (t : Text) (fromRight : Bool) (args : List Value) : Run (Option Nat) := do
  match args with
  | [] => return none
  | v :: bounds =>
      let pattern ← mustBeText v
      let (first, last) ← searchBounds t.length bounds[0]? bounds[1]?
      let find := if fromRight then Text.findLast? else Text.find?
      return (searched t first last).bind fun part => (find pattern part).map (· + first.toNat)

/-- The number of times that a pattern is in a part of a text. -/
def countIn (t : Text) (args : List Value) : Run Nat := do
  match args with
  | [] => return 0
  | v :: bounds =>
      let pattern ← mustBeText v
      let (first, last) ← searchBounds t.length bounds[0]? bounds[1]?
      return ((searched t first last).map (Text.countOf pattern)).getD 0

/-- Whether a part of a text starts or ends with a pattern, or with one of
several. -/
def matchesEnd (t : Text) (name : String) (args : List Value) : Run Bool := do
  match args with
  | [] => return false
  | v :: bounds =>
      let fits := fun (pattern : Text) => do
        let (first, last) ← searchBounds t.length bounds[0]? bounds[1]?
        let last := last - pattern.length
        if last < first then return false
        let part := (t.take (last + pattern.length).toNat).drop first.toNat
        return if name = "startswith" then Text.startsWith part pattern else Text.endsWith part pattern
      match v.text?, v.row? with
      | some pattern, _ => fits pattern
      | none, some vs =>
          vs.anyM fun w => do
            match w.text? with
            | some pattern => fits pattern
            | none => Run.misfit s!"tuple for {name} must only contain str, not {← w.sortName}"
      | none, none => Run.misfit s!"{name} first arg must be str or a tuple of str, not {← v.sortName}"

/-- The characters that are left out at the ends of a text. -/
def stripped (name : String) (args : List Value) : Run (Char → Bool) := do
  match args with
  | [] | [.null] => return Text.isBlank
  | v :: _ =>
      match v.text? with
      | some cs => return fun c => cs.any (· = c)
      | none => Run.misfit s!"{name} arg must be None or str"

/-- The width and the character that a text is filled up with. -/
def widthAndFill (args : List Value) : Run (Int × Char) := do
  let width ← (args[0]?.getD Value.null).measure
  match args[1]? with
  | none =>
      Run.needRoom width.toNat
      return (width, ' ')
  | some v =>
      match v.text? with
      | some [c] =>
          Run.needRoom width.toNat
          return (width, c)
      | some _ => Run.misfit "The fill character must be exactly one character long"
      | none => Run.misfit s!"The fill character must be a unicode character, not {← v.sortName}"

/-- How often a text is cut: nothing if that is not bounded. -/
def cutCount (v : Option Value) : Run (Option Nat) := do
  match v with
  | none => return none
  | some v =>
      let n ← v.measure
      return if n < 0 then none else some n.toNat

/-- The pieces of a text, cut at a separator or at white space. -/
def cutText (t : Text) (fromRight : Bool) (separator cuts : Option Value) : Run (List Text) := do
  let cuts ← cutCount cuts
  match separator with
  | none | some .null => return if fromRight then Text.wordsFromRight cuts t else Text.words cuts t
  | some v =>
      match v.text? with
      | none => Run.misfit s!"must be str or None, not {← v.sortName}"
      | some [] => Run.fail .value "empty separator"
      | some s => return if fromRight then Text.piecesFromRight s cuts t else Text.pieces s cuts t

/-- The texts before, at and behind a separator. -/
def partitioned (t : Text) (fromRight : Bool) (v : Value) : Run (List Text) := do
  let separator ← mustBeText v
  if separator.isEmpty then Run.fail .value "empty separator"
  if fromRight then
    match Text.partitionLast? separator t with
    | some (before, behind) => return [before, separator, behind]
    | none => return [[], [], t]
  match Text.partition? separator t with
  | some (before, behind) => return [before, separator, behind]
  | none => return [t, [], []]

/-- The texts in a value, with the fault that one of them is none. -/
def joinable (p : Powers) (v : Value) : Run (List Text) := do
  let w ← Run.orElse v.walk [.sort] (Run.misfit "can only join an iterable")
  (← w.all p).zipIdx.mapM fun (x, i) => do
    match x.text? with
    | some t => return t
    | none => Run.misfit s!"sequence item {i}: expected str instance, {← x.sortName} found"

/-- What stands in the place of a character, by a table. -/
def translated (p : Powers) (table : Value) (c : Char) : Run Text := do
  let w? ← Run.orElse (some <$> table.item p (.int c.toNat)) [.key, .position] (return none)
  match w? with
  | none => return [c]
  | some .null => return []
  | some w =>
      match w.text?, w.integer? with
      | some t, _ => return t
      | none, some n =>
          if n < 0 || 0x10FFFF < n then Run.fail .value "character mapping must be in range(0x110000)"
          return [Char.ofNat n.toNat]
      | none, none => Run.misfit "character mapping must return integer, None or str"

def translationTable (args : List Value) : Run Value := do
  let code := fun (c : Char) => Value.int c.toNat
  match args with
  | [v] =>
      match v with
      | .record place =>
          let fields ← (← Run.fieldsAt place).toList.mapM fun (k, w) => do
            match k.text?, k.integer? with
            | some [c], _ => return (code c, w)
            | some _, _ => Run.fail .value "string keys in translate table must be of length 1"
            | none, some _ => return (k, w)
            | none, none => Run.misfit "keys in translate table must be strings or integers"
          Run.newRecord fields
      | _ => Run.misfit "if you give only one argument to maketrans it must be a dict"
  | a :: b :: rest =>
      let second ← textArgument "maketrans() argument 2" b
      let first ← match a.text? with
        | some t => pure t
        | none => Run.misfit "first maketrans argument must be a string if there is a second argument"
      let third ← rest.mapM (textArgument "maketrans() argument 3")
      if first.length ≠ second.length then
        Run.fail .value "the first two maketrans arguments must have equal length"
      let pairs := (first.zip second).map fun (c, d) => (code c, code d)
      let dropped := third.flatten.map fun c => (code c, Value.null)
      let fields ← (pairs ++ dropped).foldlM (fun fields (k, w) => setField fields k w) #[]
      Run.newRecord fields.toList
  | [] => Run.newRecord []

/-! ## Bytes -/

/-- The encoding and the name of the way to mend that a call gives. -/
def encodingOf (name : String) (args : Args) : Run (Text.Encoding × String) := do
  let values ← args.byName name ["encoding", "errors"]
  let word := fun (place : String) (v : Option Value) (usual : String) => do
    match v with
    | none => return usual.toList
    | some v => textArgument s!"{name}() argument '{place}'" v
  let encoding ← word "encoding" values[0]?.join "utf-8"
  let mend ← word "errors" values[1]?.join "strict"
  match Text.Encoding.ofName? encoding with
  | none => Run.fail .encoding s!"unknown encoding: {String.ofList encoding}"
  | some e => return (e, String.ofList mend)

def mendOf (name : String) : Run Text.Mend := do
  if name = "surrogateescape" || name = "surrogatepass" then return .strict
  match Text.Mend.names.lookup name with
  | some m => return m
  | none => Run.fail .encoding s!"unknown error handler name '{name}'"

def encoded (t : Text) (args : Args) : Run Value := do
  let (e, name) ← encodingOf "encode" args
  match Text.unwritable? e t with
  | none => return .bytes (Text.encode e .strict t)
  | some (start, bad) =>
      match ← mendOf name with
      | .strict => Run.fail .writing (Text.unwritableMessage e start bad)
      | m => return .bytes (Text.encode e m t)

def decoded (bs : List UInt8) (args : Args) : Run Value := do
  let (e, name) ← encodingOf "decode" args
  let mended := fun (mend : List UInt8 → Text) => Value.text (Text.decodeMended e mend (bs.length + 1) bs)
  match Text.decode e bs with
  | .ok t => return .text t
  | .error (i, reason, n) =>
      match ← mendOf name with
      | .ignore => return mended fun _ => []
      | .replace => return mended fun _ => ['\uFFFD']
      | .backslash => return mended fun bad => bad.flatMap fun b => '\\' :: 'x' :: Text.hex 2 b.toNat
      | .numbered => Run.misfit "don't know how to handle UnicodeDecodeError in error callback"
      | .strict =>
          let what :=
            if n = 1 then
              let number := String.ofList (Text.hex 2 ((bs[i]?.map UInt8.toNat).getD 0))
              s!"byte 0x{number} in position {i}"
            else s!"bytes in position {i}-{i + n - 1}"
          Run.fail .reading s!"'{e.label}' codec can't decode {what}: {reason}"

/-! ## Plain methods -/

/-- The methods that take nothing and give a text. -/
def textMaps : List (String × (Text → Text)) :=
  [("capitalize", Text.capitalize), ("lower", Text.lower), ("upper", Text.upper), ("title", Text.title),
   ("swapcase", Text.swapCase)]

/-- The methods that take nothing and say whether something holds. -/
def textChecks : List (String × (Text → Bool)) :=
  let every := fun (f : Char → Bool) (t : Text) => !t.isEmpty && t.all f
  [("isalnum", every Text.isLetterOrNumeral), ("isalpha", every Text.isLetter),
   ("isascii", fun t => t.all (·.toNat < 128)), ("isdecimal", every Text.isDecimal),
   ("isdigit", every Text.isAnyDigit), ("isidentifier", Text.isName), ("islower", Text.isLower),
   ("isnumeric", every Text.isNumeral), ("isprintable", fun t => t.all Text.isPrintable),
   ("isspace", every Text.isBlank), ("istitle", Text.isTitle), ("isupper", Text.isUpper)]

/-- The methods that give an escaped text if the text is escaped. -/
def escapedResults : List String :=
  ["capitalize", "title", "lower", "upper", "replace", "ljust", "rjust", "lstrip", "rstrip", "center", "strip",
   "translate", "expandtabs", "swapcase", "zfill"]

/-- A value that is escaped if it is a text. -/
def escapedArgument : Value → Value
  | .text t => .markup (Text.escape t)
  | v => v

def textToText? (p : Powers) (t : Text) (name : String) (args : Args) : Run (Option Text) := do
  let full := "str." ++ name
  match textMaps.lookup name with
  | some f =>
      args.nothing full
      return some (f t)
  | none =>
      match name with
      | "casefold" =>
          args.nothing full
          return some (Text.fold t)
      | "center" =>
          let (width, c) ← widthAndFill (← args.between full name 1 2)
          return some (Text.alignCenter width c t)
      | "ljust" =>
          let (width, c) ← widthAndFill (← args.between full name 1 2)
          return some (Text.alignLeft width c t)
      | "rjust" =>
          let (width, c) ← widthAndFill (← args.between full name 1 2)
          return some (Text.alignRight width c t)
      | "zfill" => return some (Text.fillZeros (← (← args.one full).width) t)
      | "expandtabs" =>
          let values ← args.byName name ["tabsize"]
          let size ← match values.head?.join with
            | some v => v.index
            | none => pure 8
          return some (Text.expandTabs size.toNat t)
      | "strip" => return some (t.trim (← stripped name (← args.between full name 0 1)))
      | "lstrip" => return some (t.dropWhile (← stripped name (← args.between full name 0 1)))
      | "rstrip" => return some (Text.trimRight t (← stripped name (← args.between full name 0 1)))
      | "removeprefix" =>
          return some (Text.withoutStart (← textArgument "removeprefix() argument" (← args.one full)) t)
      | "removesuffix" =>
          return some (Text.withoutEnd (← textArgument "removesuffix() argument" (← args.one full)) t)
      | "replace" =>
          match ← args.between full name 2 3 with
          | old :: new :: count =>
              let old ← textArgument "replace() argument 1" old
              let new ← textArgument "replace() argument 2" new
              let n ← match count with
                | v :: _ => v.measure
                | [] => pure (-1)
              let count := if n < 0 then t.length + 1 else n.toNat
              return some (Text.replaceSome t old new count)
          | _ => return some t
      | "translate" =>
          let table ← args.one full
          return some (← t.mapM (translated p table)).flatten
      | _ => return none

/-- A method of a text that gives something else. -/
def textToOther? (p : Powers) (t : Text) (name : String) (args : Args) : Run (Option Value) := do
  let full := "str." ++ name
  match textChecks.lookup name with
  | some f =>
      args.nothing full
      return some (.bool (f t))
  | none =>
      match name with
      | "find" | "rfind" =>
          let found ← searchIn t (name = "rfind") (← args.within name 1 3)
          return some (.int ((found.map Int.ofNat).getD (-1)))
      | "index" | "rindex" =>
          match ← searchIn t (name = "rindex") (← args.within name 1 3) with
          | some i => return some (.int i)
          | none => Run.fail .value "substring not found"
      | "count" => return some (.int (← countIn t (← args.within name 1 3)))
      | "startswith" | "endswith" => return some (.bool (← matchesEnd t name (← args.within name 1 3)))
      | "encode" => some <$> encoded t args
      | "format" =>
          let named ← Run.newRecord (args.named.map fun (k, v) => (.ofString k, v))
          return some (.text (← fillIn p ⟨some args.placed, named, false⟩ t))
      | "format_map" => return some (.text (← fillIn p ⟨none, ← args.one full, false⟩ t))
      | "maketrans" => some <$> translationTable (← args.between full name 1 3)
      | "__len__" =>
          args.nothing full
          return some (.int t.length)
      | _ => return none

/-! ## Methods of a plain text -/

def textMethod (p : Powers) (t : Text) (name : String) (args : Args) : Run (Option Value) := do
  let full := "str." ++ name
  let texts := fun (ts : List Text) => ts.map Value.text
  match ← textToText? p t name args with
  | some s => return some (.text s)
  | none =>
      match ← textToOther? p t name args with
      | some v => return some v
      | none =>
          match name with
          | "join" => return some (.text (List.intercalate t (← joinable p (← args.one full))))
          | "split" | "rsplit" =>
              let values ← args.byName name ["sep", "maxsplit"]
              some <$> Run.newList (texts (← cutText t (name = "rsplit") values[0]?.join values[1]?.join))
          | "splitlines" =>
              let values ← args.byName name ["keepends"]
              let keep ← match values.head?.join with
                | some v => v.index
                | none => pure 0
              some <$> Run.newList (texts (if keep = 0 then Text.paragraphs t else Text.markedParagraphs t))
          | "partition" | "rpartition" =>
              return some (.tuple (texts (← partitioned t (name = "rpartition") (← args.one full))))
          | _ => return none

/-! ## Methods of an escaped text -/

def markupMethod (p : Powers) (t : Text) (name : String) (args : Args) : Run (Option Value) := do
  let full := "Markup." ++ name
  let markups := fun (ts : List Text) => ts.map Value.markup
  let own := fun (params : List Parameter) => Signature.values ⟨full, ["self"], params, false, false⟩ args
  if escapedResults.contains name then
    let args : Args := ⟨args.placed.map escapedArgument, args.named.map fun (k, v) => (k, escapedArgument v)⟩
    return (← textToText? p t name args).map Value.markup
  match name with
  | "join" =>
      let texts ← (← own [required "seq"]).mapM fun v => do (← v.items p).mapM fun x => x.escaped p
      return some (.markup (List.intercalate t texts.flatten))
  | "split" | "rsplit" =>
      let values ← own [optional "sep" .null, optional "maxsplit" (.int (-1))]
      some <$> Run.newList (markups (← cutText t (name = "rsplit") values[0]? values[1]?))
  | "splitlines" =>
      let values ← own [optional "keepends" (.bool false)]
      let keep ← (values.head?.getD Value.null).index
      some <$> Run.newList (markups (if keep = 0 then Text.paragraphs t else Text.markedParagraphs t))
  | "partition" | "rpartition" =>
      let separators ← (← own [required "sep"]).mapM fun v => v.escaped p
      return some (.tuple (markups (← partitioned t (name = "rpartition") (.text separators.flatten))))
  | "format" =>
      let named ← Run.newRecord (args.named.map fun (k, v) => (.ofString k, v))
      return some (.markup (← fillIn p ⟨some args.placed, named, true⟩ t))
  | "unescape" =>
      let _ ← own []
      return some (.text (Text.unescape t))
  | "striptags" =>
      let _ ← own []
      return some (.text (Text.stripTags t))
  | "__html__" =>
      let _ ← own []
      return some (.markup t)
  | "escape" =>
      let values ← Signature.values ⟨"Markup.escape", ["cls"], [required "s"], false, false⟩ args
      return some (.markup (← (values.head?.getD Value.null).escaped p))
  | "__html_format__" =>
      let values ← own [required "format_spec"]
      if ← (values.head?.getD Value.null).truthy then
        Run.fail .value "Unsupported format specification for Markup."
      return some (.markup t)
  | name =>
      match ← textToText? p t name args with
      | some s => return some (.text s)
      | none => textToOther? p t name args

end Redline.Form
