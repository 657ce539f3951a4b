import Redline.Text.CharName
import Redline.Text.Lines
import Redline.Json.Encoding
import Redline.Fault

/-!
# Tokens of a form

A form is a text with *slots* between double braces, *tags* between a brace and
a percent sign, and *remarks* between a brace and a hash.  Its tokens are the
text between those, and the words, literals and signs inside slots and tags.

A hyphen at the inner side of a brace takes away the white space at its outer
side.  A slot or tag ends only where the brackets inside it are closed.

What cannot be read is a token too, the last one.  So a reader meets it only
when it gets there.
-/

namespace Redline.Form

/-- A token of a form. -/
inductive Token where
  | data (t : Text)
  | slotBegin
  | slotEnd
  | tagBegin
  | tagEnd
  | name (s : String)
  | string (t : Text)
  | integer (n : Nat)
  | float (x : Number.Binary64)
  | sign (s : String)
  /-- Something that cannot be read, with what is said about it. -/
  | broken (fault : Fault)
deriving DecidableEq, Repr, Inhabited

/-- A token with the text of the form from its place on. -/
structure Lexeme where
  token : Token
  rest : Text
deriving Inhabited

/-- A form is not written as one, for a reason. -/
def malformed (reason : String) : Fault := .inForm .grammar reason

namespace Token

/-! ## Searching -/

/-- The text before the first place where a reader gives something, what it
gives there, and nothing if there is no such place. -/
def findWith {α : Type} (read : Text → Option α) : Text → Option (Text × α)
  | [] => (read []).map fun a => ([], a)
  | c :: t =>
      match read (c :: t) with
      | some a => some ([], a)
      | none => (findWith read t).map fun (before, a) => (c :: before, a)

/-- The text behind a word that it starts with. -/
def behind? (word : String) (t : Text) : Option Text :=
  if word.toList.isPrefixOf t then some (t.drop word.length) else none

/-- The text without white space at its start. -/
def skipBlank (t : Text) : Text := t.dropWhile Text.isBlank

/-- A hyphen or a plus at the start of a text, and the rest. -/
def splitMark : Text → Option Char × Text
  | '-' :: t => (some '-', t)
  | '+' :: t => (some '+', t)
  | t => (none, t)

/-- The text behind an end of a slot, tag or remark.  A hyphen before it takes
the white space behind it away, and a plus does nothing where it is allowed. -/
def closed? (ending : String) (plus : Bool) (t : Text) : Option Text :=
  match t with
  | '-' :: u => (behind? ending u).map skipBlank
  | '+' :: u => if plus then behind? ending u else none
  | t => behind? ending t

/-! ## Openings -/

/-- What begins inside a text. -/
inductive Opening where
  | slot
  | tag
  | remark
  | raw
deriving DecidableEq, Repr

/-- A tag of one word at the start of a text: whether it takes away the white
space before it, and the text behind it. -/
def wordTag? (word : String) (plus : Bool) (t : Text) : Option (Bool × Text) := do
  let t ← behind? "\x7b%" t
  let (mark, t) := splitMark t
  let t ← behind? word (skipBlank t)
  let t ← closed? "%\x7d" plus (skipBlank t)
  return (mark = some '-', t)

/-- What begins at the start of a text: whether it takes away the white space
before it, and the text behind its beginning. -/
def opening? (t : Text) : Option (Opening × Bool × Text) :=
  match wordTag? "raw" false t with
  | some (strips, rest) => some (.raw, strips, rest)
  | none =>
      [("\x7b\x7b", Opening.slot), ("\x7b%", .tag), ("\x7b#", .remark)].findSome? fun (word, o) =>
        (behind? word t).map fun t =>
          let (mark, t) := splitMark t
          (o, mark = some '-', t)

/-- The text before an opening, without the white space at its end if that is
taken away.  `all` is the text from there on. -/
def textBefore (all : Text) (strips : Bool) (t : Text) : List Lexeme :=
  let t := if strips then t.trimRight Text.isBlank else t
  if t.isEmpty then [] else [⟨data t, all⟩]

/-! ## Literals -/

/-- The length of digits with single underscores between them. -/
def digitsLength (digit : Char → Bool) : Text → Nat
  | c :: t =>
      if digit c then
        match t with
        | '_' :: d :: u => if digit d then 2 + digitsLength digit (d :: u) else 1
        | t => 1 + digitsLength digit t
      else 0
  | [] => 0

/-- The digits at the start of a text, with their underscores. -/
def digitsOf (digit : Char → Bool) (t : Text) : Text := t.take (digitsLength digit t)

/-- The value of a digit in a base up to 36. -/
def valueOf (c : Char) : Nat := (Text.digitValue? c).getD (c.toLower.toNat - 87)

/-- The number of digits in a base.  Underscores are passed over. -/
def valueIn (base : Nat) (t : Text) : Nat :=
  (t.filter (· ≠ '_')).foldl (fun n c => base * n + valueOf c) 0

/-- Whether a character is a digit in base 16. -/
def isHexDigit (c : Char) : Bool := c.isDigit || ('a' ≤ c.toLower && c.toLower ≤ 'f')

/-- The integer in another base at the start of a text, and its length. -/
def basedInteger? (t : Text) : Option (Nat × Nat) :=
  match t with
  | '0' :: mark :: rest =>
      [('b', 2, fun c => c = '0' || c = '1'), ('o', 8, fun (c : Char) => '0' ≤ c && c ≤ '7'),
       ('x', 16, fun c => isHexDigit c || Text.isDecimal c)].findSome? fun (letter, base, digit) =>
        let body := if rest.head? = some '_' then rest.drop 1 else rest
        let ds := digitsOf digit body
        if mark.toLower = letter && !ds.isEmpty then
          some (valueIn base ds, 2 + (rest.length - body.length) + ds.length)
        else none
  | _ => none

/-- The integer at the start of a text, and its length.  One that starts with a
zero has no other digits. -/
def integer? (t : Text) : Option (Except Fault Nat × Nat) :=
  match basedInteger? t with
  | some (n, length) => some (.ok n, length)
  | none =>
      let first := t.head?.map fun c => c.isDigit
      let ds := digitsOf (if t.head? = some '0' then (· = '0') else Text.isDecimal) t
      let count := (ds.filter (· ≠ '_')).length
      if ds.isEmpty || first != some true then none
      else if Text.maxDigits < count then some (.error (.integerTooLong count), ds.length)
      else some (.ok (valueIn 10 ds), ds.length)

/-- The power of ten at the start of a text, and its length. -/
def power? (t : Text) : Option (Int × Nat) :=
  match t with
  | c :: rest =>
      let (mark, digits) := splitMark rest
      let ds := digitsOf Text.isDecimal digits
      if c.toLower = 'e' && !ds.isEmpty then
        let n : Int := valueIn 10 ds
        some (if mark = some '-' then -n else n, 1 + (rest.length - digits.length) + ds.length)
      else none
  | [] => none

/-- The places behind a point at the start of a text. -/
def places (t : Text) : Text :=
  match t with
  | '.' :: u => digitsOf Text.isDecimal u
  | _ => []

/-- What is said about a literal with a digit of another script. -/
def foreignDigit (literal : Text) : Option Fault :=
  (literal.zip (' ' :: literal)).findSome? fun (c, before) =>
    if c.toNat < 128 then none
    else
      let reason :=
        if before.toLower = 'e' || before = '+' || before = '-' then "invalid decimal literal"
        else s!"invalid character {String.ofList (Text.quoted [c])} "
          ++ s!"(U+{String.ofList ((Text.hex 4 c.toNat).map Char.toUpper)})"
      some (.inForm .code (reason ++ " (<unknown>, line 1)"))

/-- The fraction at the start of a text, and its length.  It has places or a
power of ten. -/
def float? (t : Text) : Option (Except Fault Number.Binary64 × Nat) :=
  let whole := digitsOf Text.isDecimal t
  if whole.isEmpty then none
  else
    let fraction := places (t.drop whole.length)
    let length := if fraction.isEmpty then whole.length else whole.length + 1 + fraction.length
    let digits := fraction.filter (· ≠ '_')
    let number := fun (k : Int) (n : Nat) =>
      match foreignDigit (t.take n) with
      | some fault => (Except.error fault, n)
      | none => (.ok (Number.Binary64.ofDecimal false (valueIn 10 (whole ++ fraction)) (k - digits.length)), n)
    match power? (t.drop length) with
    | some (k, n) => some (number k (length + n))
    | none => if fraction.isEmpty then none else some (number 0 length)

/-- The length of a text between quotes behind its first quote, with its last
one.  A backslash takes the next character with it. -/
def quotedLength? (quote : Char) : Text → Option Nat
  | [] => none
  | '\\' :: _ :: t => (quotedLength? quote t).map (· + 2)
  | c :: t => if c = quote then some 1 else (quotedLength? quote t).map (· + 1)

/-- The character that one letter behind a backslash stands for. -/
def simpleEscape? : Char → Option Char
  | '\\' => some '\\'
  | '\'' => some '\''
  | '"' => some '"'
  | 'a' => some '\x07'
  | 'b' => some '\x08'
  | 'f' => some '\x0c'
  | 'n' => some '\n'
  | 'r' => some '\r'
  | 't' => some '\t'
  | 'v' => some '\x0b'
  | _ => none

/-- The escapes by number: their letter, the number of digits, and what is said
if there are fewer. -/
def numberEscapes : List (Char × Nat × String) :=
  [('x', 2, "truncated \\xXX escape"), ('u', 4, "truncated \\uXXXX escape"),
   ('U', 8, "truncated \\UXXXXXXXX escape")]

/-- The character that a name in braces stands for, and the text behind it. -/
def named (t : Text) : Except String (Char × Text) :=
  match t with
  | '\x7b' :: t =>
      let name := t.takeWhile (· ≠ '\x7d')
      if name.isEmpty || name.length = t.length then .error "malformed \\N character escape"
      else
        match Text.charNamed? name with
        | some c => .ok (c, t.drop (name.length + 1))
        | none => .error "unknown Unicode character name"
  | _ => .error "malformed \\N character escape"

/-- A text between quotes with its escapes carried out, or what is said about
one that cannot be.  A backslash before a character outside ASCII stands before
the escape of that character.  `fuel` bounds the number of characters. -/
def unescape : (fuel : Nat) → Text → Except String Text
  | 0, _ => .ok []
  | _, [] => .ok []
  | fuel + 1, '\\' :: c :: t =>
      match simpleEscape? c, numberEscapes.lookup c with
      | some e, _ => (unescape fuel t).map (e :: ·)
      | none, some (count, message) =>
          let ds := (t.take count).takeWhile isHexDigit
          if ds.length < count then .error message
          else if 0x110000 ≤ valueIn 16 ds then .error "illegal Unicode character"
          else (unescape fuel (t.drop count)).map (Json.Encoding.singleChar (valueIn 16 ds) :: ·)
      | none, none =>
          if c = '\n' then unescape fuel t
          else if '0' ≤ c && c ≤ '7' then
            let ds := ((c :: t).take 3).takeWhile fun d => '0' ≤ d && d ≤ '7'
            (unescape fuel ((c :: t).drop ds.length)).map (Char.ofNat (valueIn 8 ds) :: ·)
          else if c = 'N' then do
            let (d, t) ← named t
            return d :: (← unescape fuel t)
          else if c.toNat < 128 then (unescape fuel t).map fun u => '\\' :: c :: u
          else (unescape fuel t).map fun u => Text.escapeByNumber c ++ u
  | fuel + 1, c :: t => (unescape fuel t).map (c :: ·)

/-- The text between quotes at the start of a text, and its length. -/
def string? (t : Text) : Option (Except String Text × Nat) :=
  match t with
  | q :: rest =>
      if q = '"' || q = '\'' then
        (quotedLength? q rest).map fun n => (unescape n (rest.take (n - 1)), n + 1)
      else none
  | [] => none

/-! ## Words and signs -/

def isWordChar (c : Char) : Bool := Text.isWordChar c || Text.continuesName c

def signs : List String :=
  ["//", "**", "==", "!=", ">=", "<=", "+", "-", "/", "*", "%", "~", "[", "]", "(", ")", "\x7b", "\x7d",
   ">", "<", "=", ".", ":", "|", ",", ";"]

def sign? (t : Text) : Option String := signs.find? fun s => s.toList.isPrefixOf t

/-- A token that was read, or a broken one. -/
def ofRead {α : Type} (token : α → Token) : Except Fault α → Token
  | .ok a => token a
  | .error fault => broken fault

def ofWord (t : Text) : Token :=
  if Text.isName t then name (String.ofList t) else broken (malformed "Invalid character in identifier")

/-- The token at the start of the inside of a slot or tag, and its length.  A
fraction does not follow a point. -/
def inside? (previous : Option Char) (t : Text) : Option (Token × Nat) :=
  let fraction := if previous = some '.' then none else (float? t).map fun (x, n) => (ofRead float x, n)
  fraction.orElse fun _ =>
    ((integer? t).map fun (n, length) => (ofRead integer n, length)).orElse fun _ =>
      let word := t.takeWhile isWordChar
      if !word.isEmpty then some (ofWord word, word.length)
      else
        match string? t with
        | some (s, n) => some (ofRead string (s.mapError malformed), n)
        | none => (sign? t).map fun s => (sign s, s.length)

def closing? (s : String) : Option String := [("(", ")"), ("[", "]"), ("\x7b", "\x7d")].lookup s

/-- The brackets that are open behind a sign, or what is said about one that
closes the wrong one. -/
def balance (brackets : List String) (s : String) : Except String (List String) :=
  match closing? s with
  | some c => .ok (c :: brackets)
  | none =>
      if s = ")" || s = "]" || s = "\x7d" then
        match brackets with
        | [] => .error ("unexpected '" ++ s ++ "'")
        | c :: rest =>
            if c = s then .ok rest else .error ("unexpected '" ++ s ++ "', expected '" ++ c ++ "'")
      else .ok brackets

/-! ## Reading -/

/-- Where a reader of tokens is. -/
inductive Mode where
  | outside
  /-- In a slot or a tag, behind a character and with brackets open. -/
  | inside (slot : Bool) (previous : Option Char) (brackets : List String)

/-- The tokens of a text.  `length` is the length of the whole form, from which
the position of a character is counted, and `fuel` bounds the number of steps. -/
def read (length : Nat) : (fuel : Nat) → Mode → Text → List Lexeme
  | 0, _, _ => []
  | fuel + 1, .outside, t =>
      match findWith opening? t with
      | none => textBefore t false t
      | some (before, .slot, strips, rest) =>
          textBefore t strips before ++ ⟨slotBegin, t.drop before.length⟩ :: read length fuel (.inside true none []) rest
      | some (before, .tag, strips, rest) =>
          textBefore t strips before ++ ⟨tagBegin, t.drop before.length⟩ :: read length fuel (.inside false none []) rest
      | some (before, .remark, strips, rest) =>
          textBefore t strips before ++
            match findWith (closed? "#\x7d" true) rest with
            | some (_, rest) => read length fuel .outside rest
            | none => if rest.isEmpty then [] else [⟨broken (malformed "Missing end of comment tag"), rest⟩]
      | some (before, .raw, strips, rest) =>
          textBefore t strips before ++
            match findWith (wordTag? "endraw" true) rest with
            | some (inner, stripsInner, behind) =>
                textBefore rest stripsInner inner ++ read length fuel .outside behind
            | none => if rest.isEmpty then [] else [⟨broken (malformed "Missing end of raw directive"), rest⟩]
  | _, .inside .., [] => []
  | fuel + 1, .inside slot previous brackets, c :: t =>
      let ended := if slot then closed? "\x7d\x7d" false (c :: t) else closed? "%\x7d" true (c :: t)
      match ended, brackets with
      | some rest, [] => ⟨if slot then slotEnd else tagEnd, c :: t⟩ :: read length fuel .outside rest
      | _, _ =>
          if Text.isBlank c then read length fuel (.inside slot (some c) brackets) t
          else
            match inside? previous (c :: t) with
            | none =>
                let reason := s!"unexpected char {String.ofList (Text.quoted [c])} at {length - (t.length + 1)}"
                [⟨broken (malformed reason), c :: t⟩]
            | some (broken fault, _) => [⟨broken fault, c :: t⟩]
            | some (token, n) =>
                let rest := (c :: t).drop n
                let last := ((c :: t).take n).getLast?
                match token with
                | sign s =>
                    match balance brackets s with
                    | .error message => [⟨broken (malformed message), c :: t⟩]
                    | .ok brackets => ⟨sign s, c :: t⟩ :: read length fuel (.inside slot last brackets) rest
                | token => ⟨token, c :: t⟩ :: read length fuel (.inside slot last brackets) rest

/-- A text without one line end at its end. -/
def dropLastEnd (t : Text) : Text := if t.getLast? = some '\n' then t.dropLast else t

/-- The text of a form that its tokens are read from.  One line end at its end is
dropped. -/
def sourceOf (form : Text) : Text := dropLastEnd (Text.normalizeEnds form)

def ofSource (t : Text) : List Lexeme := read t.length (t.length + 1) .outside t

/-! ## Names of tokens -/

/-- What a token is called in a message.  The end of the form is no token. -/
def describe : Option Token → String
  | some (data _) => "template data / text"
  | some slotBegin => "begin of print statement"
  | some slotEnd => "end of print statement"
  | some tagBegin => "begin of statement block"
  | some tagEnd => "end of statement block"
  | some (name s) => s
  | some (string _) => "string"
  | some (integer _) => "integer"
  | some (float _) => "float"
  | some (sign s) => s
  | some (broken fault) => fault.message
  | none => "end of template"

end Token

end Redline.Form
