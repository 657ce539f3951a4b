import Redline.Form.Pattern
import Redline.Text.Wrap

/-!
# Layouts

A layout is a short text that says how a value is written: what fills it up, where
it stands, its sign, its width, the separator of its digits, its places and a
letter for its kind.  Texts, integers and fractions can be laid out.
-/

namespace Redline.Form

open Number (Binary64 Magnitude)

/-- A layout that has been read. -/
structure Layout where
  fill : Char := ' '
  /-- Where it stands: at the left, in the middle, at the right or behind the
  sign. -/
  align : Char
  sign : Option Char := none
  /-- Whether a zero has no sign. -/
  plainZero : Bool := false
  /-- Whether the letters of the base or all digits are written. -/
  alternate : Bool := false
  width : Option Nat := none
  separator : Option Char := none
  places : Option Nat := none
  kind : Option Char := none

/-- Whether a character says where a value stands. -/
def isAlignment (c : Char) : Bool := ['<', '>', '=', '^'].contains c

/-- Takes the number of a width or of places. -/
def readCount (t : Text) : Run (Option Nat × Text) := do
  let ds := t.takeWhile Text.isDecimal
  let n := Text.numberOf (ds.filterMap Text.digitValue?)
  if maxIndex < (n : Int) then Run.fail .value "Too many decimal digits in format string"
  return (if ds.isEmpty then none else some n, t.drop ds.length)

/-- Takes what fills a value up and where it stands. -/
def readAlignment (usual : Char) (t : Text) : Char × Char × Bool × Bool × Text :=
  match t with
  | fill :: c :: rest =>
      if isAlignment c then (fill, c, true, true, rest)
      else if isAlignment fill then (' ', fill, false, true, c :: rest)
      else (' ', usual, false, false, t)
  | [c] => if isAlignment c then (' ', c, false, true, []) else (' ', usual, false, false, t)
  | [] => (' ', usual, false, false, [])

/-- Takes a character if it is one of some. -/
def takeOne (wanted : List Char) : Text → Option Char × Text
  | c :: t => if wanted.contains c then (some c, t) else (none, c :: t)
  | [] => (none, [])

def readSeparator (t : Text) : Run (Option Char × Text) := do
  let (comma, t) := takeOne [','] t
  let (line, t) := takeOne ['_'] t
  let both := (comma.isSome && line.isSome) || (line.isSome && t.head? = some ',')
  if both then Run.fail .value "Cannot specify both ',' and '_'."
  return (comma.orElse fun _ => line, t)

/-- The kinds whose digits may have a separator. -/
def separableKinds : List Char := ['d', 'e', 'f', 'g', 'E', 'G', '%', 'F']

/-- Checks that digits of a kind may have a separator. -/
def checkSeparator (separator : Char) (kind : Option Char) : Run Unit := do
  match kind with
  | none => return ()
  | some k =>
      if separableKinds.contains k then return ()
      if separator = '_' && ['b', 'o', 'x', 'X'].contains k then return ()
      let number := String.ofList (Nat.toDigits 16 k.toNat)
      let picture := if 32 < k.toNat && k.toNat < 128 then String.singleton k else s!"\\x{number}"
      Run.fail .value s!"Cannot specify '{separator}' with '{picture}'."

def Layout.read (sort : String) (usualAlign : Char) (usualKind : Option Char) (t : Text) : Run Layout := do
  let whole := t
  let (fill, align, fillGiven, alignGiven, t) := readAlignment usualAlign t
  let (sign, t) := takeOne [' ', '+', '-'] t
  let (plain, t) := takeOne ['z'] t
  let (alternate, t) := takeOne ['#'] t
  let (zero, t) := if fillGiven then (none, t) else takeOne ['0'] t
  let fill := if zero.isSome then '0' else fill
  let align := if zero.isSome && !alignGiven && usualAlign = '>' then '=' else align
  let (width, t) ← readCount t
  let (separator, t) ← readSeparator t
  let (places, t) ← match t with
    | '.' :: t => do
        let (n, t) ← readCount t
        if n.isNone then Run.fail .value "Format specifier missing precision"
        pure (n, t)
    | t => pure (none, t)
  if 1 < t.length then
    Run.fail .value s!"Invalid format specifier '{String.ofList whole}' for object of type '{sort}'"
  let kind := t.head?.orElse fun _ => usualKind
  if let some c := separator then checkSeparator c kind
  Run.needRoom (width.getD 0)
  return ⟨fill, align, sign, plain.isSome, alternate.isSome, width, separator, places, kind⟩

/-- Fails because there is no such kind. -/
def unknownKind {α : Type} (sort : String) (kind : Char) : Run α :=
  let number := String.ofList (Nat.toDigits 16 kind.toNat)
  let picture := if 32 < kind.toNat && kind.toNat < 128 then String.singleton kind else s!"\\x{number}"
  Run.fail .value s!"Unknown format code '{picture}' for object of type '{sort}'"

/-! ## Values laid out -/

/-- What fills up a text of a length, before it and behind it. -/
def Layout.margins (l : Layout) (length : Nat) : Text × Text :=
  let margin := l.width.getD 0 - length
  let left := match l.align with
    | '<' => 0
    | '^' => margin / 2
    | _ => margin
  (List.replicate left l.fill, List.replicate (margin - left) l.fill)

def Layout.text (l : Layout) (sort : String) (t : Text) : Run Text := do
  if l.kind ≠ some 's' then unknownKind sort (l.kind.getD 's')
  if l.sign = some ' ' then Run.fail .value "Space not allowed in string format specifier"
  if l.sign.isSome then Run.fail .value "Sign not allowed in string format specifier"
  if l.plainZero then Run.fail .value "Negative zero coercion (z) not allowed in string format specifier"
  if l.alternate then Run.fail .value "Alternate form (#) not allowed in string format specifier"
  if l.align = '=' then Run.fail .value "'=' alignment not allowed in string format specifier"
  let t := match l.places with
    | some n => t.take n
    | none => t
  let (before, behind) := l.margins t.length
  return before ++ t ++ behind

def Layout.signOf (l : Layout) (negative : Bool) : Text :=
  if negative then ['-'] else match l.sign with
    | some '+' => ['+']
    | some ' ' => [' ']
    | _ => []

/-- A number laid out: its sign, the letters of its base, its whole part and what
stands behind that. -/
def Layout.number (l : Layout) (sign base whole behind : Text) : Text :=
  let others := sign.length + base.length + behind.length
  let inZeros := l.fill = '0' && l.align = '='
  let size := match l.kind with
    | some 'b' | some 'o' | some 'x' | some 'X' => 4
    | _ => 3
  let whole :=
    if whole.isEmpty then whole
    else match l.separator, inZeros with
      | some c, true => Number.groupedTo ((l.width.getD 0) - others) c size whole
      | some c, false => Number.grouped c size whole
      | none, true => Number.padLeft ((l.width.getD 0) - others) whole
      | none, false => whole
  if l.align = '=' then
    let margin := (l.width.getD 0) - (others + whole.length)
    sign ++ base ++ List.replicate margin l.fill ++ whole ++ behind
  else
    let (before, after) := l.margins (others + whole.length)
    before ++ sign ++ base ++ whole ++ behind ++ after

def Layout.character (l : Layout) (n : Int) : Run Text := do
  if l.sign.isSome then Run.fail .value "Sign not allowed with integer format specifier 'c'"
  if l.alternate then Run.fail .value "Alternate form (#) not allowed with integer format specifier 'c'"
  if n < 0 || 0x10FFFF < n then Run.fail .size "%c arg not in range(0x110000)"
  return l.number [] [] [] [Char.ofNat n.toNat]

def Layout.integer (l : Layout) (n : Int) : Run Text := do
  if l.places.isSome then Run.fail .value "Precision not allowed in integer format specifier"
  if l.plainZero then Run.fail .value "Negative zero coercion (z) not allowed in integer format specifier"
  let size := n.natAbs
  let base := fun (c : Char) => if l.alternate then ['0', c] else []
  match l.kind with
  | some 'c' => l.character n
  | some 'b' => return l.number (l.signOf (n < 0)) (base 'b') (Number.digitsIn 2 size) []
  | some 'o' => return l.number (l.signOf (n < 0)) (base 'o') (Number.digitsIn 8 size) []
  | some 'x' => return l.number (l.signOf (n < 0)) (base 'x') (Number.digitsIn 16 size) []
  | some 'X' =>
      return l.number (l.signOf (n < 0)) (base 'X') ((Number.digitsIn 16 size).map Char.toUpper) []
  | _ => return l.number (l.signOf (n < 0)) [] (← integerText size) []

/-- A number that is not negative, in the layout of a kind. -/
def Layout.magnitude (l : Layout) (x : Magnitude) : Text :=
  let places := l.places.getD 6
  match l.kind with
  | some 'e' | some 'E' => x.scientific places l.alternate
  | some 'f' | some 'F' | some '%' => x.places places l.alternate
  | some _ => x.general places l.alternate false
  | none =>
      match l.places with
      | some n => x.general n l.alternate true
      | none => x.shortestText l.alternate true

def Layout.fraction (l : Layout) (x : Binary64) : Run Text := do
  if (l.places.getD 0 : Int) > 2147483647 then Run.fail .value "precision too big"
  let x := if l.kind = some '%' then x.mul (.ofInt 100) else x
  let body := match x with
    | .finite _ size => l.magnitude size
    | .infinite _ => "inf".toList
    | .nan => "nan".toList
  let body := if (l.kind.map Char.isUpper).getD false then body.map Char.toUpper else body
  let isZero := body.all fun c => !c.isDigit || c = '0'
  let isZero := isZero && body.any Char.isDigit && !(body.any fun c => c = 'e' || c = 'E') || x.isZero
  let negative := x.isNegative && !(l.plainZero && isZero)
  let whole := body.takeWhile Char.isDigit
  let behind := body.drop whole.length ++ (if l.kind = some '%' then ['%'] else [])
  return l.number (l.signOf negative) [] whole behind

def integerKinds : List Char := ['b', 'c', 'd', 'n', 'o', 'x', 'X']

def fractionKinds : List Char := ['e', 'E', 'f', 'F', 'g', 'G', 'n', '%']

def Value.formatted (p : Powers) (v : Value) (layout : Text) : Run Text := do
  if layout.isEmpty then v.display p
  else
    let sort ← v.sortName
    match v.integer?, v, v.text? with
    | some n, _, _ =>
        let l ← Layout.read sort '>' (some 'd') layout
        let kind := l.kind.getD 'd'
        if integerKinds.contains kind then l.integer n
        else if fractionKinds.contains kind then l.fraction (← fractionOf n)
        else unknownKind sort kind
    | none, .float x, _ =>
        let l ← Layout.read sort '>' none layout
        match l.kind with
        | some kind => if fractionKinds.contains kind then l.fraction x else unknownKind sort kind
        | none => l.fraction x
    | none, _, some t =>
        let l ← Layout.read sort '<' (some 's') layout
        l.text sort t
    | none, _, none => Run.misfit s!"unsupported format string passed to {sort}.__format__"

end Redline.Form
