import Redline.Http.Label
import Redline.Text.Bytes
import Redline.Fault

/-!
# Hosts

A host is written with a user and a password before it and a port behind it,
all of which may be missing.  Its name is a row of labels, or numbers in
brackets.  In an address the name stands in ASCII.
-/

namespace Redline.Http

/-! ## Characters as numbers -/

def hexDigit? (b : UInt8) : Option UInt8 :=
  let n := b.toNat
  if 48 ≤ n && n ≤ 57 then some (b - 48)
  else if 65 ≤ n && n ≤ 70 then some (b - 55)
  else if 97 ≤ n && n ≤ 102 then some (b - 87)
  else none

/-- Bytes with every percent sign and two hexadecimal digits replaced by the
byte that they write, unless it is one of some bytes. -/
def unescape (kept : List UInt8) : List UInt8 → List UInt8
  | 37 :: a :: b :: bytes =>
      match hexDigit? a, hexDigit? b with
      | some m, some n =>
          if kept.contains (16 * m + n) then 37 :: a :: b :: unescape kept bytes
          else (16 * m + n) :: unescape kept bytes
      | _, _ => 37 :: unescape kept (a :: b :: bytes)
  | b :: bytes => b :: unescape kept bytes
  | [] => []

/-- A path with the characters that are given by numbers. -/
def unescapeText (path : Text) : Text := Text.ofUtf8 (unescape [] (Text.utf8 (String.ofList path)))

/-- Whether a byte stands for itself wherever it is. -/
def isPlainByte (b : UInt8) : Bool :=
  let c := Char.ofNat b.toNat
  c.isAlphanum || "-._~$!'()*+,;".toList.contains c

/-- A text with the number of every byte that is neither plain nor kept. -/
def escapeText (kept : String) (t : Text) : Text :=
  (Text.utf8 (String.ofList t)).flatMap fun b =>
    if isPlainByte b || kept.toList.contains (Char.ofNat b.toNat) then [Char.ofNat b.toNat]
    else '%' :: (Text.hex 2 b.toNat).map Char.toUpper

/-! ## Names -/

def isDot (c : Char) : Bool := ['.', '。', '．', '｡'].contains c

/-- The parts of a text between characters of a kind. -/
def partsBy (isMark : Char → Bool) (t : Text) : List Text :=
  t.foldr (fun c parts =>
    if isMark c then [] :: parts
    else match parts with
      | p :: others => (c :: p) :: others
      | [] => [[c]]) [[]]

def joinLabels (labels : List Text) : Text := List.intercalate ['.'] labels

/-- The name of a host in ASCII, if it can be written so. -/
def asciiName? (name : Text) : Option Text :=
  if name.all Label.isAscii then
    let labels := partsBy (· = '.') name
    if labels.dropLast.all (fun l => (Label.sized? l).isSome) && (labels.getLastD []).length < 64 then
      some name
    else none
  else do
    let labels := partsBy isDot name
    if (labels.getLastD []).isEmpty then
      return joinLabels (← labels.dropLast.mapM Label.toAscii?) ++ ['.']
    return joinLabels (← labels.mapM Label.toAscii?)

/-- The name of a host in ASCII, without the other characters if they cannot be
written. -/
def asciiName (name : Text) : Text := (asciiName? name).getD (name.filter Label.isAscii)

def plainName (name : Text) : Text :=
  if name.all Label.isAscii then joinLabels ((partsBy (· = '.') name).map Label.ofAscii) else name

/-! ## Parts -/

/-- The parts of a host. -/
structure Host where
  user : Text := []
  password : Text := []
  /-- The name, without brackets. -/
  name : Text := []
  /-- The port, if it is a number that can be one. -/
  port : Option Nat := none

namespace Host

/-- The text before the first character of a kind and the text behind it. -/
def cut (mark : Char) (t : Text) : Option (Text × Text) :=
  if List.elem mark t then some (t.takeWhile (· ≠ mark), (t.dropWhile (· ≠ mark)).drop 1) else none

def portOf? (t : Text) : Option Nat :=
  match Text.readInt t with
  | .ok n => if 0 ≤ n && n ≤ 65535 then some n.toNat else none
  | .error _ => none

/-- The name and the port in a text.  Brackets around the name are not part of
it. -/
def nameAndPort (t : Text) : Text × Option Text :=
  match t with
  | '[' :: inner =>
      match cut ']' inner with
      | none => (t, none)
      | some (name, ':' :: port) => (name, some port)
      | some (name, _) => (name, none)
  | _ =>
      match cut ':' t with
      | some (name, port) => (name, some port)
      | none => (t, none)

def ofText (t : Text) : Host :=
  let (auth, rest) := (cut '@' t).getD ([], t)
  let (user, password) := (cut ':' auth).getD (auth, [])
  let (name, port) := nameAndPort rest
  ⟨user, password, name, port.bind portOf?⟩

/-- A host as a text.  A name with a colon stands in brackets. -/
def text (h : Host) : Text :=
  let auth := List.intercalate [':'] ([h.user, h.password].filter (!·.isEmpty))
  let name := if List.elem ':' h.name then '[' :: h.name ++ [']'] else h.name
  let port := match h.port with
    | some n => ':' :: Nat.toDigits 10 n
    | none => []
  (if auth.isEmpty then [] else auth ++ ['@']) ++ name ++ port

def toAscii (h : Host) : Host :=
  ⟨escapeText "/:%" h.user, escapeText "/:%" h.password, asciiName h.name, h.port⟩

/-- A text with its characters given by numbers, but for four that have a
meaning beside a host. -/
def unescapeAuth (t : Text) : Text :=
  Text.ofUtf8 (unescape (Text.utf8 "/:%@") (Text.utf8 (String.ofList t)))

def plain (h : Host) : Host :=
  ⟨unescapeAuth h.user, unescapeAuth h.password, plainName h.name, h.port⟩

end Host

/-! ## Numbers in brackets -/

/-- Whether a text is a number from 0 to 255. -/
def isOctet (t : Text) : Bool :=
  !t.isEmpty && t.all Char.isDigit && t.length ≤ 3 && (t == ['0'] || t.head? != some '0')
    && Text.numberOf (t.map fun c => c.toNat - 48) ≤ 255

/-- Whether a text is four numbers with dots between. -/
def isFour (t : Text) : Bool :=
  let parts := partsBy (· = '.') t
  parts.length = 4 && parts.all isOctet

/-- Whether a text is a part of a long number. -/
def isGroup (t : Text) : Bool :=
  !t.isEmpty && t.length ≤ 4 && t.all fun c => (hexDigit? (UInt8.ofNat c.toNat)).isSome && c.toNat < 128

/-- Whether parts are the eight of a long number, of which some may be left out
once. -/
def areGroups (parts : List Text) : Bool :=
  let inner := (parts.drop 1).dropLast
  let gaps := (inner.zipIdx.filter (·.1.isEmpty)).map (·.2 + 1)
  match gaps with
  | [] => parts.length = 8 && parts.all isGroup
  | [i] =>
      let front := parts.take i
      let back := parts.drop (i + 1)
      let front := if front.head? = some [] then front.drop 1 else front
      let back := if back.getLast? = some [] then back.dropLast else back
      front.all isGroup && back.all isGroup && front.length + back.length < 8
        && (parts.head? != some [] || front.isEmpty) && (parts.getLast? != some [] || back.isEmpty)
  | _ => false

/-- Whether a text is a long number, which may name a zone. -/
def isLong (t : Text) : Bool :=
  let (number, zone) := match Host.cut '%' t with
    | some (number, zone) => (number, some zone)
    | none => (t, none)
  let parts := partsBy (· = ':') number
  let last := parts.getLastD []
  let spread := if List.elem '.' last then parts.dropLast ++ ["0".toList, "0".toList] else parts
  !List.elem '/' t
    && (match zone with
      | some zone => !zone.isEmpty && !List.elem '%' zone
      | none => true)
    && 3 ≤ parts.length && (!List.elem '.' last || isFour last)
    && spread.length ≤ 9 && areGroups spread

/-- Whether a text in brackets is of a kind that is still to come. -/
def isFuture (t : Text) : Bool :=
  match t with
  | 'v' :: t =>
      let digits := t.takeWhile fun c => c.toNat < 128 && (hexDigit? (UInt8.ofNat c.toNat)).isSome
      !digits.isEmpty && (match t.drop digits.length with
        | '.' :: c :: rest => !(c :: rest).contains '\n'
        | _ => false)
  | _ => false

def checkBracketed (t : Text) : Except Fault Unit :=
  if t.head? = some 'v' then
    if isFuture t then .ok () else .error (.refused "IPvFuture address is invalid")
  else if isFour t then .error (.refused "An IPv4 address cannot be in brackets")
  else if isLong t then .ok ()
  else
    .error (.refused s!"{String.ofList (Text.quoted t)} does not appear to be an IPv4 or IPv6 address")

/-- What is said about brackets of which one is missing. -/
def unpaired : Fault := .refused "Invalid IPv6 URL"

/-- Checks that the brackets of a host are there both or not at all. -/
def checkPaired (t : Text) : Except Fault Unit :=
  if List.elem '[' t != List.elem ']' t then .error unpaired else .ok ()

/-- The characters of which the plain form has a mark that ends a host. -/
def disguised : List Nat :=
  [0x2047, 0x2048, 0x2049, 0x2100, 0x2101, 0x2105, 0x2106, 0x2A74, 0xFE13, 0xFE16, 0xFE55, 0xFE56, 0xFE5F,
   0xFE6B, 0xFF03, 0xFF0F, 0xFF1A, 0xFF1F, 0xFF20]

/-- Checks the text of a host: its brackets, what stands in them, and that no
mark is disguised. -/
def checkHost (t : Text) : Except Fault Unit := do
  checkPaired t
  if List.elem '[' t then checkBracketed ((((t.dropWhile (· ≠ '[')).drop 1)).takeWhile (· ≠ ']'))
  if t.any fun c => disguised.contains c.toNat then
    throw (.refused s!"netloc '{String.ofList t}' contains invalid characters under NFKC normalization")

end Redline.Http
