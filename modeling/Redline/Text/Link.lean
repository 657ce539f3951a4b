import Redline.Text.Bytes
import Redline.Text.Letter
import Redline.Text.Quoted
import Redline.Text.Split

/-!
# Addresses and links in a text

In an address most characters are written as bytes, each by a percent sign and two
digits.

A word of an escaped text that is an address is made into a link.  Brackets before
a word and signs behind it are not part of the address, unless the brackets are
needed to close others.

Whether a word is an address is told by what can be left of it: a matcher gives all
the ways in which a word can go on.
-/

namespace Redline.Text

/-! ## Texts in an address -/

/-- Whether a byte stands for itself in every address. -/
def isPlainByte (b : UInt8) : Bool :=
  let c := Char.ofNat b.toNat
  b.toNat < 128 && (c.isAlphanum || ['_', '.', '-', '~'].contains c)

/-- A byte in an address in which some characters stand for themselves. -/
def percentByte (safe : List Char) (b : UInt8) : Text :=
  if isPlainByte b || (b.toNat < 128 && safe.any (· = Char.ofNat b.toNat)) then [Char.ofNat b.toNat]
  else '%' :: (hex 2 b.toNat).map Char.toUpper

def inPath (bytes : List UInt8) : Text := bytes.flatMap (percentByte ['/'])

/-- A text in the query of an address, with a plus for a space. -/
def inQuery (bytes : List UInt8) : Text :=
  bytes.flatMap fun b => if b = 32 then ['+'] else percentByte [] b

/-! ## Words that are addresses -/

/-- What can be left of a word behind a start, whatever its case. -/
def afterWord (start : String) (t : Text) : List Text :=
  let n := start.length
  if (t.take n).map Char.toLower = start.toList then [t.drop n] else []

/-- What can be left of a word behind some characters of a kind, of which there is
a least and a greatest number. -/
def afterSome (least most : Nat) (kind : Char → Bool) (t : Text) : List Text :=
  let n := min most (t.takeWhile kind).length
  ((List.range (n + 1)).filter (least ≤ ·)).map fun k => t.drop k

/-- Whether a character can stand in the name of a place. -/
def isLabelChar (c : Char) : Bool := isWordChar c || c = '%' || c = '-'

/-- What is left of a word behind one name of a place and its point. -/
def afterLabel? (least most : Nat) (t : Text) : Option Text :=
  let label := t.takeWhile isLabelChar
  match t.drop label.length with
  | '.' :: rest => if least ≤ label.length && label.length ≤ most then some rest else none
  | _ => none

/-- What can be left of a word behind names of places and their points.  `fuel`
bounds their number. -/
def afterLabels (least most : Nat) : (fuel : Nat) → Text → List Text
  | 0, _ => []
  | fuel + 1, t =>
      match afterLabel? least most t with
      | some rest => rest :: afterLabels least most fuel rest
      | none => []

/-- What can be left of a word behind the last name of a place. -/
def afterTop (t : Text) : List Text :=
  afterSome 2 63 Char.isAlpha t
    ++ (afterWord "xn--" t).flatMap (afterSome 2 59 fun c => isWordChar c || c = '%')

/-- The last names of places that need no scheme. -/
def knownTops : List String := ["com", "net", "int", "edu", "gov", "org", "info", "mil"]

/-- What can be left of a word behind a scheme. -/
def afterScheme (t : Text) : List Text := afterWord "http://" t ++ afterWord "https://" t

/-- What can be left of a word behind four numbers with points between. -/
def afterNumbers (t : Text) : List Text :=
  let number := afterSome 1 3 isDecimal
  let more := fun (t : Text) => match t with
    | '.' :: rest => number rest
    | _ => []
  (((number t).flatMap more).flatMap more).flatMap more

/-- Whether a character is a hexadecimal digit. -/
def isHexChar (c : Char) : Bool :=
  isDecimal c || ('a' ≤ c.toLower && c.toLower ≤ 'f')

/-- What can be left of a word behind digits and a colon, which may be wanting. -/
def afterGroup (colonWanted : Bool) (t : Text) : List Text :=
  (afterSome 0 4 isHexChar t).flatMap fun rest => match rest with
    | ':' :: r => if colonWanted then [r] else [r, rest]
    | _ => if colonWanted then [] else [rest]

/-- What can be left of a word behind up to a number of groups. -/
def afterGroups : (count : Nat) → Text → List Text
  | 0, t => [t]
  | n + 1, t => t :: ((afterGroup false t).eraseDups.flatMap (afterGroups n)).eraseDups

/-- What can be left of a word behind groups between square brackets. -/
def afterBrackets (t : Text) : List Text :=
  match t with
  | '[' :: rest =>
      let rest := (afterGroup true rest).flatMap (afterGroup true)
      let rest := (rest.flatMap (afterGroup false)).eraseDups.flatMap (afterGroups 5)
      rest.filterMap fun t => match t with
        | ']' :: r => some r
        | _ => none
  | _ => []

/-- What can be left of a word behind the name of a host. -/
def afterHost (t : Text) : List Text :=
  let named := (afterScheme t ++ afterWord "www." t).flatMap fun rest =>
    (rest :: afterLabels 1 rest.length rest.length rest).flatMap afterTop
  let known := (afterLabels 2 63 t.length t).flatMap fun rest => knownTops.flatMap fun top => afterWord top rest
  let numbered := (afterScheme t).flatMap fun rest => afterNumbers rest ++ afterBrackets rest
  named ++ known ++ numbered

/-- Whether what is left behind a host is a port and a path, or nothing. -/
def endsAddress (t : Text) : Bool :=
  let ports := match t with
    | ':' :: rest => t :: afterSome 1 5 isDecimal rest
    | _ => [t]
  ports.any fun t => match t with
    | [] => true
    | c :: _ => c = '/' || c = '?' || c = '#'

def isAddress (t : Text) : Bool := (afterHost t).any endsAddress

/-- Whether a text is the name of a host behind an at sign. -/
def isMailHost (t : Text) : Bool :=
  match partitionLast? ['.'] t with
  | some (c :: middle, top) =>
      isWordChar c && middle.all (fun d => isWordChar d || d = '.' || d = '-') && !top.isEmpty && top.all isWordChar
  | _ => false

def isMail (t : Text) : Bool :=
  t.zipIdx.any fun (c, i) => c = '@' && 0 < i && isMailHost (t.drop (i + 1))

/-! ## Links -/

/-- How links are made. -/
structure LinkStyle where
  /-- The number of characters of an address that are shown. -/
  limit : Option Int := none
  /-- What stands behind the address in the tag of a link. -/
  attributes : Text := []
  schemes : List Text := []

/-- The signs before a word, one after the other. -/
def leadingSigns : (fuel : Nat) → Text → Text
  | 0, _ => []
  | fuel + 1, t =>
      match t with
      | '(' :: r => '(' :: leadingSigns fuel r
      | '<' :: r => '<' :: leadingSigns fuel r
      | '&' :: 'l' :: 't' :: ';' :: r => "&lt;".toList ++ leadingSigns fuel r
      | _ => []

def trailingSigns : (fuel : Nat) → Text → Text
  | 0, _ => []
  | fuel + 1, t =>
      match t with
      | ';' :: 't' :: 'g' :: '&' :: r => ";tg&".toList ++ trailingSigns fuel r
      | c :: r => if [')', '>', '.', ',', '\n'].contains c then c :: trailingSigns fuel r else []
      | [] => []

/-- Moves closing brackets from behind a word into it, some times. -/
def moveClosing (closing : Text) : (times : Nat) → Text × Text → Text × Text
  | 0, parts => parts
  | n + 1, (middle, tail) =>
      match find? closing tail with
      | some i =>
          let k := i + closing.length
          moveClosing closing n (middle ++ tail.take k, tail.drop k)
      | none => (middle, tail)

/-- A word and the signs behind it, with its brackets closed. -/
def balance (parts : Text × Text) : Text × Text :=
  let pairs := [("(", ")"), ("<", ">"), ("&lt;", "&gt;")]
  pairs.foldl (fun (middle, tail) (opening, closing) =>
    let opened := countOf opening.toList middle
    if opened ≤ countOf closing.toList middle then (middle, tail)
    else moveClosing closing.toList (min opened (countOf closing.toList tail)) (middle, tail)) parts

def LinkStyle.shown (s : LinkStyle) (t : Text) : Text :=
  match s.limit with
  | some n => if n < t.length then before t n ++ "...".toList else t
  | none => t

def linkTo (address attributes shown : Text) : Text :=
  "<a href=\"".toList ++ address ++ '"' :: attributes ++ '>' :: shown ++ "</a>".toList

/-- A word as a link, if it is an address. -/
def LinkStyle.link (s : LinkStyle) (t : Text) : Text :=
  if isAddress t then
    let hasScheme := startsWith t "https://".toList || startsWith t "http://".toList
    linkTo (if hasScheme then t else "https://".toList ++ t) s.attributes (s.shown t)
  else if startsWith t "mailto:".toList && isMail (t.drop 7) then linkTo t [] (t.drop 7)
  else if contains t ['@'] && !startsWith t "www.".toList && !contains t [':'] && isMail t then
    linkTo ("mailto:".toList ++ t) [] t
  else
    s.schemes.foldl (fun t scheme =>
      if t ≠ scheme && startsWith t scheme then linkTo t s.attributes t else t) t

/-- A word with a link in it, if it has an address. -/
def LinkStyle.word (s : LinkStyle) (t : Text) : Text :=
  let head := leadingSigns t.length t
  let rest := t.drop head.length
  let tail := (trailingSigns rest.length rest.reverse).reverse
  let (middle, tail) := balance (rest.take (rest.length - tail.length), tail)
  head ++ s.link middle ++ tail

/-- The words of a text and the white space between them.  `fuel` bounds their
number. -/
def runs : (fuel : Nat) → Text → List Text
  | 0, _ => []
  | _, [] => []
  | fuel + 1, c :: t =>
      let run := (c :: t).takeWhile fun d => isBlank d = isBlank c
      run :: runs fuel ((c :: t).drop run.length)

def LinkStyle.text (s : LinkStyle) (t : Text) : Text := (runs t.length t).flatMap s.word

end Redline.Text
