import Redline.Text.Basic
import Redline.Text.Quoted
import Redline.Text.Bytes

/-!
# Encodings

A text is written in bytes by an encoding.  Several of them are known, each under
several names.  Two of them cannot write every character, and a way to *mend* says
what stands in the place of such a character.
-/

namespace Redline.Text

/-- An encoding. -/
inductive Encoding where
  | utf8
  /-- One byte for each of 256 characters. -/
  | latin
  /-- One byte for each of 128 characters. -/
  | ascii
  /-- Units of two bytes, the high one first or last, behind a mark or not. -/
  | utf16 (highFirst mark : Bool)
  /-- Four bytes for a character, the high one first or last, behind a mark or not. -/
  | utf32 (highFirst mark : Bool)
deriving DecidableEq, Repr

/-- What stands in the place of a character that cannot be written. -/
inductive Mend where
  | strict
  | ignore
  | replace
  | numbered
  | backslash
deriving DecidableEq, Repr

namespace Encoding

/-- The name of an encoding in plain letters. -/
def plainName (name : Text) : String :=
  String.ofList ((name.map Char.toLower).map fun c => if c = '-' || c = ' ' then '_' else c)

def names : List (String × Encoding) :=
  [("utf_8", .utf8), ("utf8", .utf8), ("u8", .utf8), ("utf", .utf8), ("cp65001", .utf8),
   ("utf8_ucs2", .utf8), ("utf8_ucs4", .utf8),
   ("latin_1", .latin), ("latin1", .latin), ("latin", .latin), ("l1", .latin), ("iso_8859_1", .latin),
   ("iso8859_1", .latin), ("iso8859", .latin), ("8859", .latin), ("cp819", .latin), ("iso_ir_100", .latin),
   ("iso_8859_1_1987", .latin), ("csisolatin1", .latin), ("ibm819", .latin),
   ("ascii", .ascii), ("us_ascii", .ascii), ("646", .ascii), ("us", .ascii), ("ansi_x3.4_1968", .ascii),
   ("ansi_x3_4_1968", .ascii), ("ansi_x3.4_1986", .ascii), ("cp367", .ascii), ("csascii", .ascii),
   ("ibm367", .ascii), ("iso646_us", .ascii), ("iso_646.irv_1991", .ascii), ("iso_ir_6", .ascii),
   ("utf_16", .utf16 false true), ("utf16", .utf16 false true), ("u16", .utf16 false true),
   ("utf_16_le", .utf16 false false), ("utf_16le", .utf16 false false), ("utf_16_be", .utf16 true false),
   ("utf_16be", .utf16 true false), ("utf_32", .utf32 false true), ("utf32", .utf32 false true),
   ("u32", .utf32 false true), ("utf_32_le", .utf32 false false), ("utf_32le", .utf32 false false),
   ("utf_32_be", .utf32 true false), ("utf_32be", .utf32 true false)]

def ofName? (name : Text) : Option Encoding := names.lookup (plainName name)

def label : Encoding → String
  | utf8 => "utf-8"
  | latin => "latin-1"
  | ascii => "ascii"
  | utf16 highFirst mark => if mark then "utf-16" else if highFirst then "utf-16-be" else "utf-16-le"
  | utf32 highFirst mark => if mark then "utf-32" else if highFirst then "utf-32-be" else "utf-32-le"

/-- The number of characters that an encoding can write, from the first on. -/
def limit : Encoding → Nat
  | latin => 256
  | ascii => 128
  | _ => 0x110000

end Encoding

namespace Mend

def names : List (String × Mend) :=
  [("strict", .strict), ("ignore", .ignore), ("replace", .replace), ("xmlcharrefreplace", .numbered),
   ("backslashreplace", .backslash)]

def text (m : Mend) (c : Char) : Text :=
  match m with
  | strict | ignore => []
  | replace => ['?']
  | numbered => "&#".toList ++ Nat.toDigits 10 c.toNat ++ [';']
  | backslash => escapeByNumber c

end Mend

/-- A number in some bytes, the high one first or last. -/
def bytesOf (count : Nat) (highFirst : Bool) (n : Nat) : List UInt8 :=
  let low := (List.range count).map fun i => UInt8.ofNat (n / Nat.pow 256 i % 256)
  if highFirst then low.reverse else low

def units16 (c : Char) : List Nat :=
  if c.toNat < 0x10000 then [c.toNat]
  else [0xD800 + (c.toNat - 0x10000) / 0x400, 0xDC00 + (c.toNat - 0x10000) % 0x400]

def orderMark : Nat := 0xFEFF

/-- The bytes of a text in an encoding, mended where need be. -/
def encode (e : Encoding) (m : Mend) (t : Text) : List UInt8 :=
  match e with
  | .utf8 => utf8 (String.ofList t)
  | .utf16 highFirst mark =>
      ((if mark then [orderMark] else []) ++ t.flatMap units16).flatMap (bytesOf 2 highFirst)
  | .utf32 highFirst mark =>
      ((if mark then [orderMark] else []) ++ t.map Char.toNat).flatMap (bytesOf 4 highFirst)
  | e => (t.flatMap fun c => if c.toNat < e.limit then [c] else m.text c).map fun c => UInt8.ofNat c.toNat

/-- The stretch of characters that an encoding cannot write, the first such: its
first position and its length. -/
def unwritable? (e : Encoding) (t : Text) : Option (Nat × Text) :=
  let good := fun (c : Char) => c.toNat < e.limit
  let start := (t.takeWhile good).length
  let bad := (t.drop start).takeWhile fun c => !good c
  if bad.isEmpty then none else some (start, bad)

/-- What is said about a stretch that an encoding cannot write. -/
def unwritableMessage (e : Encoding) (start : Nat) (bad : Text) : String :=
  let what := match bad with
    | [c] => s!"character '{String.ofList (escapeByNumber c)}' in position {start}"
    | bad => s!"characters in position {start}-{start + bad.length - 1}"
  s!"'{e.label}' codec can't encode {what}: ordinal not in range({e.limit})"

/-! ## Reading -/

/-- Why bytes are no character in UTF-8: what is said, and how many bytes it is
about. -/
def badByte (bytes : List UInt8) : String × Nat :=
  let follows := fun (b : UInt8) => 0x80 ≤ b && b < 0xC0
  match bytes with
  | [] => ("unexpected end of data", 0)
  | b :: rest =>
      let need := if 0xC2 ≤ b && b < 0xE0 then 1 else if 0xE0 ≤ b && b < 0xF0 then 2
        else if 0xF0 ≤ b && b < 0xF5 then 3 else 0
      if need = 0 then ("invalid start byte", 1)
      else
        let low : UInt8 := if b = 0xE0 then 0xA0 else if b = 0xF0 then 0x90 else 0x80
        let high : UInt8 := if b = 0xED then 0xA0 else if b = 0xF4 then 0x90 else 0xC0
        match rest with
        | [] => ("unexpected end of data", 1)
        | c :: _ =>
            if !(low ≤ c && c < high) then ("invalid continuation byte", 1)
            else
              let n := ((rest.take need).takeWhile follows).length
              if n = rest.length && n < need then ("unexpected end of data", n + 1)
              else ("invalid continuation byte", n + 1)

/-- The text that bytes write in an encoding, or the place of the first byte that
writes none, with what is wrong there.  `skip` counts the bytes of a character that
is already read. -/
def decodeFrom (e : Encoding) : (position skip : Nat) → List UInt8 → Except (Nat × String × Nat) Text
  | _, _, [] => .ok []
  | i, skip + 1, _ :: bytes => decodeFrom e (i + 1) skip bytes
  | i, 0, b :: bytes =>
      match e with
      | .utf8 =>
          match firstChar? (b :: bytes) with
          | some (c, n) => (decodeFrom e (i + 1) (n - 1) bytes).map (c :: ·)
          | none =>
              let (reason, n) := badByte (b :: bytes)
              .error (i, reason, n)
      | e =>
          if b.toNat < e.limit then (decodeFrom e (i + 1) 0 bytes).map (Char.ofNat b.toNat :: ·)
          else .error (i, s!"ordinal not in range({e.limit})", 1)

/-- The numbers that bytes write, some bytes for each. -/
def numbersOf (count : Nat) (highFirst : Bool) (bytes : List UInt8) : List Nat :=
  (List.range (bytes.length / count)).map fun i =>
    let unit := (bytes.drop (i * count)).take count
    (if highFirst then unit else unit.reverse).foldl (fun n b => n * 256 + b.toNat) 0

def ofUnits16 : List Nat → Text
  | [] => []
  | [n] => [Char.ofNat n]
  | n :: m :: rest =>
      if 0xD800 ≤ n && n < 0xDC00 && 0xDC00 ≤ m && m < 0xE000 then
        Char.ofNat (0x10000 + (n - 0xD800) * 0x400 + (m - 0xDC00)) :: ofUnits16 rest
      else Char.ofNat n :: ofUnits16 (m :: rest)

/-- The order of bytes that a mark tells, and the bytes behind it. -/
def readMark (count : Nat) (highFirst mark : Bool) (bytes : List UInt8) : Bool × List UInt8 :=
  if !mark then (highFirst, bytes)
  else if bytes.take count = bytesOf count false orderMark then (false, bytes.drop count)
  else if bytes.take count = bytesOf count true orderMark then (true, bytes.drop count)
  else (highFirst, bytes)

/-- The text that bytes write in an encoding. -/
def decode (e : Encoding) (bytes : List UInt8) : Except (Nat × String × Nat) Text :=
  match e with
  | .utf16 highFirst mark =>
      let (highFirst, rest) := readMark 2 highFirst mark bytes
      if rest.length % 2 = 0 then .ok (ofUnits16 (numbersOf 2 highFirst rest))
      else .error (bytes.length - 1, "truncated data", 1)
  | .utf32 highFirst mark =>
      let (highFirst, rest) := readMark 4 highFirst mark bytes
      let extra := rest.length % 4
      if extra = 0 then .ok ((numbersOf 4 highFirst rest).map Char.ofNat)
      else .error (bytes.length - extra, "truncated data", extra)
  | e => decodeFrom e 0 0 bytes

/-- The text that bytes write in an encoding, in which every stretch that writes
none is mended.  `fuel` bounds the number of such stretches. -/
def decodeMended (e : Encoding) (mend : List UInt8 → Text) : (fuel : Nat) → List UInt8 → Text
  | 0, _ => []
  | fuel + 1, bytes =>
      match decode e bytes with
      | .ok t => t
      | .error (i, _, n) =>
          let before := match decode e (bytes.take i) with
            | .ok t => t
            | .error _ => []
          before ++ mend ((bytes.drop i).take n) ++ decodeMended e mend fuel (bytes.drop (i + n))

end Redline.Text
