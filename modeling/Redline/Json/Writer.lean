import Redline.Json.Basic

/-!
# Writing JSON

Two layouts of one value: `compact` on one line, and `indented` with one item
or field a line and two more spaces for every level.  Both are ASCII, so every
other character is written by its number, in two halves where it needs them.
-/

namespace Redline.Json

/-- A number below 65536 as an escape. -/
def unitEscape (n : Nat) : Text := '\\' :: 'u' :: Text.hex 4 n

def charText (c : Char) : Text :=
  if c = '"' then ['\\', '"']
  else if c = '\\' then ['\\', '\\']
  else if c = '\n' then ['\\', 'n']
  else if c = '\r' then ['\\', 'r']
  else if c = '\t' then ['\\', 't']
  else if c = '\x08' then ['\\', 'b']
  else if c = '\x0c' then ['\\', 'f']
  else if 0x20 ≤ c.toNat && c.toNat < 0x7F then [c]
  else if c.toNat < 0x10000 then unitEscape c.toNat
  else
    let n := c.toNat - 0x10000
    unitEscape (0xD800 + n / 0x400) ++ unitEscape (0xDC00 + n % 0x400)

def stringText (s : String) : Text := '"' :: s.toList.flatMap charText ++ ['"']

def floatText : Number.Binary64 → Text
  | .infinite negative => if negative then "-Infinity".toList else "Infinity".toList
  | .nan => "NaN".toList
  | x => x.shortest

mutual

def compactText : Json → Text
  | null => "null".toList
  | bool b => if b then "true".toList else "false".toList
  | int n => Number.intText n
  | float x => floatText x
  | str s => stringText s
  | arr xs => '[' :: compactItems xs ++ [']']
  | obj fs => '\x7b' :: compactFields fs ++ ['\x7d']

def compactItems : List Json → Text
  | [] => []
  | [x] => compactText x
  | x :: xs => compactText x ++ ',' :: compactItems xs

def compactFields : List (String × Json) → Text
  | [] => []
  | [(k, x)] => stringText k ++ ':' :: compactText x
  | (k, x) :: fs => stringText k ++ ':' :: compactText x ++ ',' :: compactFields fs

end

def compact (v : Json) : String := String.ofList (compactText v)

def margin (level : Nat) : Text := '\n' :: List.replicate (2 * level) ' '

mutual

def indentedText (level : Nat) : Json → Text
  | arr [] => ['[', ']']
  | arr (x :: xs) => '[' :: indentedItems (level + 1) (x :: xs) ++ margin level ++ [']']
  | obj [] => ['\x7b', '\x7d']
  | obj (f :: fs) => '\x7b' :: indentedFields (level + 1) (f :: fs) ++ margin level ++ ['\x7d']
  | null => "null".toList
  | bool b => if b then "true".toList else "false".toList
  | int n => Number.intText n
  | float x => floatText x
  | str s => stringText s

def indentedItems (level : Nat) : List Json → Text
  | [] => []
  | [x] => margin level ++ indentedText level x
  | x :: xs => margin level ++ indentedText level x ++ ',' :: indentedItems level xs

def indentedFields (level : Nat) : List (String × Json) → Text
  | [] => []
  | [(k, x)] => margin level ++ stringText k ++ ": ".toList ++ indentedText level x
  | (k, x) :: fs =>
      margin level ++ stringText k ++ ": ".toList ++ indentedText level x ++ ',' :: indentedFields level fs

end

def indented (v : Json) : Text := indentedText 0 v

end Redline.Json
