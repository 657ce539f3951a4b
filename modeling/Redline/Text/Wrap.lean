import Redline.Text.Letter
import Redline.Text.Blank

/-!
# Texts in a width

A text is moved to the left, to the right or to the middle of a width, and tabs
are filled up to the next stop.

To wrap a line it is cut into chunks: words, the white space between them, and dashes.  A
word with a hyphen may be two chunks.  Chunks are put on a line as long as they
fit.  White space at the start of a line, but for the first, and at its end is left
out.
-/

namespace Redline.Text

/-! ## Margins -/

def alignLeft (width : Int) (fill : Char) (t : Text) : Text :=
  t ++ List.replicate (width - t.length).toNat fill

def alignRight (width : Int) (fill : Char) (t : Text) : Text :=
  List.replicate (width - t.length).toNat fill ++ t

/-- A text in the middle of a width.  If it cannot be in the middle it is one to the
left of it in an even width, and one to the right in an odd one. -/
def alignCenter (width : Int) (fill : Char) (t : Text) : Text :=
  let margin := (width - t.length).toNat
  let left := margin / 2 + (if margin % 2 = 1 && width % 2 = 1 then 1 else 0)
  List.replicate left fill ++ t ++ List.replicate (margin - left) fill

/-- Zeros before a text, behind its sign if it has one. -/
def fillZeros (width : Int) (t : Text) : Text :=
  let zeros := List.replicate (width - t.length).toNat '0'
  match t with
  | '-' :: ds => '-' :: zeros ++ ds
  | '+' :: ds => '+' :: zeros ++ ds
  | ds => zeros ++ ds

/-- A text with its tabs filled up, from a column on. -/
def expandTabsFrom (size : Nat) : (column : Nat) → Text → Text
  | _, [] => []
  | column, c :: t =>
      if c = '\t' then
        if size = 0 then expandTabsFrom size column t
        else
          let gap := size - column % size
          List.replicate gap ' ' ++ expandTabsFrom size (column + gap) t
      else c :: expandTabsFrom size (if c = '\n' || c = '\r' then 0 else column + 1) t

def expandTabs (size : Nat) (t : Text) : Text := expandTabsFrom size 0 t

/-! ## Chunks -/

/-- Whether a character is a gap between words. -/
def isGap (c : Char) : Bool := ['\t', '\n', '\x0b', '\x0c', '\r', ' '].contains c

/-- Whether a character can stand before a dash. -/
def isBeforeDash (c : Char) : Bool := isWordChar c || ['!', '"', '\'', '&', '.', ',', '?'].contains c

/-- Whether a character is a letter in a word. -/
def isWordLetter (c : Char) : Bool := isWordChar c && !isDecimal c

/-- Whether a text starts with a dash of two hyphens or more before a word. -/
def startsDash (t : Text) : Bool :=
  let run := (t.takeWhile (· = '-')).length
  2 ≤ run && ((t.drop run).head?.map isWordChar).getD false

/-- Whether a word may be cut behind a hyphen, by what stands before it, the nearest
first, and what stands behind it. -/
def cutsAtHyphen (before behind : Text) : Bool :=
  let start := match before with
    | a :: '-' :: c :: _ => isWordLetter a && isWordLetter c
    | a :: b :: _ => isWordLetter a && isWordLetter b
    | _ => false
  let rest := match behind with
    | a :: '-' :: c :: _ => isWordLetter a && isWordLetter c
    | a :: b :: _ => isWordLetter a && isWordLetter b
    | _ => false
  start && rest

/-- The number of further characters in a word, by what stands before them. -/
def wordEnd (before : Text) : Text → Nat
  | [] => 0
  | c :: t =>
      if c = '-' && cutsAtHyphen before t then 1
      else if isGap c then 0
      else if (before.head?.map isBeforeDash).getD false && startsDash (c :: t) then 0
      else wordEnd (c :: before) t + 1

/-- The number of characters in the first chunk of a text, by what stands before
it. -/
def chunkLength (before t : Text) : Nat :=
  match t with
  | [] => 0
  | c :: rest =>
      if isGap c then (t.takeWhile isGap).length
      else if (before.head?.map isBeforeDash).getD false && startsDash t then (t.takeWhile (· = '-')).length
      else wordEnd (c :: before) rest + 1

/-- The number of characters in the first chunk of a text that is cut at gaps
only. -/
def plainChunkLength (t : Text) : Nat :=
  match t with
  | [] => 0
  | c :: _ => (t.takeWhile fun d => isGap d = isGap c).length

/-- The chunks of a text.  `fuel` bounds their number. -/
def chunksFrom (atHyphens : Bool) : (fuel : Nat) → (before : Text) → Text → List Text
  | 0, _, _ => []
  | _, _, [] => []
  | fuel + 1, before, t =>
      let n := if atHyphens then chunkLength before t else plainChunkLength t
      let chunk := t.take n
      chunk :: chunksFrom atHyphens fuel (chunk.reverse ++ before) (t.drop n)

/-- The chunks of a text, cut at hyphens or at gaps only. -/
def chunks (atHyphens : Bool) (t : Text) : List Text := chunksFrom atHyphens t.length [] t

/-! ## Lines -/

/-- Chunks that fit into a width, and the rest. -/
def fitting (width : Nat) : List Text → List Text × List Text
  | [] => ([], [])
  | c :: cs =>
      if c.length ≤ width then
        let (line, rest) := fitting (width - c.length) cs
        (c :: line, rest)
      else ([], c :: cs)

/-- How many characters of a word that is too long go on a line, by the room
there. -/
def brokenLength (atHyphens : Bool) (room : Nat) (chunk : Text) : Nat :=
  if atHyphens && room < chunk.length then
    let start := chunk.take room
    let behind := (start.reverse.takeWhile (· ≠ '-')).length
    let hyphen := start.length - behind
    if 1 < hyphen && (chunk.take (hyphen - 1)).any (· ≠ '-') then hyphen else room
  else room

/-- The lines that chunks fill.  `fuel` bounds their number. -/
def fillLines (width : Nat) (breakWords atHyphens : Bool) : (fuel : Nat) → (first : Bool) → List Text → List Text
  | 0, _, _ => []
  | fuel + 1, first, chunks =>
      match chunks with
      | [] => []
      | c :: cs =>
          let chunks := if !first && allBlank c then cs else chunks
          let (line, rest) := fitting width chunks
          let used := (line.map List.length).sum
          let (line, rest) := match rest with
            | long :: others =>
                if long.length ≤ width then (line, rest)
                else if breakWords then
                  let n := brokenLength atHyphens (width - used) long
                  (line ++ [long.take n], long.drop n :: others)
                else if line.isEmpty then ([long], others)
                else (line, rest)
            | [] => (line, rest)
          let line := if (line.getLast?.map allBlank).getD false then line.dropLast else line
          if line.isEmpty then fillLines width breakWords atHyphens fuel first rest
          else line.flatten :: fillLines width breakWords atHyphens fuel false rest

/-- A text as lines of at most a width above zero. -/
def wrap (width : Nat) (breakWords atHyphens : Bool) (t : Text) : List Text :=
  let cs := chunks atHyphens t
  fillLines width breakWords atHyphens (2 * t.length + 2) true cs

end Redline.Text
