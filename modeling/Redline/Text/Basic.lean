/-!
# Texts and positions

A *text* is the list of its characters, and every position counts characters
from zero.  A *signed* position may be negative, and then it counts from the
end.  A position past either end is moved to that end, so a cut never fails.

Searching is for whole texts: `find?` gives the first place where a pattern
stands, and `replaceAll` replaces its occurrences from left to right without
overlap.

A table of characters is written in rows of ranges (`rangesOf`).
-/

namespace Redline

/-- A document, as the list of its characters. -/
abbrev Text := List Char

namespace Text

/-! ## Cuts

These are for lists of any kind, since lists of lines are cut as texts are. -/

/-- The position that a signed position names in a list of `n` items. -/
def clip (n : Nat) (i : Int) : Nat :=
  if i < 0 then (i + n).toNat else min i.toNat n

def before {α : Type} (t : List α) (stop : Int) : List α := t.take (clip t.length stop)

def after {α : Type} (t : List α) (start : Int) : List α := t.drop (clip t.length start)

/-- The items between two signed positions.  There are none when the second
does not lie behind the first. -/
def slice {α : Type} (t : List α) (start stop : Int) : List α :=
  (before t stop).drop (clip t.length start)

/-- The item at a signed position, if there is one. -/
def item? {α : Type} (t : List α) (i : Int) : Option α :=
  if i < 0 then (if (t.length : Int) + i < 0 then none else t[((t.length : Int) + i).toNat]?)
  else t[i.toNat]?

/-- The text with the characters between two signed positions replaced. -/
def splice (t : Text) (start stop : Int) (new : Text) : Text :=
  before t start ++ new ++ after t stop

theorem clip_natCast {n k : Nat} (h : k ≤ n) : clip n (k : Int) = k := by
  unfold clip; split <;> omega

theorem clip_eq_min (n k : Nat) : clip n (k : Int) = min k n := by
  unfold clip; split <;> omega

theorem before_natCast {α : Type} (t : List α) (k : Nat) : before t (k : Int) = t.take k := by
  rw [before, clip_eq_min, ← List.take_eq_take_min]

theorem after_natCast {α : Type} (t : List α) (k : Nat) : after t (k : Int) = t.drop k := by
  rw [after, clip_eq_min]
  rcases Nat.le_total k t.length with h | h
  · rw [Nat.min_eq_left h]
  · rw [Nat.min_eq_right h, List.drop_length, List.drop_eq_nil_of_le h]

theorem slice_natCast {α : Type} (t : List α) (i j : Nat) :
    slice t (i : Int) (j : Int) = (t.take j).drop i := by
  have hlen : (t.take j).length ≤ t.length := List.length_take_le' j t
  rw [slice, before_natCast, clip_eq_min]
  rcases Nat.le_total i t.length with h | h
  · rw [Nat.min_eq_left h]
  · rw [Nat.min_eq_right h, List.drop_eq_nil_of_le hlen, List.drop_eq_nil_of_le (Nat.le_trans hlen h)]

theorem splice_natCast (t : Text) (i j : Nat) (new : Text) :
    splice t (i : Int) (j : Int) new = t.take i ++ new ++ t.drop j := by
  rw [splice, before_natCast, after_natCast]

/-! ## Search -/

/-- Whether the text begins with the pattern. -/
def startsWith (t pattern : Text) : Bool := pattern.isPrefixOf t

/-- The position of the first occurrence of the pattern. -/
def find? (pattern : Text) : Text → Option Nat
  | [] => if pattern.isEmpty then some 0 else none
  | c :: t =>
      if pattern.isPrefixOf (c :: t) then some 0 else (find? pattern t).map (· + 1)

def contains (t pattern : Text) : Bool := (find? pattern t).isSome

/-- `replaceAll` in a text of which the first `skip` characters belong to an
occurrence that is already replaced. -/
def replaceFrom (pattern new : Text) : (skip : Nat) → Text → Text
  | _, [] => []
  | skip + 1, _ :: t => replaceFrom pattern new skip t
  | 0, c :: t =>
      if pattern.isPrefixOf (c :: t) then new ++ replaceFrom pattern new (pattern.length - 1) t
      else c :: replaceFrom pattern new 0 t

/-- The text with every occurrence of a non-empty pattern replaced, from left
to right and without overlap. -/
def replaceAll (t pattern new : Text) : Text := replaceFrom pattern new 0 t

/-- `splitOn` in a text of which the first `skip` characters belong to a
separator that is already used. -/
def splitFrom (separator : Text) : (skip : Nat) → Text → Text → List Text
  | _, piece, [] => [piece.reverse]
  | skip + 1, piece, _ :: t => splitFrom separator skip piece t
  | 0, piece, c :: t =>
      if separator.isPrefixOf (c :: t) then
        piece.reverse :: splitFrom separator (separator.length - 1) [] t
      else splitFrom separator 0 (c :: piece) t

/-- The pieces of the text between the occurrences of a non-empty separator. -/
def splitOn (t separator : Text) : List Text := splitFrom separator 0 [] t

/-! ## Ends -/

/-- The text without the characters of a kind at its right end. -/
def trimRight (t : Text) (drop : Char → Bool) : Text := (t.reverse.dropWhile drop).reverse

/-- The text without the characters of a kind at both ends. -/
def trim (t : Text) (drop : Char → Bool) : Text := trimRight (t.dropWhile drop) drop

/-! ## Tables of ranges -/

/-- The number that hexadecimal digits write. -/
def hexNumber (ds : Text) : Nat :=
  ds.foldl (fun n c =>
    16 * n + (if c.isDigit then c.toNat - 48 else if c.isLower then c.toNat - 87 else c.toNat - 55)) 0

/-- A range is written as its first and its last number with a hyphen between them, or
as one number alone. -/
def rangeOf (t : Text) : Nat × Nat :=
  match splitOn t ['-'] with
  | [first, last] => (hexNumber first, hexNumber last)
  | _ => (hexNumber t, hexNumber t)

/-- The entries that are written in the rows of a table. -/
def tableOf {α : Type} (entry : Text → α) (rows : List String) : Array α :=
  (rows.flatMap fun row => (splitOn row.toList [' ']).map entry).toArray

def rangesOf : List String → Array (Nat × Nat) := tableOf rangeOf

/-- Whether a number lies in one of the ranges of a table. -/
def inRanges (table : Array (Nat × Nat)) (n : Nat) : Bool := table.any fun r => r.1 ≤ n && n ≤ r.2

end Text

end Redline
