import Std.Data.HashMap
import Redline.Number.Binary64
import Redline.Text.Basic

/-!
# How alike two texts are

The likeness of two texts is twice the number of matched characters over the
number of all characters.  Characters are matched by blocks: the longest block
that both texts share is taken, the earliest in the first text and then in the
second, and the search goes on to its left and to its right.

In a long second text a character that occurs very often starts no block.  It
only lengthens a block found without it.
-/

namespace Redline.Review

/-- The length from which on a text counts as long. -/
def longText : Nat := 200

/-- Where each character stands in a text, in increasing order. -/
abbrev Places := @Std.HashMap Char (List Nat) _ instHashableChar

def placesOf (t : Text) : Places :=
  t.zipIdx.foldr (fun (c, j) places => places.insert c (j :: places.getD c [])) ∅

/-- The places of the characters that may start a block: in a long text, not of
those that occur very often. -/
def startingPlaces (t : Text) : Places :=
  let most := t.length / 100 + 1
  (placesOf t).filter fun _ js => t.length < longText || js.length ≤ most

/-- A block that two texts share. -/
structure Block where
  left : Nat
  right : Nat
  size : Nat
deriving DecidableEq, Repr

/-- A stretch of two texts in which blocks are looked for. -/
structure Stretch where
  left : Nat
  leftEnd : Nat
  right : Nat
  rightEnd : Nat

/-- The blocks that end at one character of the first text: where they end in
the second text, in increasing order, and how long they are. -/
abbrev Row := List (Nat × Nat)

/-- The blocks that end at a character of the first text, which stands at places
of the second one, from the blocks that end at the character before it. -/
def nextRow : List Nat → Row → Row
  | [], _ => []
  | j :: js, row =>
      match row.dropWhile fun entry => entry.1 + 1 < j with
      | [] => (j, 1) :: nextRow js []
      | (k, n) :: rest =>
          if k + 1 = j then (j, n + 1) :: nextRow js rest else (j, 1) :: nextRow js ((k, n) :: rest)

/-- The best block so far, or a longer one that ends in a row. -/
def bestInRow (i : Nat) (row : Row) (best : Block) : Block :=
  row.foldl (fun best (j, n) => if best.size < n then ⟨i + 1 - n, j + 1 - n, n⟩ else best) best

/-- The longest block in a stretch, from a position of the first text on. -/
def bestFrom (places : Places) (s : Stretch) : (i : Nat) → Text → Row → Block → Block
  | _, [], _, best => best
  | i, c :: a, row, best =>
      let js := ((places.getD c []).dropWhile (· < s.right)).takeWhile (· < s.rightEnd)
      let row := nextRow js row
      bestFrom places s (i + 1) a row (bestInRow i row best)

/-- The number of characters before two positions that agree, inside a
stretch. -/
def agreeBefore (a b : Array Char) (s : Stretch) : (i j : Nat) → Nat
  | i + 1, j + 1 =>
      if s.left ≤ i && s.right ≤ j && a[i]? = b[j]? then agreeBefore a b s i j + 1 else 0
  | _, _ => 0

/-- The number of characters from two positions on that agree, inside a stretch.
`fuel` bounds it. -/
def agreeAfter (a b : Array Char) (s : Stretch) : (fuel i j : Nat) → Nat
  | 0, _, _ => 0
  | fuel + 1, i, j =>
      if i < s.leftEnd && j < s.rightEnd && a[i]? = b[j]? then agreeAfter a b s fuel (i + 1) (j + 1) + 1
      else 0

/-- The longest block in a stretch, lengthened to both sides as far as the texts
agree. -/
def longestBlock (places : Places) (a b : Array Char) (s : Stretch) : Block :=
  let inside := (a.extract s.left s.leftEnd).toList
  let x := bestFrom places s s.left inside [] ⟨s.left, s.right, 0⟩
  let back := agreeBefore a b s x.left x.right
  let ahead := agreeAfter a b s a.size (x.left + x.size) (x.right + x.size)
  ⟨x.left - back, x.right - back, x.size + back + ahead⟩

/-- The number of matched characters in a stretch of two texts.  `fuel` bounds
the depth of the search and is enough if it exceeds the length of the first
text. -/
def matched (places : Places) (a b : Array Char) : (fuel : Nat) → Stretch → Nat
  | 0, _ => 0
  | fuel + 1, s =>
      if s.leftEnd ≤ s.left || s.rightEnd ≤ s.right then 0
      else
        let x := longestBlock places a b s
        if x.size = 0 then 0
        else
          x.size + matched places a b fuel ⟨s.left, x.left, s.right, x.right⟩
            + matched places a b fuel ⟨x.left + x.size, s.leftEnd, x.right + x.size, s.rightEnd⟩

/-- How alike two texts are, between zero and one. -/
def similarity (a b : Text) : Number.Magnitude :=
  let n := a.length + b.length
  if n = 0 then .ofRatio 1 1
  else
    let whole : Stretch := ⟨0, a.length, 0, b.length⟩
    .ofRatio (2 * matched (startingPlaces b) a.toArray b.toArray (a.length + 1) whole) n

end Redline.Review
