import Redline.Text.Blank
import Redline.Text.Lines

/-!
# Texts cut into pieces

A text is cut at white space or at a separator, from the left or from the right,
and no more often than is asked.  A cut from the right is a cut from the left in
the text read backwards.
-/

namespace Redline.Text

/-! ## Search -/

/-- The position of the last occurrence of a pattern. -/
def findLast? (pattern t : Text) : Option Nat :=
  (find? pattern.reverse t.reverse).map fun i => t.length - pattern.length - i

/-- The number of occurrences of a pattern that do not overlap.  An empty pattern
stands before every character and at the end. -/
def countOf (pattern t : Text) : Nat :=
  if pattern.isEmpty then t.length + 1 else (splitOn t pattern).length - 1

/-- `replaceSome` in a text of which the first `skip` characters belong to an
occurrence that is already replaced. -/
def replaceSomeFrom (pattern new : Text) : (left skip : Nat) → Text → Text
  | _, _, [] => []
  | left, skip + 1, _ :: t => replaceSomeFrom pattern new left skip t
  | 0, 0, t => t
  | left + 1, 0, c :: t =>
      if pattern.isPrefixOf (c :: t) then new ++ replaceSomeFrom pattern new left (pattern.length - 1) t
      else c :: replaceSomeFrom pattern new (left + 1) 0 t

/-- A text with another one put before some of its characters, and at its end if
that is not too often. -/
def spreadBetween (new : Text) : (left : Nat) → Text → Text
  | 0, t => t
  | _ + 1, [] => new
  | left + 1, c :: t => new ++ c :: spreadBetween new left t

/-- The text with some occurrences of a pattern replaced, from left to right. -/
def replaceSome (t pattern new : Text) (count : Nat) : Text :=
  if pattern.isEmpty then spreadBetween new count t else replaceSomeFrom pattern new count 0 t

/-- The text before the first occurrence of a separator and the text behind it. -/
def partition? (separator t : Text) : Option (Text × Text) :=
  (find? separator t).map fun i => (t.take i, t.drop (i + separator.length))

/-- The text before the last occurrence of a separator and the text behind it. -/
def partitionLast? (separator t : Text) : Option (Text × Text) :=
  (findLast? separator t).map fun i => (t.take i, t.drop (i + separator.length))

/-! ## Pieces -/

/-- The pieces between the first occurrences of a separator, cut at most a number
of times. -/
def splitSome (separator : Text) : (cuts : Nat) → Text → List Text
  | 0, t => [t]
  | cuts + 1, t =>
      match partition? separator t with
      | some (piece, rest) => piece :: splitSome separator cuts rest
      | none => [t]

/-- The pieces between occurrences of a separator. -/
def pieces (separator : Text) (cuts : Option Nat) (t : Text) : List Text :=
  match cuts with
  | none => splitOn t separator
  | some n => splitSome separator n t

/-- The pieces between occurrences of a separator, cut from the right. -/
def piecesFromRight (separator : Text) (cuts : Option Nat) (t : Text) : List Text :=
  ((pieces separator.reverse cuts t.reverse).map List.reverse).reverse

/-- The words of a text, cut at most a number of times.  What is not cut keeps the
white space at its end. -/
def wordsUpTo : (cuts : Nat) → Text → List Text
  | cuts, t =>
      let rest := t.dropWhile isBlank
      match cuts with
      | 0 => if rest.isEmpty then [] else [rest]
      | cuts + 1 =>
          if rest.isEmpty then []
          else
            let word := rest.takeWhile fun c => !isBlank c
            word :: wordsUpTo cuts (rest.drop word.length)

/-- The words of a text, between white space. -/
def words (cuts : Option Nat) (t : Text) : List Text := wordsUpTo (cuts.getD t.length) t

def wordsFromRight (cuts : Option Nat) (t : Text) : List Text :=
  ((words cuts t.reverse).map List.reverse).reverse

/-- The lines between the marks of any convention, each with its mark. -/
def markedParagraphs : Text → List Text
  | [] => []
  | '\r' :: '\n' :: t => ['\r', '\n'] :: markedParagraphs t
  | c :: t => if isLineEnd c then [c] :: markedParagraphs t else consHead c (markedParagraphs t)

/-! ## Ends -/

/-- The text without a pattern at its start. -/
def withoutStart (pattern t : Text) : Text := if pattern.isPrefixOf t then t.drop pattern.length else t

/-- The text without a pattern at its end. -/
def withoutEnd (pattern t : Text) : Text := (withoutStart pattern.reverse t.reverse).reverse

def endsWith (t pattern : Text) : Bool := pattern.reverse.isPrefixOf t.reverse

end Redline.Text
