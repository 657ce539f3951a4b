import Redline.Text.Entity
import Redline.Text.Split

/-!
# Texts of a page

A page gives a meaning to five characters.  `escape` writes them by name, so that
they stand for themselves.  `stripTags` leaves out the tags and remarks of a page,
and puts one space in the place of white space.
-/

namespace Redline.Text

def escapeChar : Char → Text
  | '&' => "&amp;".toList
  | '<' => "&lt;".toList
  | '>' => "&gt;".toList
  | '\'' => "&#39;".toList
  | '"' => "&#34;".toList
  | c => [c]

def escape (t : Text) : Text := t.flatMap escapeChar

/-- The number of characters from the start of a line of text through the first
place where a pattern ends. -/
def spanThrough? (pattern t : Text) : Option Nat :=
  (find? pattern (t.takeWhile (· ≠ '\n'))).map (· + pattern.length)

/-- `dropSpans` in a text of which the first `skip` characters are left out. -/
def dropSpansFrom (opening closing : Text) : (skip : Nat) → Text → Text
  | _, [] => []
  | skip + 1, _ :: t => dropSpansFrom opening closing skip t
  | 0, c :: t =>
      if opening.isPrefixOf (c :: t) then
        match spanThrough? closing ((c :: t).drop opening.length) with
        | some n => dropSpansFrom opening closing (opening.length + n - 1) t
        | none => c :: dropSpansFrom opening closing 0 t
      else c :: dropSpansFrom opening closing 0 t

/-- A text without what stands between two marks on one line, and without the
marks. -/
def dropSpans (opening closing t : Text) : Text := dropSpansFrom opening closing 0 t

/-- A text without the tags and remarks of a page. -/
def stripTags (t : Text) : Text :=
  let t := dropSpans "<!--".toList "-->".toList t
  let t := dropSpans ['<'] ['>'] t
  unescape (List.intercalate [' '] (words none t))

end Redline.Text
