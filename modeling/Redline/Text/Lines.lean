import Redline.Text.Basic

/-!
# Lines

Two ways to see a text as lines.  `lines` cuts at every line feed, so a text
of `n` line feeds has `n + 1` lines and joining them gives the text back.
`paragraphs` cuts at every mark that ends a line in any convention, counts a
carriage return before a line feed as one mark, and has no last empty line.
-/

namespace Redline.Text

/-! ## Lines between line feeds -/

def consHead (c : Char) : List Text → List Text
  | [] => [[c]]
  | l :: ls => (c :: l) :: ls

def lines : Text → List Text
  | [] => [[]]
  | c :: t => if c = '\n' then [] :: lines t else consHead c (lines t)

def unlines (ls : List Text) : Text := List.intercalate ['\n'] ls

@[simp] theorem unlines_singleton (l : Text) : unlines [l] = l := by simp [unlines]

theorem unlines_cons_cons (l m : Text) (ls : List Text) :
    unlines (l :: m :: ls) = l ++ '\n' :: unlines (m :: ls) := by
  simp [unlines]

theorem lines_ne_nil (t : Text) : lines t ≠ [] := by
  cases t with
  | nil => simp [lines]
  | cons c t =>
      simp only [lines]
      split
      · simp
      · cases lines t <;> simp [consHead]

/-- Joining the lines of a text gives the text back. -/
@[simp] theorem unlines_lines (t : Text) : unlines (lines t) = t := by
  induction t with
  | nil => rfl
  | cons c t ih =>
      obtain ⟨l, ls, h⟩ := List.exists_cons_of_ne_nil (lines_ne_nil t)
      by_cases hc : c = '\n'
      · rw [h] at ih
        simpa [lines, hc, h, unlines] using ih
      · rw [h] at ih
        cases ls <;> simpa [lines, hc, h, consHead, unlines] using ih

/-- A text without a line feed is one line. -/
theorem lines_of_not_mem {t : Text} (h : '\n' ∉ t) : lines t = [t] := by
  induction t with
  | nil => rfl
  | cons c t ih =>
      simp only [List.mem_cons, not_or] at h
      simp [lines, Ne.symm h.1, ih h.2, consHead]

/-- A text without a line feed is the first line if a line feed follows. -/
theorem lines_append {a : Text} (h : '\n' ∉ a) (b : Text) :
    lines (a ++ '\n' :: b) = a :: lines b := by
  induction a with
  | nil => simp [lines]
  | cons c a ih =>
      simp only [List.mem_cons, not_or] at h
      simp [lines, Ne.symm h.1, ih h.2, consHead]

/-- A line feed between two texts keeps their lines apart. -/
theorem lines_append_feed (a b : Text) : lines (a ++ '\n' :: b) = lines a ++ lines b := by
  induction a with
  | nil => simp [lines]
  | cons c a ih =>
      rw [List.cons_append, lines, lines, ih]
      split
      next => rfl
      next =>
        obtain ⟨l, ls, h⟩ := List.exists_cons_of_ne_nil (lines_ne_nil a)
        rw [h]
        rfl

/-! ## Lines between marks of any convention -/

/-- Whether a character ends a line in some convention. -/
def isLineEnd (c : Char) : Bool :=
  c = '\n' || c = '\r' || c = '\x0b' || c = '\x0c' || c = '\x1c' || c = '\x1d' || c = '\x1e'
    || c = '\u0085' || c = '\u2028' || c = '\u2029'

/-- The lines between the marks of any convention, without a last empty one. -/
def paragraphs : Text → List Text
  | [] => []
  | '\r' :: '\n' :: t => [] :: paragraphs t
  | c :: t => if isLineEnd c then [] :: paragraphs t else consHead c (paragraphs t)

/-- The text with every carriage return, and every carriage return before a
line feed, written as one line feed. -/
def normalizeEnds : Text → Text
  | [] => []
  | '\r' :: '\n' :: t => '\n' :: normalizeEnds t
  | c :: t => (if c = '\r' then '\n' else c) :: normalizeEnds t

end Redline.Text
