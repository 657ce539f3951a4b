import Redline.Proofs.Diff.Header
import Redline.Proofs.Recovery

/-!
# Hunks

A hunk is what a diff says about a piece of two files: where it begins in each, and its
lines.  A reviewer sees it with its lines numbered, and can still read from its text
where it begins (`Hunk.lineNumbers_shown`), as from the text that is cut out of a patch
for a header (`lineNumbers_change`).  `Hunk.lead` says which hunks make up a correct diff.
-/

namespace Redline.Diff

/-- A line of a hunk. -/
inductive Line where
  | context (t : Text)
  | added (t : Text)
  | removed (t : Text)
  | note (t : Text)

namespace Line

def text : Line → Text
  | context t => ' ' :: t
  | added t => '+' :: t
  | removed t => '-' :: t
  | note t => '\\' :: t

def content : Line → Text
  | context t | added t | removed t | note t => t

def isAdded : Line → Bool
  | added _ => true
  | _ => false

def isRemoved : Line → Bool
  | removed _ => true
  | _ => false

def inOld : Line → Bool
  | context _ | removed _ => true
  | _ => false

def inNew : Line → Bool
  | context _ | added _ => true
  | _ => false

end Line

/-- A hunk. -/
structure Hunk where
  old : Nat
  /-- The number of its lines in the old file, which may be left out. -/
  oldCount : Option Nat := none
  new : Nat
  newCount : Option Nat := none
  tail : Text := []
  lines : List Line

namespace Hunk

def countText : Option Nat → Text
  | none => []
  | some n => ',' :: Number.natText n

def mark (k : Hunk) : Text :=
  Diff.mark (Number.natText k.old) (countText k.oldCount) (Number.natText k.new) (countText k.newCount)

def text (k : Hunk) : Text := Text.unlines ((k.mark ++ k.tail) :: k.lines.map Line.text)

def shown (k : Hunk) : Text := annotate (Text.strip k.text) k.old k.new

/-- The numbers of those lines that are picked.  Only some lines are counted. -/
def numbersFrom (counted picked : Line → Bool) (line : Nat) : List Line → List Nat
  | [] => []
  | l :: ls =>
      (if picked l then [line] else []) ++ numbersFrom counted picked (if counted l then line + 1 else line) ls

/-- The lines that a hunk removes, by their numbers in the old file. -/
def removed (k : Hunk) : List Nat := numbersFrom Line.inOld Line.isRemoved k.old k.lines

/-- The lines that a hunk adds, by their numbers in the new file. -/
def added (k : Hunk) : List Nat := numbersFrom Line.inNew Line.isAdded k.new k.lines

end Hunk

/-! ## The numbers of a hunk -/

theorem isCount_countText (count : Option Nat) : IsCount (Hunk.countText count) := by
  cases count with
  | none => exact .nothing
  | some n => exact .number (isNumber_natText n)

section

variable {t : Text} {old new : Nat}

/-- The numbers that a text starts with do not depend on what stands behind them. -/
theorem lineNumbers_mark {o oc n nc : Text} (ho : IsNumber o) (hoc : IsCount oc) (hn : IsNumber n)
    (hnc : IsCount nc) (x : Text) : lineNumbers (Diff.mark o oc n nc ++ x) = (do
      let old ← lineNumber o
      let new ← lineNumber n
      return some (old, new)) := by
  rw [lineNumbers, readHeader_mark ho hoc hn hnc]

/-- A hunk as it is shown starts with its mark. -/
theorem shown_mark {o oc n nc : Text} (ho : IsNumber o) (hoc : IsCount oc) (hn : IsNumber n) (hnc : IsCount nc)
    (x : Text) (old new : Int) :
    ∃ y, annotate (Text.strip (Diff.mark o oc n nc ++ x)) old new = Diff.mark o oc n nc ++ y := by
  rw [strip_mark]
  exact annotate_leading (not_mem_mark ho hoc hn hnc) _ old new

theorem Hunk.lineNumbers_shown {k : Hunk} (h : lineNumbers k.shown = .ok (some (old, new))) :
    old = k.old ∧ new = k.new := by
  have htext : ∃ x, k.text = k.mark ++ x := by
    unfold Hunk.text
    cases k.lines.map Line.text with
    | nil => exact ⟨k.tail, by simp [Text.unlines]⟩
    | cons l ls => exact ⟨k.tail ++ '\n' :: Text.unlines (l :: ls), by simp [Text.unlines]⟩
  obtain ⟨x, hx⟩ := htext
  have hold := isNumber_natText k.old
  have hnew := isNumber_natText k.new
  have holdCount := isCount_countText k.oldCount
  have hnewCount := isCount_countText k.newCount
  obtain ⟨y, hy⟩ := shown_mark hold holdCount hnew hnewCount x k.old k.new
  rw [Hunk.shown, hx, Hunk.mark, hy, lineNumbers_mark hold holdCount hnew hnewCount] at h
  obtain ⟨o, ho, h⟩ := except_bind_eq_ok.1 h
  obtain ⟨n, hn, h⟩ := except_bind_eq_ok.1 h
  cases h
  exact ⟨lineNumber_natText ho, lineNumber_natText hn⟩

theorem find?_leads {pattern t : Text} {i : Nat} (h : Text.find? pattern t = some i) :
    ∃ x, t.drop i = pattern ++ x := by
  induction t generalizing i with
  | nil =>
      unfold Text.find? at h
      split at h
      next hempty =>
        cases h
        exact ⟨[], by rw [List.isEmpty_iff.1 hempty]; rfl⟩
      next => cases h
  | cons c t ih =>
      unfold Text.find? at h
      split at h
      next hpre =>
        cases h
        obtain ⟨x, hx⟩ := List.isPrefixOf_iff_prefix.1 hpre
        exact ⟨x, hx.symm⟩
      next =>
        obtain ⟨j, hj, rfl⟩ := Option.map_eq_some_iff.1 h
        exact ih hj

theorem hunkText_leads {patch header : Text} {start : Nat} (h : Text.find? header patch = some start) :
    ∃ x, hunkText patch header start = Text.strip (header ++ x) := by
  obtain ⟨x, hx⟩ := find?_leads h
  unfold hunkText
  rw [hx]
  dsimp only
  rw [List.drop_left]
  cases nextHeader? x with
  | none => exact ⟨x, rfl⟩
  | some n => exact ⟨x.take n, congrArg Text.strip (List.take_length_add_append n)⟩

/-- The text of a change has the numbers of its header. -/
theorem lineNumbers_change {patch header : Text} {c : Change} (hc : change patch header = .ok c)
    (h : lineNumbers header = .ok (some (old, new))) : lineNumbers c.text = .ok (some (old, new)) := by
  unfold change at hc
  split at hc
  next =>
    cases hc
    exact h
  next start hfind =>
    rw [h] at hc
    obtain ⟨x, hx⟩ := hunkText_leads hfind
    obtain ⟨o, n, rest, hread⟩ : ∃ o n rest, readHeader header = some (o, n, rest) := by
      unfold lineNumbers at h
      split at h
      next => cases h
      next o n rest hread => exact ⟨o, n, rest, hread⟩
    obtain ⟨oc, nc, ho, hoc, hn, hnc, hheader⟩ := readHeader_eq_some hread
    obtain ⟨y, hy⟩ := shown_mark ho hoc hn hnc (rest ++ x) old new
    have htext : c.text = Diff.mark o oc n nc ++ y := by
      dsimp only at hc
      cases hnumbered : numberedFrom (hunkText patch header start) old new with
      | error e =>
          rw [hnumbered] at hc
          cases hc
      | ok t =>
          rw [hnumbered] at hc
          cases hc
          obtain ⟨-, -, heq⟩ := except_bind_eq_ok.1 hnumbered
          cases heq
          rw [hx, ← hy, ← List.append_assoc, ← hheader]
    rw [htext, lineNumbers_mark ho hoc hn hnc, ← lineNumbers_mark ho hoc hn hnc rest, ← hheader, h]

end

/-! ## The changed lines of a hunk -/

namespace Hunk

variable {counted picked : Line → Bool}

theorem le_of_mem_numbersFrom {ls : List Line} {line n : Nat} (h : n ∈ numbersFrom counted picked line ls) :
    line ≤ n := by
  induction ls generalizing line with
  | nil => cases h
  | cons l ls ih =>
      rcases List.mem_append.1 h with h | h
      · split at h
        next => exact Nat.le_of_eq (List.mem_singleton.1 h).symm
        next => cases h
      · have := ih h
        split at this <;> omega

theorem pairwise_numbersFrom (ls : List Line) (line : Nat) :
    (line :: numbersFrom counted picked line ls).Pairwise (· ≤ ·) := by
  refine List.pairwise_cons.2 ⟨fun n hn => le_of_mem_numbersFrom hn, ?_⟩
  induction ls generalizing line with
  | nil => exact List.Pairwise.nil
  | cons l ls ih =>
      rw [numbersFrom, List.pairwise_append]
      refine ⟨?_, ih _, fun n hn m hm => ?_⟩
      · split
        · exact List.pairwise_singleton _ _
        · exact List.Pairwise.nil
      · have hm := le_of_mem_numbersFrom hm
        split at hn
        next =>
          rw [List.mem_singleton.1 hn]
          split at hm <;> omega
        next => cases hn

end Hunk

/-! ## Correct diffs -/

namespace Hunk

def side (k : Hunk) (inFile : Line → Bool) : List Text := (k.lines.filter inFile).map Line.content

/-- The first line that a hunk shows.  A hunk that shows none is told by the line before
it. -/
def startOf (line : Nat) (shown : List Text) : Nat := if shown.isEmpty then line + 1 else line

/-- Whether hunks lead from some lines to others.  The lines are counted, and between
hunks they are the same. -/
def lead (old new : Nat) : List Hunk → List Text → List Text → Bool
  | [], before, after => before == after
  | k :: ks, before, after =>
      let olds := k.side Line.inOld
      let news := k.side Line.inNew
      let gap := startOf k.old olds - old
      startOf k.old olds == old + gap && startOf k.new news == new + gap
        && k.oldCount.getD 1 == olds.length && k.newCount.getD 1 == news.length
        && decide (gap ≤ before.length) && before.take gap == after.take gap
        && olds.isPrefixOf (before.drop gap) && news.isPrefixOf (after.drop gap)
        && lead (old + gap + olds.length) (new + gap + news.length) ks
          (before.drop (gap + olds.length)) (after.drop (gap + news.length))

end Hunk

end Redline.Diff
