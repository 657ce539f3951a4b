import Redline.Proofs.Patch.Consistency

/-!
# Code units and windows

The code around a line is that of its code unit if the file has a tree that reaches to the
line, and else a window of paragraphs.  The two count lines in different ways: a tree by
line feeds, and a window by the marks of all conventions.  Either way the code encloses the
line.  There is none only for a line that is behind both ends (`extract_encloses_line`).
-/

namespace Redline

namespace Outline

/-! ## The tree that comes next -/

/-- The tree that the next lookup and the next parse give, if they do. -/
def Parsers.next? (q : Parsers) (language : String) (t : Text) : Option Tree :=
  match q.lookup q.looked language, q.outcome q.parsed language t with
  | .found, .tree tree => some tree
  | _, _ => none

theorem parse?_next (q : Parsers) (language : String) (t : Text) :
    ∃ r, parse? language t q = .ok (q.next? language t) r := by
  unfold parse? recover parse runParser Parsers.next?
  cases q.lookup q.looked language with
  | absent => exact ⟨_, rfl⟩
  | failed reason => exact ⟨_, rfl⟩
  | found =>
      dsimp only
      cases q.outcome q.parsed language t with
      | tree tree => exact ⟨_, rfl⟩
      | nothing => exact ⟨_, rfl⟩
      | failed reason => exact ⟨_, rfl⟩

theorem Parsers.Follows.next? {q : Parsers} {f : String → Text → Tree} (hq : q.Follows f) {language : String}
    {t : Text} {tree : Tree} (h : q.next? language t = some tree) : tree = f language t := by
  unfold Parsers.next? at h
  split at h
  next _ tree' _ houtcome =>
    cases h
    exact hq _ _ _ _ houtcome
  next => cases h

/-! ## The rows of a tree -/

theorem codeUnit?_eq_none_iff {root : Node} {line : Int} :
    root.codeUnit? line = none ↔ root.covers (line - 1) = false := by
  unfold Node.codeUnit? Node.place?
  cases h : root.covers (line - 1) with
  | false =>
      have hplace : root.placeUnder (·.covers (line - 1)) [] = none := placeUnder_of_not_hit h
      simp [hplace]
  | true =>
      have hplace : root.placeUnder (·.covers (line - 1)) [] = some _ := placeUnder_of_hit h
      simp [hplace]

/-- Marking errors moves no row. -/
theorem buildMarked_rows (marker : Option Text) (language : String) (t : Text) :
    (buildMarked marker language t).first.row = 0 ∧
      (buildMarked marker language t).last.row + 1 = t.lines.length := by
  have hlast := last_row_build language t
  cases marker with
  | none => exact ⟨rfl, hlast⟩
  | some m => exact ⟨rfl, hlast⟩

/-- A tree of a text, with errors marked in it or not, has a code unit for each line of the text and
for no other. -/
theorem codeUnit?_buildMarked {marker : Option Text} {language : String} {t : Text} {line : Int} (hline : 1 ≤ line) :
    (∃ n, (buildMarked marker language t).codeUnit? line = some n) ↔ line ≤ t.lines.length := by
  obtain ⟨hfirst, hlast⟩ := buildMarked_rows marker language t
  rw [← Option.isSome_iff_exists, ← Option.ne_none_iff_isSome, Ne, codeUnit?_eq_none_iff, Bool.not_eq_false,
    Node.covers_iff]
  omega

end Outline

namespace Context

open Outline

/-! ## The two ways to the code -/

/-- The tree of a file that comes next, if it has a language. -/
def nextTree? (q : Parsers) (path : String) (content : Text) : Option Tree :=
  (languageOf? path).bind fun language => q.next? language content

theorem treeOf_next (q : Parsers) (path : String) (content : Text) :
    ∃ r, treeOf path content q = .ok (nextTree? q path content) r := by
  unfold treeOf nextTree?
  cases languageOf? path with
  | none => exact ⟨q, rfl⟩
  | some language => exact parse?_next q language content

/-- The tree of a file reaches to a line: there is a tree, and the line is one of those between the
line feeds. -/
def Reaches (q : Parsers) (path : String) (content : Text) (line : Int) : Prop :=
  (nextTree? q path content).isSome = true ∧ line ≤ content.lines.length

section

variable {path : String} {content : Text} {line : Int} {q : Parsers} {marker : Option Text}

/-- The code around a line is its code unit if the tree reaches to the line, and else a window. -/
theorem extract_cases (hq : q.Follows fun language t => .whole (buildMarked marker language t)) (hline : 1 ≤ line) :
    ∃ found r, extract path content (.int line) q = .ok found r ∧
      ((Reaches q path content line ∧ ∃ language n, languageOf? path = some language ∧
          (buildMarked marker language content).codeUnit? line = some n ∧ found = some (ofNode path content n)) ∨
        ¬Reaches q path content line ∧ found = windowOf path content line) := by
  obtain ⟨r, htree⟩ := treeOf_next q path content
  unfold Reaches extract
  rw [bind_of_ok htree]
  cases hnext : nextTree? q path content with
  | none =>
      refine ⟨_, r, ?_, Or.inr ⟨fun h => Bool.false_ne_true h.1, rfl⟩⟩
      rw [window_int]
      rfl
  | some tree =>
      obtain ⟨language, hlanguage, htree⟩ := Option.bind_eq_some_iff.1 hnext
      obtain rfl := hq.next? htree
      dsimp only
      rw [unitIn_int]
      have hunit : (∃ n, (buildMarked marker language content).codeUnit? line = some n) ↔ _ :=
        codeUnit?_buildMarked hline
      cases hn : (buildMarked marker language content).codeUnit? line with
      | some n =>
          refine ⟨_, r, rfl, Or.inl ⟨⟨rfl, hunit.1 ⟨n, hn⟩⟩, language, n, hlanguage, hn, rfl⟩⟩
      | none =>
          refine ⟨_, r, ?_, Or.inr ⟨fun h => ?_, rfl⟩⟩
          · rw [window_int]
            rfl
          · obtain ⟨n, hn'⟩ := hunit.2 h.2
            cases hn.symm.trans hn'

/-! ## Windows -/

/-- There is a window around every line that is not behind the paragraphs. -/
theorem windowOf_eq_none (hline : 1 ≤ line) :
    windowOf path content line = none ↔ (content.paragraphs.length : Int) < line := by
  unfold windowOf windowAt
  cases hlines : content.paragraphs with
  | nil => simp; omega
  | cons l ls => simp

/-- The paragraphs between the first and the last line that an excerpt names. -/
def paragraphsOf (content : Text) (e : Excerpt) : List Text :=
  Text.slice content.paragraphs (e.context.startLine - 1) e.context.endLine

theorem length_slice {α : Type} {ls : List α} {i j : Int} (hi : 0 ≤ i) (hij : i ≤ j) (hj : j ≤ ls.length) :
    ((Text.slice ls i j).length : Int) = j - i := by
  obtain ⟨a, rfl⟩ := Int.eq_ofNat_of_zero_le hi
  obtain ⟨b, rfl⟩ := Int.eq_ofNat_of_zero_le (Int.le_trans hi hij)
  rw [Text.slice_natCast, List.length_drop, List.length_take]
  omega

/-- A window encloses its line and shows the paragraphs that it names. -/
theorem windowOf_shows (hline : 1 ≤ line) {e : Excerpt} (h : windowOf path content line = some e) :
    (1 ≤ e.context.startLine ∧ e.context.startLine ≤ line ∧ line ≤ e.context.endLine) ∧
      e.code = Text.unlines (paragraphsOf content e) ∧ (paragraphsOf content e).length ≤ 31 ∧
      e.context.endLine ≤ content.paragraphs.length ∧ e.context.path = path ∧ e.context.kind = none := by
  have hsome : ¬(content.paragraphs.length : Int) < line := by
    intro hbehind
    rw [(windowOf_eq_none hline).2 hbehind] at h
    cases h
  have he : e = linesBetween path content.paragraphs (max 1 (line - reach))
      (min (content.paragraphs.length : Int) (line + reach)) := by
    unfold windowOf windowAt at h
    split at h
    next => cases h
    next => exact (Option.some.inj h).symm
  have hstart : e.context.startLine = max 1 (line - 15) := by rw [he]; rfl
  have hend : e.context.endLine = min (content.paragraphs.length : Int) (line + 15) := by rw [he]; rfl
  have hlength : ((paragraphsOf content e).length : Int) = e.context.endLine - (e.context.startLine - 1) :=
    length_slice (by omega) (by omega) (by omega)
  refine ⟨by omega, ?_, by omega, by omega, ?_, ?_⟩
  · rw [paragraphsOf, he]
    rfl
  · rw [he]
    rfl
  · rw [he]
    rfl

end

/-! ## All that can be told about a line -/

variable {path : String} {content : Text} {line : Int} {q : Parsers} {marker : Option Text}

/-- Whatever the parsers do, the code around a line can be asked for, and if there is some it encloses
the line.  It is that of the code unit of the line if the tree of the file reaches to the line.
Otherwise it is a window of at most 31 paragraphs, and there is none exactly if the line is
behind them. -/
theorem extract_encloses_line (hq : q.Follows fun language t => .whole (buildMarked marker language t))
    (hline : 1 ≤ line) :
    ∃ found r, extract path content (.int line) q = .ok found r ∧
      (∀ e, found = some e → 1 ≤ e.context.startLine ∧ e.context.startLine ≤ line ∧ line ≤ e.context.endLine) ∧
      (Reaches q path content line → ∃ language n, languageOf? path = some language ∧
        (buildMarked marker language content).codeUnit? line = some n ∧ found = some (ofNode path content n)) ∧
      (¬Reaches q path content line → ∀ e, found = some e →
        e.code = Text.unlines (paragraphsOf content e) ∧ (paragraphsOf content e).length ≤ 31 ∧
          e.context.endLine ≤ content.paragraphs.length ∧ e.context.path = path ∧ e.context.kind = none) ∧
      (found = none ↔ ¬Reaches q path content line ∧ (content.paragraphs.length : Int) < line) := by
  obtain ⟨found, r, hextract, hcases⟩ : ∃ found r, extract path content (.int line) q = .ok found r ∧ _ :=
    extract_cases hq hline
  refine ⟨found, r, hextract, ?_⟩
  rcases hcases with ⟨hreaches, language, n, hlanguage, hn, rfl⟩ | ⟨hnot, rfl⟩
  · refine ⟨fun e he => ?_, fun _ => ⟨language, n, hlanguage, hn, rfl⟩, fun hnot => absurd hreaches hnot, ?_⟩
    · cases he
      have hcovers := codeUnit?_covers hn
      simp only [ofNode]
      omega
    · exact ⟨nofun, fun h => absurd hreaches h.1⟩
  · refine ⟨fun e he => (windowOf_shows hline he).1, fun hreaches => absurd hreaches hnot,
      fun _ e he => (windowOf_shows hline he).2, ?_⟩
    rw [windowOf_eq_none hline]
    exact ⟨fun h => ⟨hnot, h⟩, And.right⟩

/-- Three lines with a mark of another convention between each two, so that there is no line feed. -/
def oldLines : Text := "a\rb\rc".toList

theorem follows_sound : Parsers.sound.Follows fun language t => .whole (buildMarked none language t) := by
  intro count language t tree h
  cases h
  rfl

/-- The tree of such a text ends at its first line, so that the others are shown by a window. -/
theorem extract_encloses_oldLines : Parsers.sound.Follows (fun language t => .whole (buildMarked none language t)) ∧
    ¬Reaches Parsers.sound "a.py" oldLines 3 ∧
    ∃ e r, extract "a.py" oldLines (.int 3) Parsers.sound = .ok (some e) r ∧
      e.code = Text.unlines (paragraphsOf oldLines e) ∧ 1 ≤ e.context.startLine ∧ 3 ≤ e.context.endLine := by
  have hnot : ¬Reaches Parsers.sound "a.py" oldLines 3 := by
    rintro ⟨-, hle⟩
    revert hle
    decide
  refine ⟨follows_sound, hnot, ?_⟩
  obtain ⟨found, r, hextract, hbounds, -, hwindow, hnone⟩ :=
    @extract_encloses_line "a.py" oldLines 3 Parsers.sound none follows_sound (by decide)
  cases found with
  | none => exact absurd (hnone.1 rfl).2 (by decide)
  | some e =>
      obtain ⟨hfirst, -, hlast⟩ := hbounds e rfl
      exact ⟨e, r, hextract, (hwindow hnot e rfl).1, hfirst, hlast⟩

end Context

end Redline
