import Redline.Proofs.Patch.Outcome

/-!
# Imports on lines of their own

New imports go behind a top node of the file or to its very start.  A top node
ends at the end of a line, and that line is not empty.  So behind it the imports
need a line feed before them, and they get one if anything follows in the file.
They are then lines of their own, with an empty line behind them.  At the very end
of a file they get none, and the first of them is glued to the last line of the
file (`imports_on_own_lines_iff`).
-/

namespace Redline

open Outline
open Text (lines unlines allBlank)

/-- Some lines are other lines with a run of lines put between them, and with at
most one more empty line. -/
def LinesInserted (old run new : List Text) : Prop :=
  ∃ base above below, (base = old ∨ ∃ a b, old = a ++ b ∧ base = a ++ [] :: b) ∧
    base = above ++ below ∧ new = above ++ run ++ below

/-! ## Where a top node ends -/

namespace Outline

theorem length_lines (t : Text) : (lines t).length = t.count '\n' + 1 := by
  have h := count_unlines (fun _ hl => not_mem_of_mem_lines hl) (Text.lines_ne_nil t)
  rw [Text.unlines_lines] at h
  exact h.symm

/-- The last line that is left is not blank. -/
theorem trimLines_last {ls a : List Text} {l : Text} (h : trimLines ls = a ++ [l]) : allBlank l = false := by
  have hrev : ls.reverse.dropWhile allBlank = l :: a.reverse := by
    rw [← List.reverse_reverse (ls.reverse.dropWhile allBlank), ← trimLines, h, List.reverse_concat]
  have hne : ls.reverse.dropWhile allBlank ≠ [] := by
    rw [hrev]
    exact List.cons_ne_nil _ _
  have hhead := List.head_dropWhile_not allBlank hne
  simpa only [hrev, List.head_cons] using hhead

/-- The last line of a section is not empty. -/
theorem Section.lines_last {s : Section} (h : opens s.head = true) :
    ∃ a l c, s.lines = a ++ [l ++ [c]] := by
  have hlast : ∃ a l, s.lines = a ++ [l] ∧ l ≠ [] := by
    rcases List.eq_nil_or_concat (trimLines s.body) with hnil | ⟨a, l, hbody⟩
    · refine ⟨[], s.head, by rw [Section.lines, hnil]; rfl, ?_⟩
      exact List.ne_nil_of_length_pos (opens_length h)
    · refine ⟨s.head :: a, l, by rw [Section.lines, hbody]; simp, ?_⟩
      rintro rfl
      exact absurd (trimLines_last (hbody.trans List.concat_eq_append)) (by decide)
  obtain ⟨a, l, hlines, hl⟩ := hlast
  obtain ⟨l', c, rfl⟩ := (List.eq_nil_or_concat l).resolve_left hl
  exact ⟨a, l', c, by rw [hlines, List.concat_eq_append]⟩

/-- A position at the very start of a text, or behind a line that is not empty. -/
inductive Gap : Text → Nat → Prop where
  | start (t : Text) : Gap t 0
  /-- Another line follows. -/
  | between (x : Text) {c : Char} (hc : c ≠ '\n') (z : Text) : Gap (x ++ [c] ++ '\n' :: z) (x ++ [c]).length
  | stop (x : Text) {c : Char} (hc : c ≠ '\n') : Gap (x ++ [c]) (x ++ [c]).length

theorem Gap.le_length {t : Text} {position : Nat} (h : Gap t position) : position ≤ t.length := by
  cases h with
  | start => exact Nat.zero_le _
  | between x hc z => simp
  | stop x hc => exact Nat.le_refl _

/-- Lines that stand in a text end in a gap if the last of them is not empty. -/
theorem Stands.gap {t : Text} {row offset : Nat} {a : List Text} {l : Text} {c : Char}
    (h : Stands t row offset (a ++ [l ++ [c]])) : Gap t (offset + (unlines (a ++ [l ++ [c]])).length) := by
  obtain ⟨above, below, hlines, -, hoffset⟩ := h
  have hc : c ≠ '\n' := by
    rintro rfl
    exact not_mem_of_mem_lines (t := t) (l := l ++ ['\n']) (by rw [hlines]; simp) (by simp)
  have hjoin : unlines (a ++ [l ++ [c]]) = closed a ++ l ++ [c] := by
    rw [unlines_append (List.cons_ne_nil _ _)]
    simp [unlines]
  have hstop : offset + (unlines (a ++ [l ++ [c]])).length = (closed above ++ (closed a ++ l) ++ [c]).length := by
    rw [hjoin, ← hoffset]
    simp only [List.length_append, length_closed, List.length_singleton]
    omega
  have htext : t = closed above ++ unlines (a ++ [l ++ [c]] ++ below) := by
    rw [← unlines_append (by simp), ← hlines, Text.unlines_lines]
  rw [hstop, htext]
  cases below with
  | nil =>
      rw [List.append_nil, hjoin, ← List.append_assoc]
      exact .stop _ hc
  | cons m ms =>
      have hclosed : closed (a ++ [l ++ [c]]) = closed a ++ l ++ [c] ++ ['\n'] := by
        rw [closed_eq (by simp), hjoin]
      have hmore : closed above ++ unlines (a ++ [l ++ [c]] ++ m :: ms) =
          closed above ++ (closed a ++ l) ++ [c] ++ '\n' :: unlines (m :: ms) := by
        rw [unlines_append (List.cons_ne_nil m ms), hclosed]
        simp
      rw [hmore]
      exact .between _ hc _

end Outline

namespace Patcher

section

variable {path language : String} {content imports : Text} {q : Parsers}

theorem importPoint_gap (language : String) (content : Text) : Gap content (importPoint language content).2 := by
  rcases Nat.eq_zero_or_pos (importPoint language content).2 with hzero | hpos
  · rw [hzero]
    exact .start content
  obtain ⟨n, hn, hstop⟩ := insertionAmong_stop hpos
  obtain ⟨s, hs, rfl⟩ := List.mem_map.1 hn
  obtain ⟨hstands, hopen⟩ := sections_stands (stands_lines content) hs
  obtain ⟨a, l, c, hlines⟩ := Section.lines_last hopen
  have hstands' := hstands.of_leading s.lines_lead
  rw [importPoint, ← hstop, Section.node_stop]
  rw [hlines] at hstands' ⊢
  exact hstands'.gap

theorem registerImports_fresh (himports : allBlank imports = false) (suggestions : List String) :
    (fresh path language content).registerImports imports suggestions =
      .ok (some ((fresh path language content).importModification (importPoint language content) imports suggestions),
        { fresh path language content with
          modifications :=
            [(fresh path language content).importModification (importPoint language content) imports suggestions] }) := by
  rw [registerImports, himports, insertionPoint_fresh]
  rfl

/-- A modification that replaces nothing puts its text in its place. -/
theorem apply_insertion {p : Patcher} {m : Modification} {root : Node} {k : Nat} (hq : q.Faultless)
    (htree : p.tree = some (.whole root)) (htarget : m.target = []) (hstart : m.start = k) (hstop : m.stop = k) :
    ∃ p' r, p.apply m q = .ok (.applied p'.content, p') r ∧
      p'.content = p.content.take k ++ m.replacement ++ p.content.drop k := by
  obtain ⟨r, hparse, -⟩ :=
    parse_faultless hq (p.language.getD "") (p.content.splice m.start m.stop m.replacement)
  have hown : Text.strip (Text.slice p.content m.start m.stop) = m.target.strip := by
    rw [hstart, hstop, htarget, Text.slice_natCast, List.drop_eq_nil_of_le (List.length_take_le _ _)]
  refine ⟨p.edited m.start m.stop m (p.content.splice m.start m.stop m.replacement) _, r,
    apply_of_finds (.held htree) (.own hown) rfl hparse, ?_⟩
  rw [edited, hstart, hstop, Text.splice_natCast]

/-- New imports are registered and applied, and stand where imports go. -/
theorem apply_registerImports (path language : String) (content : Text) (hq : q.Faultless)
    (himports : allBlank imports = false) (suggestions : List String) :
    ∃ m p₁ p' r, (fresh path language content).registerImports imports suggestions = .ok (some m, p₁) ∧
      p₁.apply m q = .ok (.applied p'.content, p') r ∧
      p'.content = content.take (importPoint language content).2 ++
        importText content imports (importPoint language content).2 ++
          content.drop (importPoint language content).2 := by
  let m := (fresh path language content).importModification (importPoint language content) imports suggestions
  obtain ⟨p', r, happly, hcontent⟩ := apply_insertion (p := { fresh path language content with modifications := [m] })
    (m := m) hq rfl rfl rfl rfl
  exact ⟨m, _, p', r, registerImports_fresh himports suggestions, happly, hcontent⟩

end

/-! ## The lines of the new text -/

section

variable {content imports : Text}

/-- A text that stays the same when its last character comes to the front is made of
this character. -/
theorem all_eq_of_append_eq_cons {c : Char} {t : Text} (h : t ++ [c] = c :: t) : ∀ d ∈ t, d = c := by
  induction t with
  | nil => exact fun d hd => absurd hd List.not_mem_nil
  | cons d t ih =>
      obtain ⟨rfl, htail⟩ := List.cons_eq_cons.1 h
      intro e he
      rcases List.mem_cons.1 he with rfl | he
      · rfl
      · exact ih htail e he

/-- Imports that follow the last line of a text without a line feed alter that
line. -/
theorem not_linesInserted_end {x : Text} {c : Char} (hc : c ≠ '\n') (himports : allBlank imports = false) :
    ¬ LinesInserted (lines (x ++ [c])) imports.lines (lines (x ++ [c] ++ (imports ++ ['\n']))) := by
  rintro ⟨base, above, below, hbase, hsplit, hnew⟩
  have hlength : (lines (x ++ [c] ++ (imports ++ ['\n']))).length =
      (lines (x ++ [c])).length + imports.lines.length := by
    simp only [length_lines, List.count_append, List.count_singleton_self]
    omega
  have hold : lines (x ++ [c]) = above ++ below := by
    rcases hbase with rfl | ⟨a, b, hab, rfl⟩
    · exact hsplit
    · have hcount := congrArg List.length hsplit
      rw [hnew, hab] at hlength
      simp only [List.length_append, List.length_cons] at hlength hcount
      omega
  rcases List.eq_nil_or_concat below with rfl | ⟨below, l, hbelow⟩
  · -- the imports come last, so a line feed stands before them
    have htext : x ++ [c] ++ (imports ++ ['\n']) = x ++ [c] ++ ('\n' :: imports) := by
      rw [← Text.unlines_lines (x ++ [c] ++ (imports ++ ['\n'])), hnew, List.append_nil, ← List.append_nil above,
        ← hold, unlines_append (Text.lines_ne_nil imports), closed_eq (Text.lines_ne_nil _), Text.unlines_lines,
        Text.unlines_lines]
      simp
    have hfeeds := all_eq_of_append_eq_cons (List.append_cancel_left htext)
    have hblank : allBlank imports = true := List.all_eq_true.2 fun d hd => by
      rw [hfeeds d hd]
      decide
    rw [hblank] at himports
    cases himports
  · -- the new text ends in an empty line, and the old one does not
    rw [hbelow, List.concat_eq_append, ← List.append_assoc] at hold hnew
    have hlast : l = [] := by
      rw [← List.append_assoc, Text.lines_append_feed] at hnew
      exact List.singleton_inj.1 (List.append_inj_right' hnew rfl).symm
    have htext : x ++ [c] = closed (above ++ below) := by
      rw [← Text.unlines_lines (x ++ [c]), hold, hlast, unlines_append (List.cons_ne_nil _ _)]
      simp [unlines]
    have hne : above ++ below ≠ [] := by
      intro hnil
      rw [hnil] at htext
      exact List.append_ne_nil_of_right_ne_nil x (List.cons_ne_nil c []) htext
    rw [closed_eq hne] at htext
    exact hc (List.singleton_inj.1 (List.append_inj_right' htext rfl))

theorem importText_start (content imports : Text) : importText content imports 0 = imports ++ ['\n'] := rfl

theorem importText_between {c : Char} (hc : c ≠ '\n') (x z imports : Text) :
    importText (x ++ [c] ++ '\n' :: z) imports (x ++ [c]).length = '\n' :: (imports ++ ['\n']) := by
  have hlast : (x ++ [c] ++ '\n' :: z).getD ((x ++ [c]).length - 1) '\n' = c := by simp
  rw [importText, hlast, if_pos]
  simp [hc]

theorem importText_stop (content imports : Text) : importText content imports content.length = imports ++ ['\n'] := by
  simp [importText]

/-- Imports in a gap are lines of their own, unless the gap is the end of a text that
is not empty. -/
theorem linesInserted_gap_iff {position : Nat} (h : Gap content position) (himports : allBlank imports = false) :
    LinesInserted content.lines imports.lines
        (lines (content.take position ++ importText content imports position ++ content.drop position)) ↔
      position = 0 ∨ position < content.length := by
  cases h with
  | start =>
      refine iff_of_true ⟨content.lines, [], content.lines, Or.inl rfl, rfl, ?_⟩ (Or.inl rfl)
      rw [importText_start, List.take_zero, List.drop_zero, List.nil_append, List.append_assoc]
      exact Text.lines_append_feed imports content
  | @between x c hc z =>
      refine iff_of_true ⟨lines (x ++ [c]) ++ [] :: z.lines, lines (x ++ [c]), [] :: z.lines,
        Or.inr ⟨lines (x ++ [c]), z.lines, Text.lines_append_feed _ z, rfl⟩, rfl, ?_⟩ (Or.inr ?_)
      · rw [importText_between hc, List.take_left, List.drop_left]
        have htext : x ++ [c] ++ '\n' :: (imports ++ ['\n']) ++ '\n' :: z =
            x ++ [c] ++ '\n' :: (imports ++ '\n' :: '\n' :: z) := by simp
        rw [htext, Text.lines_append_feed, Text.lines_append_feed, List.append_assoc]
        rfl
      · simp
  | @stop x c hc =>
      rw [importText_stop, List.take_length, List.drop_length, List.append_nil]
      exact iff_of_false (not_linesInserted_end hc himports) (by simp)

end

/-- New imports of a file are registered and applied.  They are then lines of their
own, unless they go to the very end of a text that is not empty.  There they follow
the last line without a line feed. -/
theorem imports_on_own_lines_iff {path language : String} {imports : Text} {q : Parsers}
    (hlang : languageOf? path = some language) (hq : q.Faultless) (himports : allBlank imports = false)
    (content : Text) (suggestions : List String) :
    ∃ p q₁ row position m p₁ p' r, Patcher.open path content q = .ok p q₁ ∧
      p.insertionPoint = .ok (row, position) ∧ position ≤ content.length ∧
      p.registerImports imports suggestions = .ok (some m, p₁) ∧
      p₁.apply m q₁ = .ok (.applied p'.content, p') r ∧
      (LinesInserted content.lines imports.lines p'.content.lines ↔ position = 0 ∨ position < content.length) ∧
      (position = content.length → p'.content = content ++ imports ++ ['\n']) := by
  obtain ⟨q₁, hq₁, hopen⟩ : ∃ q₁, q₁.Faultless ∧ Patcher.open path content q = .ok (fresh path language content) q₁ :=
    open_faultless hlang hq
  obtain ⟨m, p₁, p', r, hregister, happly, hcontent⟩ :=
    apply_registerImports path language content hq₁ himports suggestions
  have hgap := importPoint_gap language content
  have hlines := linesInserted_gap_iff hgap himports
  rw [← hcontent] at hlines
  refine ⟨_, q₁, (importPoint language content).1, (importPoint language content).2, m, p₁, p', r, hopen,
    insertionPoint_fresh, hgap.le_length, hregister, happly, hlines, fun hend => ?_⟩
  rw [hcontent, hend, importText_stop, List.take_length, List.drop_length, List.append_nil, List.append_assoc]

theorem imports_of_greeting : languageOf? "a.py" = some "python" ∧ Parsers.sound.Faultless ∧
    allBlank "import sys".toList = false ∧ ∃ p q₁ m p₁ p' r,
      Patcher.open "a.py" greeting Parsers.sound = .ok p q₁ ∧
      p.registerImports "import sys".toList ["5"] = .ok (some m, p₁) ∧
      p₁.apply m q₁ = .ok (.applied p'.content, p') r ∧
      LinesInserted greeting.lines (lines "import sys".toList) p'.content.lines := by
  have hlang : languageOf? "a.py" = some "python" := by decide +kernel
  have himports : allBlank "import sys".toList = false := by decide
  have hplace : importPoint "python" greeting = (0, 9) := by decide +kernel
  refine ⟨hlang, Parsers.faultless_sound, himports, ?_⟩
  obtain ⟨p, q₁, row, position, m, p₁, p', r, hopen, hpoint, -, hregister, happly, hlines, -⟩ :=
    imports_on_own_lines_iff hlang Parsers.faultless_sound himports greeting ["5"]
  refine ⟨p, q₁, m, p₁, p', r, hopen, hregister, happly, hlines.2 (Or.inr ?_)⟩
  obtain ⟨q₂, -, hopen'⟩ : ∃ q₂, q₂.Faultless ∧
      Patcher.open "a.py" greeting Parsers.sound = .ok (fresh "a.py" "python" greeting) q₂ :=
    open_faultless hlang Parsers.faultless_sound
  cases hopen.symm.trans hopen'
  rw [insertionPoint_fresh, hplace] at hpoint
  cases hpoint
  decide

/-- Imports that are added to a file of one import without a line feed are glued to
it. -/
theorem imports_glued : ∃ p q₁ m p₁ p' r, Patcher.open "a.py" "import os".toList Parsers.sound = .ok p q₁ ∧
    p.registerImports "import sys".toList [] = .ok (some m, p₁) ∧
    p₁.apply m q₁ = .ok (.applied p'.content, p') r ∧ p'.content = "import osimport sys\n".toList ∧
    ¬ LinesInserted (lines "import os".toList) (lines "import sys".toList) p'.content.lines := by
  have hlang : languageOf? "a.py" = some "python" := by decide +kernel
  have himports : allBlank "import sys".toList = false := by decide
  have hplace : importPoint "python" "import os".toList = (0, 9) := by decide +kernel
  obtain ⟨q₁, hq₁, hopen⟩ : ∃ q₁, q₁.Faultless ∧
      Patcher.open "a.py" "import os".toList Parsers.sound = .ok (fresh "a.py" "python" "import os".toList) q₁ :=
    open_faultless hlang Parsers.faultless_sound
  obtain ⟨m, p₁, p', r, hregister, happly, hcontent⟩ :=
    apply_registerImports "a.py" "python" "import os".toList hq₁ himports []
  have htext : p'.content = "import o".toList ++ ['s'] ++ ("import sys".toList ++ ['\n']) := by
    rw [hcontent, hplace]
    decide
  refine ⟨_, q₁, m, p₁, p', r, hopen, hregister, happly, htext, ?_⟩
  rw [htext]
  exact not_linesInserted_end (x := "import o".toList) (c := 's') (by decide) himports

end Patcher

end Redline
