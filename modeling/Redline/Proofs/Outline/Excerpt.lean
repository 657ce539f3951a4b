import Redline.Proofs.Outline.Steady

/-!
# Whole lines and first characters

The code around a line should be whole lines: those from the first line that it names
to the last one (`wholeLines`).  The root, a section and a run of lines are whole lines.

A *pair* is a section of exactly two lines.  It is too small for a unit and so is its
block, so its second line is a unit of its own, and the unit of its first line is the
first character of that line.  These characters are the only code that may be a fragment
of a line (`extract_whole_lines_iff`).
-/

namespace Redline

namespace Outline

open Text (lines unlines allBlank)

/-! ## Lines as they are shown -/

/-- The lines of a text from one to another, counted from one and joined by line feeds. -/
def wholeLines (t : Text) (first last : Int) : Text := unlines (Text.slice t.lines (first - 1) last)

def Node.Whole (t : Text) (n : Node) : Prop :=
  n.text t = wholeLines t ((n.first.row : Int) + 1) ((n.last.row : Int) + 1)

section

variable {t : Text} {row offset : Nat}

theorem Stands.text_slice {ls : List Text} (h : Stands t row offset ls) (hne : ls ≠ []) :
    Text.slice t (offset : Int) ((offset + (unlines ls).length : Nat) : Int) = unlines ls := by
  obtain ⟨l, ls, rfl⟩ := List.exists_cons_of_ne_nil hne
  obtain ⟨above, below, ht, ho, -⟩ := h.text_eq
  obtain ⟨rest, hrest⟩ := unlines_leads (List.cons_ne_nil l ls) below
  rw [Text.slice_natCast, ht, ← hrest, ← ho, List.take_length_add_append, List.drop_left, List.take_left]

theorem Stands.lines_slice {ls : List Text} (h : Stands t row offset ls) :
    Text.slice t.lines (row : Int) ((row + ls.length : Nat) : Int) = ls := by
  obtain ⟨above, below, hl, hr, -⟩ := h
  rw [Text.slice_natCast, hl, ← hr, List.take_length_add_append, List.drop_left, List.take_left]

/-- Lines that stand somewhere are what is between their first and their last line. -/
theorem Stands.wholeLines {ls : List Text} (h : Stands t row offset ls) :
    wholeLines t ((row : Int) + 1) ((row + ls.length : Nat) : Int) = unlines ls := by
  rw [Outline.wholeLines, Int.add_sub_cancel, h.lines_slice]

theorem whole_nodeOfLines {ls : List Text} (h : Stands t row offset ls) (hne : ls ≠ []) (kind : String)
    (children : List Node) : (nodeOfLines kind row offset ls children).Whole t := by
  have hpos := List.length_pos_iff.2 hne
  have hlast : ((row + (ls.length - 1) : Nat) : Int) + 1 = ((row + ls.length : Nat) : Int) := by omega
  show Text.slice t (offset : Int) ((offset + (unlines ls).length : Nat) : Int) =
    Outline.wholeLines t ((row : Int) + 1) (((row + (ls.length - 1) : Nat) : Int) + 1)
  rw [h.text_slice hne, hlast, h.wholeLines]

end

/-! ## Pairs -/

/-- A line opens a section of two lines.  The second line is not blank and opens no
section, and only blank lines are between it and the next section. -/
def OpensPair (t : Text) (line : Nat) (head second : Text) : Prop :=
  ∃ above blanks below, t.lines = above ++ head :: second :: (blanks ++ below) ∧ above.length + 1 = line ∧
    opens head = true ∧ opens second = false ∧ allBlank second = false ∧
      (∀ l ∈ blanks, allBlank l = true) ∧ ∀ l ∈ below.head?, opens l = true

theorem opens_of_allBlank {l : Text} (h : allBlank l = true) : opens l = false := by
  cases l with
  | nil => rfl
  | cons c l =>
      have hc : Text.isBlank c = true := List.all_eq_true.1 h c List.mem_cons_self
      rw [opens, hc]
      rfl

/-- One line is left of some lines exactly if the others are blank and it is not. -/
theorem trimLines_eq_singleton {ls : List Text} {l : Text} :
    trimLines ls = [l] ↔ ∃ blanks, ls = l :: blanks ∧ allBlank l = false ∧ ∀ m ∈ blanks, allBlank m = true := by
  constructor
  · intro h
    have hdrop : ls.reverse.dropWhile allBlank = [l] := by
      rw [← List.reverse_reverse (ls.reverse.dropWhile allBlank), ← trimLines, h]
      rfl
    have hsplit := List.takeWhile_append_dropWhile (p := allBlank) (l := ls.reverse)
    have hl : allBlank l = false := by
      have := List.head?_dropWhile_not allBlank ls.reverse
      rw [hdrop] at this
      simpa using this
    refine ⟨(ls.reverse.takeWhile allBlank).reverse, ?_, hl, fun m hm => ?_⟩
    · rw [hdrop] at hsplit
      simpa using congrArg List.reverse hsplit.symm
    · exact List.all_eq_true.1 List.all_takeWhile m (List.mem_reverse.1 hm)
  · rintro ⟨blanks, rfl, hl, hblanks⟩
    have hdrop : (blanks.reverse ++ [l]).dropWhile allBlank = [l] := by
      rw [List.dropWhile_append_of_pos fun m hm => hblanks m (List.mem_reverse.1 hm),
        List.dropWhile_cons_of_neg (by simp [hl])]
    rw [trimLines, List.reverse_cons, hdrop]
    rfl

/-- The lines below the first one of a section are one line exactly if the section is a
pair. -/
theorem trimLines_below_eq_singleton {ls : List Text} {l : Text} :
    trimLines (ls.takeWhile fun m => !opens m) = [l] ↔
      ∃ blanks below, ls = l :: (blanks ++ below) ∧ opens l = false ∧ allBlank l = false ∧
        (∀ m ∈ blanks, allBlank m = true) ∧ ∀ m ∈ below.head?, opens m = true := by
  rw [trimLines_eq_singleton]
  constructor
  · rintro ⟨blanks, htake, hl, hblanks⟩
    have hsplit := List.takeWhile_append_dropWhile (p := fun m => !opens m) (l := ls)
    have hopen : opens l = false := by
      have hmem : l ∈ ls.takeWhile fun m => !opens m := htake ▸ List.mem_cons_self
      simpa using List.all_eq_true.1 List.all_takeWhile l hmem
    refine ⟨blanks, ls.dropWhile fun m => !opens m, ?_, hopen, hl, hblanks, fun m hm => ?_⟩
    · rw [← List.cons_append, ← htake, hsplit]
    · have := List.head?_dropWhile_not (fun m => !opens m) ls
      rw [Option.mem_def.1 hm] at this
      simpa using this
  · rintro ⟨blanks, below, rfl, hopen, hl, hblanks, hbelow⟩
    refine ⟨blanks, ?_, hl, hblanks⟩
    have hkeep : ∀ m ∈ blanks, (!opens m) = true := fun m hm => by rw [opens_of_allBlank (hblanks m hm)]; rfl
    rw [List.takeWhile_cons_of_pos (by simp [hopen]), List.takeWhile_append_of_pos hkeep]
    cases below with
    | nil => simp
    | cons m below => rw [List.takeWhile_cons_of_neg (by simp [hbelow m rfl]), List.append_nil]

theorem opensPair_iff {t : Text} {line : Nat} {head second : Text} :
    OpensPair t line head second ↔ ∃ s ∈ sections 0 0 t.lines, s.row + 1 = line ∧ s.head = head ∧
      trimLines s.body = [second] := by
  constructor
  · rintro ⟨above, blanks, below, hlines, hline, hhead, hpair⟩
    refine ⟨⟨above.length, size above, head, _⟩, mem_sections.2 ⟨above, _, hlines, hhead, ?_, ?_, rfl⟩, hline, rfl, ?_⟩
    · simp
    · simp
    · exact trimLines_below_eq_singleton.2 ⟨blanks, below, rfl, hpair⟩
  · rintro ⟨s, hs, rfl, rfl, hbody⟩
    obtain ⟨above, below, hlines, hhead, hrow, -, hbelow⟩ := mem_sections.1 hs
    rw [hbelow] at hbody
    obtain ⟨blanks, rest, rfl, hpair⟩ := trimLines_below_eq_singleton.1 hbody
    exact ⟨above, blanks, rest, hlines, by omega, hhead, hpair⟩

/-! ## The text of a unit -/

section

variable {language : String} {t : Text}

theorem Section.stands {s : Section} (hs : s ∈ sections 0 0 t.lines) : Stands t s.row s.offset s.lines :=
  (sections_stands (stands_lines t) hs).1.of_leading s.lines_lead

theorem Section.text_initial {s : Section} (hs : s ∈ sections 0 0 t.lines) : s.initial.text t = s.head.take 1 := by
  obtain ⟨c, rest, hhead⟩ := List.exists_cons_of_length_pos (opens_length (sections_stands (stands_lines t) hs).2)
  obtain ⟨above, below, ht, ho, -⟩ := (stands hs).text_eq
  obtain ⟨after, hafter⟩ := unlines_leads (List.cons_ne_nil s.head []) (trimLines s.body ++ below)
  have hjoin : unlines (s.head :: trimLines s.body ++ below) = c :: (rest ++ after) := by
    rw [List.cons_append, ← List.singleton_append, ← hafter, hhead]
    simp [unlines]
  show Text.slice t (s.offset : Int) ((s.offset + 1 : Nat) : Int) = _
  rw [Text.slice_natCast, ht, hjoin, ← ho, List.take_length_add_append, List.drop_left, hhead]
  rfl

/-- A unit of a section is whole, or it is the first character of a pair. -/
theorem Section.whole_or_initial {s : Section} {n : Node} (hs : s ∈ sections 0 0 t.lines)
    (hn : n ∈ s.units (Grammar.ofLanguage language)) :
    n.Whole t ∨ n = s.initial ∧ ∃ l, trimLines s.body = [l] := by
  have hstands := stands hs
  rcases mem_units hn with rfl | ⟨l, hl, rfl | rfl⟩
  · exact Or.inl (whole_nodeOfLines hstands (List.cons_ne_nil _ _) _ _)
  · exact Or.inr ⟨rfl, l, hl⟩
  · rw [lines, hl] at hstands
    have hsecond : Stands t (s.row + 1) (s.offset + (s.head.length + 1)) [l] := by
      simpa using Stands.right (a := [s.head]) (b := [l]) hstands
    exact Or.inl (whole_nodeOfLines hsecond (List.cons_ne_nil _ _) _ _)

/-- The first character of a section is a whole line exactly if the line has no other. -/
theorem Section.whole_initial_iff {s : Section} (hs : s ∈ sections 0 0 t.lines) :
    s.initial.Whole t ↔ s.head.length = 1 := by
  have hhead : Stands t s.row s.offset [s.head] := (stands hs).of_leading ⟨trimLines s.body, rfl⟩
  have hline : wholeLines t ((s.row : Int) + 1) ((s.row : Int) + 1) = s.head := by
    have := hhead.wholeLines
    simpa [unlines] using this
  have hpos := opens_length (sections_stands (stands_lines t) hs).2
  show s.initial.text t = wholeLines t ((s.row : Int) + 1) ((s.row : Int) + 1) ↔ _
  rw [text_initial hs, hline]
  constructor
  · intro h
    have := congrArg List.length h
    rw [List.length_take] at this
    omega
  · intro h
    exact List.take_of_length_le (Nat.le_of_eq h)

/-- The code unit of the first line of a pair is its first character. -/
theorem codeUnit?_pair (language : String) {s : Section} {l : Text} (hs : s ∈ sections 0 0 t.lines)
    (hl : trimLines s.body = [l]) :
    (build language t).codeUnit? ((s.row : Int) + 1) = some s.initial := by
  have hcovers : (s.node (Grammar.ofLanguage language)).covers ((s.row : Int) + 1 - 1) = true := by
    rw [covers_node]
    omega
  have hle : (s.row : Int) + 1 ≤ t.lines.length := by
    obtain ⟨above, below, hlines, hrow, -⟩ := Section.stands hs
    rw [hlines, ← hrow, List.length_append, List.length_append, Section.lines, List.length_cons]
    omega
  obtain ⟨n, hn⟩ := exists_codeUnit language (by omega) hle
  rcases codeUnit?_cases hn with ⟨-, hnone⟩ | ⟨s', hs', hcov, hmem⟩
  · rw [hnone s hs] at hcovers
    cases hcovers
  · obtain rfl := section_eq_of_covers hs' hs hcov hcovers
    rw [Section.units_pair _ _ hl] at hmem
    rcases List.mem_cons.1 hmem with rfl | hmem
    · exact hn
    · -- the second line does not hold the first
      have hrows := codeUnit?_covers hn
      rw [List.mem_singleton.1 hmem] at hrows
      have hfirst : (s'.second l).first.row = s'.row + 1 := rfl
      omega

end

end Outline

/-! ## The code around a line -/

open Outline

namespace Context

open Parsers

variable {path language : String} {content : Text} {line : Nat} {q : Parsers}

/-- The code around a line of a file is whole lines, unless the line opens a pair.  Then
it is the first character of the line, which is all of it only if the line has no
other. -/
theorem extract_whole_lines_iff (hlang : languageOf? path = some language) (hq : q.Faultless)
    (hpos : 1 ≤ line) (hle : line ≤ content.lines.length) :
    ∃ e q', extract path content (.int line) q = .ok (some e) q' ∧
      (1 ≤ e.context.startLine ∧ e.context.startLine ≤ line) ∧
      ((line : Int) ≤ e.context.endLine ∧ e.context.endLine ≤ content.lines.length) ∧
      (e.code = wholeLines content e.context.startLine e.context.endLine ↔
        ∀ head second, OpensPair content line head second → head.length = 1) ∧
      ∀ head second, OpensPair content line head second →
        e.code = head.take 1 ∧ e.context.startLine = line ∧ e.context.endLine = line := by
  obtain ⟨n, hn⟩ : ∃ n, (build language content).codeUnit? line = some n :=
    exists_codeUnit language (by omega) (by omega)
  obtain ⟨q', hextract, -⟩ := extract_steady hq.steady (.refl q) path content line
  rw [hq.outlineOf content hlang, excerptOf, Option.bind_some, hn] at hextract
  have hcovers := codeUnit?_covers hn
  have hlast := last_row_codeUnit hn
  have hpair : ∀ head second, OpensPair content line head second →
      ∃ s ∈ sections 0 0 content.lines, s.head = head ∧ s.row + 1 = line ∧ n = s.initial := by
    intro head second h
    obtain ⟨s, hs, hrow, hhead, hbody⟩ := opensPair_iff.1 h
    have hinitial := codeUnit?_pair language hs hbody
    have hline : (s.row : Int) + 1 = line := by omega
    rw [hline, hn, Option.some.injEq] at hinitial
    exact ⟨s, hs, hhead, hrow, hinitial⟩
  refine ⟨_, q', hextract, ⟨?_, hcovers.1⟩, ⟨hcovers.2, ?_⟩, ?_, fun head second h => ?_⟩
  · simp only [ofNode]
    omega
  · simp only [ofNode]
    omega
  · show n.Whole content ↔ _
    constructor
    · intro hwhole head second h
      obtain ⟨s, hs, rfl, -, rfl⟩ := hpair head second h
      exact (Section.whole_initial_iff hs).1 hwhole
    · intro hall
      rcases codeUnit?_cases hn with ⟨rfl, -⟩ | ⟨s, hs, -, hmem⟩
      · exact whole_nodeOfLines (stands_lines content) (Text.lines_ne_nil content) _ _
      · rcases Section.whole_or_initial hs hmem with hwhole | ⟨rfl, l, hl⟩
        · exact hwhole
        · have hrow : s.row + 1 = line := by
            simp only [Section.initial] at hcovers
            omega
          exact (Section.whole_initial_iff hs).2 (hall s.head l (opensPair_iff.2 ⟨s, hs, hrow, rfl, hl⟩))
  · obtain ⟨s, hs, rfl, hrow, rfl⟩ := hpair head second h
    refine ⟨Section.text_initial hs, ?_, ?_⟩
    · simp only [ofNode, Section.initial]
      omega
    · simp only [ofNode, Section.initial]
      omega

/-- A pair whose first line is one character. -/
def shortPair : Text := "x\n  y\n".toList

theorem extract_whole_lines_shortPair : languageOf? "a.py" = some "python" ∧ Parsers.sound.Faultless ∧
    1 ≤ shortPair.lines.length ∧ OpensPair shortPair 1 "x".toList "  y".toList ∧
    ∃ e q', extract "a.py" shortPair (.int 1) Parsers.sound = .ok (some e) q' ∧
      e.code = wholeLines shortPair e.context.startLine e.context.endLine := by
  have hlang : languageOf? "a.py" = some "python" := by decide +kernel
  have hlines : shortPair.lines = ["x".toList, "  y".toList, []] := by decide
  have hle : 1 ≤ shortPair.lines.length := by rw [hlines]; decide
  have hpair : OpensPair shortPair 1 "x".toList "  y".toList :=
    ⟨[], [[]], [], hlines, rfl, by decide, by decide, by decide, by decide, by simp⟩
  obtain ⟨e, q', hextract, -, -, hwhole, -⟩ :=
    extract_whole_lines_iff hlang faultless_sound (Nat.le_refl 1) hle
  refine ⟨hlang, faultless_sound, hle, hpair, e, q', hextract, hwhole.2 ?_⟩
  rintro head second ⟨above, blanks, below, hsplit, habove, -⟩
  obtain rfl := List.eq_nil_of_length_eq_zero (Nat.succ.inj habove)
  rw [hlines] at hsplit
  obtain ⟨rfl, -⟩ := List.cons.inj hsplit
  rfl

/-- A function of two lines, with more code below. -/
def twoLines : Text := "def f():\n    a\n\nx = 1\n".toList

/-- The code around the first line of a function of two lines is one character. -/
theorem extract_fragment : languageOf? "a.py" = some "python" ∧ 1 ≤ twoLines.lines.length ∧
    ∃ e q', extract "a.py" twoLines (.int 1) Parsers.sound = .ok (some e) q' ∧
      e = ⟨"d".toList, ⟨"a.py", 1, 1, some "identifier"⟩⟩ ∧ wholeLines twoLines 1 1 = "def f():".toList ∧
      e.code ≠ wholeLines twoLines e.context.startLine e.context.endLine := by
  have hlang : languageOf? "a.py" = some "python" := by decide +kernel
  have hwhole : wholeLines twoLines 1 1 = "def f():".toList := by decide
  obtain ⟨q', hextract, -⟩ := extract_steady faultless_sound.steady (.refl Parsers.sound) "a.py" twoLines 1
  have hexcerpt : excerptOf "a.py" twoLines (some (build "python" twoLines)) 1 =
      some ⟨"d".toList, ⟨"a.py", 1, 1, some "identifier"⟩⟩ := by decide +kernel
  rw [faultless_sound.outlineOf twoLines hlang, hexcerpt] at hextract
  refine ⟨hlang, by decide, _, q', hextract, rfl, hwhole, ?_⟩
  rw [hwhole]
  decide

end Context

end Redline
