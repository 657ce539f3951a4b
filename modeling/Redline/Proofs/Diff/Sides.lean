import Redline.Proofs.Diff.Patch

/-!
# The numbers of the lines of a hunk

The lines of a hunk are counted on from where it begins in each of two files, a line only
in the files that it belongs to.  So the number of a line is that of the first line and
the number of lines above it that are in the same file (`getElem?_annotateLines`).  If the
lines of a hunk stand in the files where it says, then every line is shown with the
numbers that it has there: what stands behind a number is the line of that number
(`numbered_agrees`).
-/

namespace Redline.Diff

open Text (lines unlines)
open Number (natText intText)

/-! ## Lines with their numbers -/

/-- The line of a number, counted from one. -/
def lineAt (file : List Text) (n : Nat) : Option Text := if n = 0 then none else file[n - 1]?

/-- Some lines stand in a file one after the other, the first at a number. -/
def StandFrom (file : List Text) (first : Nat) (ls : List Text) : Prop := ls <+: file.drop (first - 1)

instance (file : List Text) (first : Nat) (ls : List Text) : Decidable (StandFrom file first ls) :=
  inferInstanceAs (Decidable (_ <+: _))

namespace Line

/-- A line with the numbers that it has in the old and in the new file. -/
def numbered (old new : Nat) : Line → Text
  | context t => ' ' :: (natText old ++ ',' :: (natText new ++ ": ".toList ++ t))
  | added t => '+' :: (natText new ++ ": ".toList ++ t)
  | removed t => '-' :: (natText old ++ ": ".toList ++ t)
  | note t => '\\' :: t

/-- The number of the next line, behind a line that may be in the file. -/
def next (inFile : Line → Bool) (n : Nat) (l : Line) : Nat := if inFile l then n + 1 else n

end Line

/-- A line gets its numbers, and those that it used are passed. -/
theorem annotateLines_cons (old new : Nat) (l : Line) (ls : List Text) :
    annotateLines old new (l.text :: ls) =
      l.numbered old new :: annotateLines (l.next Line.inOld old) (l.next Line.inNew new) ls := by
  cases l with
  | context t => simp [Line.text, annotateLines, Line.numbered, Line.next, Line.inOld, Line.inNew, intText]
  | added t => simp [Line.text, annotateLines, Line.numbered, Line.next, Line.inOld, Line.inNew, intText]
  | removed t => simp [Line.text, annotateLines, Line.numbered, Line.next, Line.inOld, Line.inNew, intText]
  | note t => simp [Line.text, annotateLines, Line.numbered, Line.next, Line.inOld, Line.inNew]

theorem next_add_countP (inFile : Line → Bool) (n : Nat) (l : Line) (ls : List Line) (i : Nat) :
    l.next inFile n + (ls.take i).countP inFile = n + ((l :: ls).take (i + 1)).countP inFile := by
  rw [List.take_succ_cons, List.countP_cons, Line.next]
  split <;> omega

/-- The number of a line is that of the first one and the number of lines above it that
are in the same file. -/
theorem getElem?_annotateLines (old new : Nat) (ls : List Line) (i : Nat) :
    (annotateLines old new (ls.map Line.text))[i]? = ls[i]?.map
      (Line.numbered (old + (ls.take i).countP Line.inOld) (new + (ls.take i).countP Line.inNew)) := by
  induction ls generalizing old new i with
  | nil => simp [annotateLines]
  | cons l ls ih =>
      rw [List.map_cons, annotateLines_cons]
      cases i with
      | zero => simp
      | succ i => rw [List.getElem?_cons_succ, ih, next_add_countP, next_add_countP, List.getElem?_cons_succ]

theorem length_annotateLines (old new : Int) (ls : List Text) : (annotateLines old new ls).length = ls.length := by
  fun_induction annotateLines old new ls with
  | case1 => rfl
  | case2 old new ls t ih => simp [ih]
  | case3 old new ls t ih => simp [ih]
  | case4 old new ls t ih => simp [ih]
  | case5 old new l ls _ _ _ ih => simp [ih]

theorem mem_annotateLines {old new : Nat} {ls : List Line} {t : Text}
    (h : t ∈ annotateLines old new (ls.map Line.text)) : ∃ (i : Nat) (l : Line), ls[i]? = some l ∧
      t = l.numbered (old + (ls.take i).countP Line.inOld) (new + (ls.take i).countP Line.inNew) := by
  obtain ⟨i, hi⟩ := List.mem_iff_getElem?.1 h
  rw [getElem?_annotateLines] at hi
  obtain ⟨l, hl, ht⟩ := Option.map_eq_some_iff.1 hi
  exact ⟨i, l, hl, ht.symm⟩

/-! ## The lines of a hunk that is shown -/

theorem not_mem_annotateLines {old new : Int} {ls : List Text} (h : ∀ l ∈ ls, '\n' ∉ l) :
    ∀ l ∈ annotateLines old new ls, '\n' ∉ l := by
  have hnumber : ∀ n, '\n' ∉ intText n := not_mem_intText (by decide) (by decide)
  fun_induction annotateLines old new ls with
  | case1 => exact h
  | case2 old new ls t ih =>
      simp only [List.forall_mem_cons] at h ⊢
      exact ⟨by simpa [hnumber] using h.1, ih h.2⟩
  | case3 old new ls t ih =>
      simp only [List.forall_mem_cons] at h ⊢
      exact ⟨by simpa [hnumber] using h.1, ih h.2⟩
  | case4 old new ls t ih =>
      simp only [List.forall_mem_cons] at h ⊢
      exact ⟨by simpa [hnumber] using h.1, ih h.2⟩
  | case5 old new l ls _ _ _ ih =>
      simp only [List.forall_mem_cons] at h ⊢
      exact ⟨h.1, ih h.2⟩

/-- Lines that are joined can be told apart again. -/
theorem lines_unlines {l : Text} {ls : List Text} (h : ∀ m ∈ l :: ls, '\n' ∉ m) :
    lines (unlines (l :: ls)) = l :: ls := by
  induction ls generalizing l with
  | nil => simpa [unlines] using Text.lines_of_not_mem (h l List.mem_cons_self)
  | cons m ls ih =>
      have hjoin : unlines (l :: m :: ls) = l ++ '\n' :: unlines (m :: ls) := by simp [unlines]
      rw [hjoin, Text.lines_append (h l List.mem_cons_self), ih fun k hk => h k (List.mem_cons_of_mem l hk)]

/-- The header of a hunk stays, and below it are its lines with their numbers. -/
theorem lines_annotate {hunk header : Text} {ls : List Text} (h : hunk.lines = header :: ls) (old new : Int) :
    (annotate hunk old new).lines = header :: annotateLines old new ls := by
  have hlines : ∀ l ∈ header :: ls, '\n' ∉ l := fun l hl => Outline.not_mem_of_mem_lines (h ▸ hl)
  rw [List.forall_mem_cons] at hlines
  rw [annotate, h]
  exact lines_unlines (List.forall_mem_cons.2 ⟨hlines.1, not_mem_annotateLines hlines.2⟩)

theorem numbered_eq_ok {hunk shown : Text} {old new : Nat} :
    numbered hunk (.int old) (.int new) = .ok shown ↔
      (∀ n ∈ written old new hunk.lines.tail, Short n) ∧ shown = annotate hunk old new := by
  rw [← checkNumbers_eq_ok, numbered, numberedFrom]
  cases checkNumbers old new hunk.lines.tail with
  | error e => simp [bind, Except.bind]
  | ok u => simp [bind, Except.bind, pure, Except.pure, eq_comm]

/-! ## The lines of two files -/

section

variable {file : List Text} {first i : Nat} {inFile : Line → Bool} {ls : List Line} {l : Line}

theorem getElem?_filter_countP (hl : ls[i]? = some l) (hin : inFile l = true) :
    (ls.filter inFile)[(ls.take i).countP inFile]? = some l := by
  obtain ⟨hi, rfl⟩ := List.getElem?_eq_some_iff.1 hl
  have hsplit : ls.filter inFile = (ls.take i).filter inFile ++ ls[i] :: (ls.drop (i + 1)).filter inFile := by
    rw [← List.filter_cons_of_pos hin, ← List.filter_append, List.getElem_cons_drop, List.take_append_drop]
  rw [hsplit, List.countP_eq_length_filter, List.getElem?_append_right (Nat.le_refl _), Nat.sub_self]
  rfl

/-- A line of a hunk is the line of its number, if the lines of the hunk stand in the
file. -/
theorem StandFrom.lineAt (hfirst : 1 ≤ first) (h : StandFrom file first ((ls.filter inFile).map Line.content))
    (hl : ls[i]? = some l) (hin : inFile l = true) :
    Diff.lineAt file (first + (ls.take i).countP inFile) = some l.content := by
  have hside := congrArg (Option.map Line.content) (getElem?_filter_countP hl hin)
  rw [← List.getElem?_map, Option.map_some] at hside
  obtain ⟨hlt, hget⟩ := List.getElem?_eq_some_iff.1 hside
  have hfile := List.prefix_iff_getElem?.1 h _ hlt
  rw [List.getElem?_drop, hget] at hfile
  rw [Diff.lineAt, if_neg (by omega), ← hfile]
  congr 1
  omega

theorem le_length_of_lineAt {n : Nat} {t : Text} (h : lineAt file n = some t) : n ≤ file.length := by
  unfold lineAt at h
  split at h
  next => cases h
  next =>
    obtain ⟨hlt, -⟩ := List.getElem?_eq_some_iff.1 h
    omega

end

/-! ## Numbers that are written and read -/

theorem Short.mono {m n : Nat} (h : m ≤ n) (hn : Short n) : Short m := by
  have hdigits : 0 < Text.maxDigits := by decide
  unfold Short natText at hn ⊢
  rw [Nat.length_toDigits_le_iff (by decide) hdigits] at hn ⊢
  exact Nat.lt_of_le_of_lt h hn

/-- A number that is written is that of a line in one of the files. -/
theorem mem_written {old new n : Nat} {ls : List Line} (h : n ∈ written old new (ls.map Line.text)) :
    ∃ (i : Nat) (l : Line), ls[i]? = some l ∧
      (l.inOld = true ∧ n = old + (ls.take i).countP Line.inOld ∨
        l.inNew = true ∧ n = new + (ls.take i).countP Line.inNew) := by
  induction ls generalizing old new with
  | nil => exact absurd h List.not_mem_nil
  | cons l ls ih =>
      have hfirst : (l.inOld = true ∧ n = old ∨ l.inNew = true ∧ n = new) ∨
          n ∈ written (l.next Line.inOld old) (l.next Line.inNew new) (ls.map Line.text) := by
        cases l <;> simpa [written, Line.text, Line.next, Line.inOld, Line.inNew, or_assoc] using h
      rcases hfirst with hn | hrest
      · exact ⟨0, l, rfl, hn⟩
      · obtain ⟨i, m, hm, hn⟩ := ih hrest
        rw [next_add_countP, next_add_countP] at hn
        exact ⟨i + 1, m, hm, hn⟩

section

variable {ds es x y t : Text}

/-- Rows of digits end where something else begins. -/
theorem number_append_inj (hds : IsNumber ds) (hes : IsNumber es) (hx : ∀ c ∈ x.head?, Text.isDecimal c = false)
    (hy : ∀ c ∈ y.head?, Text.isDecimal c = false) (h : ds ++ x = es ++ y) : ds = es ∧ x = y := by
  obtain ⟨htake, hdrop⟩ := takeWhile_number hds hx
  obtain ⟨htake', hdrop'⟩ := takeWhile_number hes hy
  exact ⟨by rw [← htake, h, htake'], by rw [← hdrop, h, hdrop']⟩

theorem colon_not_decimal (t : Text) : ∀ c ∈ (": ".toList ++ t).head?, Text.isDecimal c = false := by
  intro c hc
  cases hc
  decide

theorem comma_not_decimal (t : Text) : ∀ c ∈ (',' :: t).head?, Text.isDecimal c = false := by
  intro c hc
  cases hc
  decide

/-- A number that is written before a line is read as the number, and behind it is the
line. -/
theorem natText_colon_inj {n : Nat} (hds : IsNumber ds) (h : natText n ++ ": ".toList ++ x = ds ++ ": ".toList ++ t) :
    n = valueOf ds ∧ x = t := by
  rw [List.append_assoc, List.append_assoc] at h
  obtain ⟨rfl, hrest⟩ := number_append_inj (isNumber_natText n) hds (colon_not_decimal x) (colon_not_decimal t) h
  exact ⟨(valueOf_natText n).symm, List.append_cancel_left hrest⟩

end

/-! ## Hunks that stand in two files -/

section

variable {before after : List Text} {old new : Nat} {ls : List Line} {ds es t : Text}

/-- An added line stands behind its number in the new file. -/
theorem lineAt_of_added (hnew : 1 ≤ new) (hafter : StandFrom after new ((ls.filter Line.inNew).map Line.content))
    (hds : IsNumber ds) (h : '+' :: (ds ++ ": ".toList ++ t) ∈ annotateLines old new (ls.map Line.text)) :
    lineAt after (valueOf ds) = some t := by
  obtain ⟨i, l, hl, hline⟩ := mem_annotateLines h
  cases l with
  | added u =>
      obtain ⟨hn, rfl⟩ := natText_colon_inj hds (List.cons.inj hline).2.symm
      rw [← hn]
      exact hafter.lineAt hnew hl rfl
  | context u => exact absurd (List.cons.inj hline).1 (by decide)
  | removed u => exact absurd (List.cons.inj hline).1 (by decide)
  | note u => exact absurd (List.cons.inj hline).1 (by decide)

/-- A removed line stands behind its number in the old file. -/
theorem lineAt_of_removed (hold : 1 ≤ old) (hbefore : StandFrom before old ((ls.filter Line.inOld).map Line.content))
    (hds : IsNumber ds) (h : '-' :: (ds ++ ": ".toList ++ t) ∈ annotateLines old new (ls.map Line.text)) :
    lineAt before (valueOf ds) = some t := by
  obtain ⟨i, l, hl, hline⟩ := mem_annotateLines h
  cases l with
  | removed u =>
      obtain ⟨hn, rfl⟩ := natText_colon_inj hds (List.cons.inj hline).2.symm
      rw [← hn]
      exact hbefore.lineAt hold hl rfl
  | context u => exact absurd (List.cons.inj hline).1 (by decide)
  | added u => exact absurd (List.cons.inj hline).1 (by decide)
  | note u => exact absurd (List.cons.inj hline).1 (by decide)

/-- A line of context stands behind its numbers in both files. -/
theorem lineAt_of_context (hold : 1 ≤ old) (hnew : 1 ≤ new)
    (hbefore : StandFrom before old ((ls.filter Line.inOld).map Line.content))
    (hafter : StandFrom after new ((ls.filter Line.inNew).map Line.content)) (hds : IsNumber ds) (hes : IsNumber es)
    (h : ' ' :: (ds ++ ',' :: (es ++ ": ".toList ++ t)) ∈ annotateLines old new (ls.map Line.text)) :
    lineAt before (valueOf ds) = some t ∧ lineAt after (valueOf es) = some t := by
  obtain ⟨i, l, hl, hline⟩ := mem_annotateLines h
  cases l with
  | context u =>
      obtain ⟨rfl, hrest⟩ := number_append_inj hds (isNumber_natText _) (comma_not_decimal _) (comma_not_decimal _)
        (List.cons.inj hline).2
      obtain ⟨hn, rfl⟩ := natText_colon_inj hes (List.cons.inj hrest).2.symm
      rw [← hn, valueOf_natText]
      exact ⟨hbefore.lineAt hold hl rfl, hafter.lineAt hnew hl rfl⟩
  | added u => exact absurd (List.cons.inj hline).1 (by decide)
  | removed u => exact absurd (List.cons.inj hline).1 (by decide)
  | note u => exact absurd (List.cons.inj hline).1 (by decide)

/-- The numbers of a hunk can be written if those of the files can. -/
theorem short_of_mem_written (hold : 1 ≤ old) (hnew : 1 ≤ new)
    (hbefore : StandFrom before old ((ls.filter Line.inOld).map Line.content))
    (hafter : StandFrom after new ((ls.filter Line.inNew).map Line.content)) (hlong : Short before.length)
    (hlong' : Short after.length) : ∀ n ∈ written old new (ls.map Line.text), Short n := by
  intro n hn
  obtain ⟨i, l, hl, ⟨hin, rfl⟩ | ⟨hin, rfl⟩⟩ := mem_written hn
  · exact Short.mono (le_length_of_lineAt (hbefore.lineAt hold hl hin)) hlong
  · exact Short.mono (le_length_of_lineAt (hafter.lineAt hnew hl hin)) hlong'

/-- A hunk whose lines stand in an old and in a new file is shown with the numbers that
its lines have there.  The header and the notes stay as they are, and no line is left out
or added.  All this can be written if the numbers of the files can. -/
theorem numbered_agrees {hunk header : Text} (hhunk : hunk.lines = header :: ls.map Line.text) (hold : 1 ≤ old)
    (hnew : 1 ≤ new) (hbefore : StandFrom before old ((ls.filter Line.inOld).map Line.content))
    (hafter : StandFrom after new ((ls.filter Line.inNew).map Line.content)) :
    (Short before.length → Short after.length → ∃ shown, numbered hunk (.int old) (.int new) = .ok shown) ∧
      ∀ shown, numbered hunk (.int old) (.int new) = .ok shown →
        ∃ below, shown.lines = header :: below ∧ below.length = ls.length ∧
          (∀ ds t, IsNumber ds → '+' :: (ds ++ ": ".toList ++ t) ∈ below → lineAt after (valueOf ds) = some t) ∧
          (∀ ds t, IsNumber ds → '-' :: (ds ++ ": ".toList ++ t) ∈ below → lineAt before (valueOf ds) = some t) ∧
          (∀ ds es t, IsNumber ds → IsNumber es → ' ' :: (ds ++ ',' :: (es ++ ": ".toList ++ t)) ∈ below →
            lineAt before (valueOf ds) = some t ∧ lineAt after (valueOf es) = some t) ∧
          ∀ (i : Nat) (l : Line), ls[i]? = some l → below[i]? = some
            (l.numbered (old + (ls.take i).countP Line.inOld) (new + (ls.take i).countP Line.inNew)) := by
  refine ⟨fun hlong hlong' => ?_, fun shown hshown => ?_⟩
  · refine ⟨annotate hunk old new, numbered_eq_ok.2 ⟨?_, rfl⟩⟩
    rw [hhunk, List.tail_cons]
    exact short_of_mem_written hold hnew hbefore hafter hlong hlong'
  · obtain ⟨-, rfl⟩ := numbered_eq_ok.1 hshown
    refine ⟨annotateLines old new (ls.map Line.text), lines_annotate hhunk old new, ?_, ?_, ?_, ?_, ?_⟩
    · rw [length_annotateLines, List.length_map]
    · exact fun ds t hds h => lineAt_of_added hnew hafter hds h
    · exact fun ds t hds h => lineAt_of_removed hold hbefore hds h
    · exact fun ds es t hds hes h => lineAt_of_context hold hnew hbefore hafter hds hes h
    · intro i l hl
      rw [getElem?_annotateLines, hl, Option.map_some]

end

/-! ## A hunk of all kinds of lines -/

/-- A hunk that begins in the second line of the old file and in the first of the new
one. -/
def mixedLines : List Line :=
  [.context "a".toList, .removed "b".toList, .added "x: y".toList, .note " No newline at end of file".toList,
    .context "a".toList]

def mixedText : Text := "@@ -2,3 +1,3 @@ f\n a\n-b\n+x: y\n\\ No newline at end of file\n a".toList

theorem numbered_agrees_mixed : ∃ shown below, numbered mixedText (.int 2) (.int 1) = .ok shown ∧
    shown.lines = "@@ -2,3 +1,3 @@ f".toList :: below ∧ "-3: b".toList ∈ below ∧
    lineAt ["q".toList, "a".toList, "b".toList, "a".toList] 3 = some "b".toList ∧
    "+2: x: y".toList ∈ below ∧ lineAt ["a".toList, "x: y".toList, "a".toList] 2 = some "x: y".toList := by
  have hhunk : mixedText.lines = "@@ -2,3 +1,3 @@ f".toList :: mixedLines.map Line.text := by decide
  have hbefore : StandFrom ["q".toList, "a".toList, "b".toList, "a".toList] 2
      ((mixedLines.filter Line.inOld).map Line.content) := by decide
  have hafter : StandFrom ["a".toList, "x: y".toList, "a".toList] 1
      ((mixedLines.filter Line.inNew).map Line.content) := by decide
  obtain ⟨hexists, hall⟩ := numbered_agrees hhunk (by decide) (by decide) hbefore hafter
  obtain ⟨shown, hshown⟩ := hexists (by decide) (by decide)
  obtain ⟨below, hlines, -, hadded, hremoved, -, hnumbered⟩ := hall shown hshown
  have hminus : "-3: b".toList ∈ below := List.mem_of_getElem? (hnumbered 1 _ rfl)
  have hplus : "+2: x: y".toList ∈ below := List.mem_of_getElem? (hnumbered 2 _ rfl)
  exact ⟨shown, below, hshown, hlines, hminus, hremoved _ _ (isNumber_natText 3) hminus, hplus,
    hadded _ _ (isNumber_natText 2) hplus⟩

end Redline.Diff
