import Redline.Proofs.Patch.Outcome

/-!
# Modifications that touch an edit

After an edit a registered modification should have the span where its text is now.  One that
ends before the edit keeps its span, and one that starts behind it moves with the text.  But
one that starts right at the end of the edit is left where it was.  So its span has the text
that was there before only if it is empty or the new text repeats the old one by chance
(`span_follows_text_iff`).  New imports at the very start of a file leave the span of the
first unit behind in this way (`first_unit_left_behind`).
-/

namespace Redline

open Outline

/-! ## What stands around an edit -/

namespace Text

variable {t : Text} {a b : Nat}

/-- What ends before an edit stays where it is. -/
theorem slice_splice_before (ha : a ≤ t.length) (new : Text) (i : Nat) {j : Nat} (hj : j ≤ a) :
    slice (t.splice a b new) i j = slice t i j := by
  have hlength : j ≤ (t.take a).length := by
    rw [List.length_take]
    omega
  rw [splice_natCast, slice_natCast, slice_natCast, List.append_assoc, List.take_append_of_le_length hlength,
    List.take_take, Nat.min_eq_left hj]

/-- What starts at the end of an edit or behind it moves by the change of the length. -/
theorem slice_splice_behind (hab : a ≤ b) (hb : b ≤ t.length) (new : Text) {i j : Nat} (hi : b ≤ i) (hij : i ≤ j) :
    slice (t.splice a b new) (i + (a + new.length - b : Int)) (j + (a + new.length - b : Int)) = slice t i j := by
  have hstart : (i + (a + new.length - b : Int)) = ((t.take a ++ new).length + (i - b) : Nat) := by
    rw [List.length_append, List.length_take]
    omega
  have hstop : (j + (a + new.length - b : Int)) = ((t.take a ++ new).length + (j - b) : Nat) := by
    rw [List.length_append, List.length_take]
    omega
  rw [splice_natCast, hstart, hstop, slice_natCast, slice_natCast, List.take_length_add_append,
    List.drop_length_add_append, List.take_drop, List.drop_drop]
  congr 2 <;> omega

/-- From the old end of an edit on there stands what the new text has more, and then the rest
without what the new text has less. -/
theorem drop_splice (hab : a ≤ b) (hb : b ≤ t.length) (new : Text) :
    (t.splice a b new).drop b = new.drop (b - a) ++ t.drop (b + (b - a - new.length)) := by
  have hlength : (t.take a).length = a := List.length_take_of_le (Nat.le_trans hab hb)
  rw [splice_natCast, List.append_assoc, List.drop_append, hlength, List.drop_eq_nil_of_le (by omega),
    List.nil_append, List.drop_append, List.drop_drop]

end Text

namespace Modification

/-- The modification starts right at a position, and there is something that it replaces. -/
def Touches (m : Modification) (position : Int) : Prop := m.start = position ∧ position < m.stop

/-- A modification that starts at the end of an edit stays where it is. -/
theorem afterEdit_of_eq {m : Modification} {start oldStop : Int} (newStop : Int) (hm : m.start = oldStop)
    (hedit : start ≤ oldStop) : m.afterEdit start oldStop newStop = m := by
  have hbehind : ¬oldStop < m.start := by omega
  have hacross : ¬(m.start < start ∧ start < m.stop) := by omega
  simp [afterEdit, hbehind, hacross]

/-- An edit changes nothing of a modification but its span. -/
theorem afterEdit_span (start oldStop newStop : Int) (m : Modification) : m.afterEdit start oldStop newStop =
    { m with start := (m.afterEdit start oldStop newStop).start, stop := (m.afterEdit start oldStop newStop).stop } := by
  unfold afterEdit
  split
  next => rfl
  next =>
    split
    next => rfl
    next => split <;> rfl

/-- At the span of a modification that touches an edit there stands what the end of the new
text and the rest of the old one give. -/
theorem slice_splice_of_touches {t : Text} {a b : Nat} {m : Modification} (hab : a ≤ b) (hb : b ≤ t.length)
    (hm : m.Touches b) (new : Text) :
    Text.slice (t.splice a b new) m.start m.stop =
      (new.drop (b - a) ++ t.drop (b + (b - a - new.length))).take (m.stop - b).toNat := by
  obtain ⟨hstart, hlt⟩ := hm
  obtain ⟨j, hj⟩ : ∃ j : Nat, m.stop = j := Int.eq_ofNat_of_zero_le (by omega)
  rw [hstart, hj, Text.slice_natCast, ← Text.drop_splice hab hb, List.drop_take]
  congr 1
  omega

/-- What an edit does to the text at the span of another modification. -/
theorem slice_afterEdit_iff {t : Text} {a b : Nat} {m : Modification} (hab : a ≤ b) (hb : b ≤ t.length)
    (hstart : 0 ≤ m.start) (hstop : m.start ≤ m.stop) (hapart : m.stop ≤ a ∨ b ≤ m.start) (new : Text) :
    Text.slice (t.splice a b new) (m.afterEdit a b (a + new.length)).start (m.afterEdit a b (a + new.length)).stop =
        Text.slice t m.start m.stop ↔
      (m.Touches b → Text.slice t m.start m.stop =
        (new.drop (b - a) ++ t.drop (b + (b - a - new.length))).take (m.stop - b).toNat) := by
  obtain ⟨i, hi⟩ := Int.eq_ofNat_of_zero_le hstart
  obtain ⟨j, hj⟩ := Int.eq_ofNat_of_zero_le (Int.le_trans hstart hstop)
  by_cases htouches : m.Touches b
  · rw [afterEdit_of_eq _ htouches.1 (Int.ofNat_le.2 hab), slice_splice_of_touches hab hb htouches]
    exact ⟨fun h _ => h.symm, fun h => (h htouches).symm⟩
  · refine iff_of_true ?_ fun h => absurd h htouches
    rcases hapart with hbefore | hbehind
    · -- it ends before the edit
      rw [afterEdit_of_le hstop hbefore (Int.ofNat_le.2 hab), hi, hj]
      exact Text.slice_splice_before (Nat.le_trans hab hb) new i (by omega)
    · rcases Int.lt_or_eq_of_le hbehind with hlt | heq
      · -- it starts behind the edit and moves with the text
        rw [afterEdit_of_lt hlt (Int.ofNat_le.2 hab), hi, hj]
        exact Text.slice_splice_behind hab hb new (by omega) (by omega)
      · -- it starts at the end of the edit, but is empty
        have hempty : j = i := by
          unfold Touches at htouches
          omega
        rw [afterEdit_of_eq _ heq.symm (Int.ofNat_le.2 hab), hi, hj, hempty, Text.slice_natCast, Text.slice_natCast,
          List.drop_eq_nil_of_le (List.length_take_le _ _), List.drop_eq_nil_of_le (List.length_take_le _ _)]

end Modification

namespace Patcher

variable {p : Patcher} {a b k : Nat} {d : Modification}

/-- After an edit every modification that lies apart from it has the text at its span that it
had before, unless it touches the end of the edit.  One that does keeps its span.  Then its
text is there only if it is also what the end of the new text and the rest of the file
give. -/
theorem span_follows_text_iff (hab : a ≤ b) (hb : b ≤ p.content.length) (hd : p.modifications[k]? = some d)
    (hstart : 0 ≤ d.start) (hstop : d.start ≤ d.stop) (hapart : d.stop ≤ a ∨ b ≤ d.start) (m : Modification)
    (tree : Option Tree) :
    ∃ p' d', p' = p.edited a b m (p.content.splice a b m.replacement) tree ∧ p'.modifications[k]? = some d' ∧
      d' = { d with start := d'.start, stop := d'.stop } ∧ (d.Touches b → d' = d) ∧
      (Text.slice p'.content d'.start d'.stop = Text.slice p.content d.start d.stop ↔
        (d.Touches b → Text.slice p.content d.start d.stop =
          (m.replacement.drop (b - a) ++ p.content.drop (b + (b - a - m.replacement.length))).take
            (d.stop - b).toNat)) := by
  refine ⟨_, d.afterEdit a b (a + m.replacement.length), rfl, ?_, d.afterEdit_span a b _, fun h => ?_, ?_⟩
  · exact List.getElem?_map.trans (congrArg (Option.map _) hd)
  · exact Modification.afterEdit_of_eq _ h.1 (Int.ofNat_le.2 hab)
  · exact Modification.slice_afterEdit_iff hab hb hstart hstop hapart m.replacement

/-- The function in `greeting` moves when a line is inserted behind the import. -/
theorem span_follows_text_greeting : ∃ (d : Modification) (p' : Patcher) (d' : Modification),
    (d.start = 11 ∧ d.stop = 31) ∧ p'.content = "import os\nimport re\n\ndef f():\n    a\n    b\n".toList ∧
    p'.modifications[0]? = some d' ∧ Text.slice p'.content d'.start d'.stop = "def f():\n    a\n    b".toList := by
  let p := fresh "a.py" "python" greeting
  let d := p.replacementOf (greetingUnit 4) "def f(): b".toList ["1"]
  let m : Modification := { d with replacement := "\nimport re".toList }
  have hunit : (greetingUnit 4).start = 11 ∧ (greetingUnit 4).stop = 31 := by decide +kernel
  have hstart : d.start = 11 := congrArg Int.ofNat hunit.1
  have hstop : d.stop = 31 := congrArg Int.ofNat hunit.2
  obtain ⟨p', d', rfl, hd', -, -, htext⟩ := span_follows_text_iff (p := p.add d) (a := 9) (b := 9) (k := 0) (d := d)
    (Nat.le_refl 9) (by decide) rfl (by omega) (by omega) (Or.inr (by omega)) m none
  refine ⟨d, _, d', ⟨hstart, hstop⟩, by decide +kernel, hd', (htext.2 fun h => ?_).trans ?_⟩
  · have hnot := h.1
    omega
  · rw [hstart, hstop]
    decide +kernel

/-- A file that begins with a function. -/
def lone : Text := "def f():\n    a\n    b\n".toList

def loneUnit : Node := ((build "python" lone).codeUnit? 1).getD default

/-- A replacement of the function and new imports. -/
def loneChanges : List Registration :=
  [.unit loneUnit "def f(): b".toList ["1"], .imports "import os".toList ["2"]]

/-- New imports at the very start of a file push the first unit away from its span. -/
theorem first_unit_left_behind : ∃ p m d p' r, (fresh "a.py" "python" lone).enterAll loneChanges = .ok p ∧
    p.modifications = [m, d] ∧ (m.start = 0 ∧ m.stop = 0) ∧ (d.start = 0 ∧ d.stop = 20) ∧
    p.apply m Parsers.sound = .ok (.applied p'.content, p') r ∧ p'.modifications[1]? = some d ∧
    Text.slice p'.content d.start d.stop ≠ Text.slice p.content d.start d.stop := by
  let p := (fresh "a.py" "python" lone).entered (0, 0) loneChanges
  let m := p.importModification (0, 0) "import os".toList ["2"]
  let d := p.replacementOf loneUnit "def f(): b".toList ["1"]
  let updated := lone.splice 0 0 m.replacement
  have hunit : loneUnit.start = 0 ∧ loneUnit.stop = 20 := by decide +kernel
  have hstart : d.start = 0 := congrArg Int.ofNat hunit.1
  have hstop : d.stop = 20 := congrArg Int.ofNat hunit.2
  have hpoint : importPoint "python" lone = (0, 0) := by decide +kernel
  have henter : (fresh "a.py" "python" lone).enterAll loneChanges = .ok p :=
    enterAll_eq (hpoint ▸ insertionPoint_fresh) (by decide)
  obtain ⟨r, hparse, -⟩ := parse_faultless Parsers.faultless_sound "python" updated
  have hown : p.Finds (.whole (build "python" lone)) m 0 0 := .own (by decide)
  refine ⟨p, m, d, p.edited 0 0 m updated (some (.whole (build "python" updated))), r, henter, rfl, ⟨rfl, rfl⟩,
    ⟨hstart, hstop⟩, apply_of_finds (.held rfl) hown rfl hparse, ?_, ?_⟩
  · exact congrArg some (Modification.afterEdit_of_eq _ hstart (Int.le_refl 0))
  · rw [hstart, hstop]
    decide +kernel

end Patcher

end Redline
