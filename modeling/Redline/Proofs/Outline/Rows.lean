import Redline.Outline.Build

/-!
# Rows and positions

The *row* of a position is the number of line feeds before it.  Where lines
stand in a text is told by the lines above them: their number is the row of the
first one, and their `size` is its position.  `Stands` says that some lines
stand at a row and a position, and the lemmas about it give the rows of the
positions where such lines begin and end.
-/

namespace Redline.Outline

open Text (lines unlines)

/-! ## The size of lines -/

@[simp] theorem size_nil : size [] = 0 := rfl

@[simp] theorem size_cons (l : Text) (ls : List Text) : size (l :: ls) = l.length + 1 + size ls := rfl

@[simp] theorem size_append (a b : List Text) : size (a ++ b) = size a + size b := by
  induction a with
  | nil => simp
  | cons l a ih => simp [ih, Nat.add_assoc]

/-- A leading part of some lines is no larger than all of them. -/
theorem size_le_of_leading {a b : List Text} (h : a <+: b) : size a ≤ size b := by
  obtain ⟨c, rfl⟩ := h
  rw [size_append]
  omega

/-- Joined lines lack only the last line feed. -/
theorem length_unlines : ∀ {ls : List Text}, ls ≠ [] → (unlines ls).length + 1 = size ls
  | [], h => absurd rfl h
  | [l], _ => by simp
  | l :: m :: ls, _ => by
      have ih := length_unlines (List.cons_ne_nil m ls)
      rw [Text.unlines_cons_cons]
      simp only [List.length_append, List.length_cons, size_cons] at ih ⊢
      omega

theorem length_text (t : Text) : t.length + 1 = size (lines t) := by
  have h := length_unlines (Text.lines_ne_nil t)
  rwa [Text.unlines_lines] at h

/-! ## Line feeds -/

theorem not_mem_of_mem_lines {t l : Text} (h : l ∈ lines t) : '\n' ∉ l := by
  induction t generalizing l with
  | nil =>
      simp only [lines, List.mem_singleton] at h
      subst h
      exact List.not_mem_nil
  | cons c t ih =>
      simp only [lines] at h
      split at h
      next hc =>
        rcases List.mem_cons.1 h with rfl | h
        · exact List.not_mem_nil
        · exact ih h
      next hc =>
        obtain ⟨m, ms, hm⟩ := List.exists_cons_of_ne_nil (Text.lines_ne_nil t)
        rw [hm, Text.consHead] at h
        rcases List.mem_cons.1 h with rfl | h
        · have hm' := ih (hm ▸ List.mem_cons_self)
          simp only [List.mem_cons, not_or]
          exact ⟨Ne.symm hc, hm'⟩
        · exact ih (hm ▸ List.mem_cons_of_mem m h)

def closed (ls : List Text) : Text := ls.flatMap (· ++ ['\n'])

@[simp] theorem length_closed (ls : List Text) : (closed ls).length = size ls := by
  induction ls with
  | nil => rfl
  | cons l ls ih => simp [closed] at ih ⊢; omega

theorem count_closed {ls : List Text} (h : ∀ l ∈ ls, '\n' ∉ l) : (closed ls).count '\n' = ls.length := by
  induction ls with
  | nil => rfl
  | cons l ls ih =>
      have hl := List.count_eq_zero_of_not_mem (h l List.mem_cons_self)
      have ih := ih fun m hm => h m (List.mem_cons_of_mem l hm)
      simp only [closed, List.flatMap_cons, List.count_append] at ih ⊢
      rw [hl, ih]
      simp [Nat.add_comm]

theorem unlines_append {a b : List Text} (h : b ≠ []) : unlines (a ++ b) = closed a ++ unlines b := by
  induction a with
  | nil => rfl
  | cons l a ih =>
      obtain ⟨m, ms, hm⟩ := List.exists_cons_of_ne_nil (l := a ++ b) (by simp [h])
      rw [List.cons_append, hm, Text.unlines_cons_cons, ← hm, ih]
      simp [closed]

/-- Lines with their line feeds are the joined lines and one more line feed. -/
theorem closed_eq : ∀ {ls : List Text}, ls ≠ [] → closed ls = unlines ls ++ ['\n']
  | [], h => absurd rfl h
  | [l], _ => by simp [closed]
  | l :: m :: ls, _ => by
      have ih := closed_eq (List.cons_ne_nil m ls)
      rw [Text.unlines_cons_cons, List.append_assoc, List.cons_append, ← ih]
      simp [closed]

theorem count_unlines {ls : List Text} (h : ∀ l ∈ ls, '\n' ∉ l) (hne : ls ≠ []) :
    (unlines ls).count '\n' + 1 = ls.length := by
  have hc := count_closed h
  rw [closed_eq hne, List.count_append] at hc
  simpa using hc

theorem unlines_leads {a : List Text} (h : a ≠ []) (b : List Text) : unlines a <+: unlines (a ++ b) := by
  cases b with
  | nil => simp
  | cons m ms =>
      obtain ⟨l, ls, rfl⟩ := List.exists_cons_of_ne_nil h
      rw [unlines_append (List.cons_ne_nil m ms), closed_eq (List.cons_ne_nil l ls)]
      exact ⟨'\n' :: unlines (m :: ms), by simp⟩

/-! ## Where lines stand -/

/-- The number of line feeds before a position. -/
def rowAt (t : Text) (i : Nat) : Nat := (t.take i).count '\n'

theorem rowAt_mono {t : Text} {i j : Nat} (h : i ≤ j) : rowAt t i ≤ rowAt t j :=
  (List.take_sublist_take_left h).count_le _

/-- Some lines of a text stand at a row and a position. -/
def Stands (t : Text) (row offset : Nat) (ls : List Text) : Prop :=
  ∃ above below, lines t = above ++ (ls ++ below) ∧ above.length = row ∧ size above = offset

theorem stands_lines (t : Text) : Stands t 0 0 (lines t) := ⟨[], [], by simp, rfl, rfl⟩

namespace Stands

variable {t : Text} {row offset : Nat}

theorem left {a b : List Text} (h : Stands t row offset (a ++ b)) : Stands t row offset a := by
  obtain ⟨above, below, hl, hr, ho⟩ := h
  exact ⟨above, b ++ below, by rw [hl, List.append_assoc], hr, ho⟩

theorem right {a b : List Text} (h : Stands t row offset (a ++ b)) :
    Stands t (row + a.length) (offset + size a) b := by
  obtain ⟨above, below, hl, hr, ho⟩ := h
  refine ⟨above ++ a, below, by rw [hl]; simp, ?_, ?_⟩
  · rw [List.length_append, hr]
  · rw [size_append, ho]

theorem of_leading {a b : List Text} (h : Stands t row offset b) (hab : a <+: b) :
    Stands t row offset a := by
  obtain ⟨c, rfl⟩ := hab
  exact h.left

/-- The text is the lines above, each with its line feed, and then the lines
that stand there with all that follows. -/
theorem text_eq {l : Text} {ls : List Text} (h : Stands t row offset (l :: ls)) :
    ∃ above below, t = closed above ++ unlines (l :: ls ++ below) ∧
      (closed above).length = offset ∧ (closed above).count '\n' = row ∧ '\n' ∉ l ∧
        ∀ m ∈ ls, '\n' ∉ m := by
  obtain ⟨above, below, hl, hr, ho⟩ := h
  have hclean : ∀ m ∈ above ++ (l :: ls ++ below), '\n' ∉ m := fun m hm => not_mem_of_mem_lines (hl ▸ hm)
  refine ⟨above, below, ?_, ?_, ?_, ?_, ?_⟩
  · rw [← unlines_append (by simp), ← hl, Text.unlines_lines]
  · rw [length_closed, ho]
  · rw [count_closed fun m hm => hclean m (List.mem_append_left _ hm), hr]
  · exact hclean l (by simp)
  · exact fun m hm => hclean m (by simp [hm])

theorem stop_lt {ls : List Text} (h : Stands t row offset ls) : offset + size ls ≤ t.length + 1 := by
  obtain ⟨above, below, hl, _, ho⟩ := h
  rw [length_text, hl, size_append, size_append, ho]
  omega

/-- All positions of the first line are in its row. -/
theorem rowAt_head {l : Text} {ls : List Text} (h : Stands t row offset (l :: ls)) {k : Nat}
    (hk : k ≤ l.length) : rowAt t (offset + k) = row := by
  obtain ⟨above, below, ht, ho, hr, hl, _⟩ := h.text_eq
  obtain ⟨rest, hrest⟩ := unlines_leads (List.cons_ne_nil l []) (ls ++ below)
  have hjoin : unlines (l :: ls ++ below) = l ++ rest := by
    rw [List.cons_append, ← List.singleton_append, ← hrest]
    simp [unlines]
  rw [rowAt, ht, hjoin, ← ho, List.take_length_add_append, List.count_append, hr,
    List.take_append_of_le_length hk]
  have hz : (l.take k).count '\n' = 0 :=
    List.count_eq_zero_of_not_mem fun hm => hl (List.mem_of_mem_take hm)
  rw [hz, Nat.add_zero]

/-- The position behind some lines is in the row of the last of them. -/
theorem rowAt_stop {l : Text} {ls : List Text} (h : Stands t row offset (l :: ls)) :
    rowAt t (offset + (unlines (l :: ls)).length) = row + ls.length := by
  obtain ⟨above, below, ht, ho, hr, hl, hls⟩ := h.text_eq
  obtain ⟨rest, hrest⟩ := unlines_leads (List.cons_ne_nil l ls) below
  have hclean : ∀ m ∈ l :: ls, '\n' ∉ m := by
    intro m hm
    rcases List.mem_cons.1 hm with rfl | hm
    · exact hl
    · exact hls m hm
  have hcount := count_unlines hclean (List.cons_ne_nil l ls)
  rw [rowAt, ht, ← hrest, ← ho, List.take_length_add_append, List.count_append, hr,
    List.take_left]
  rw [List.length_cons] at hcount
  omega

end Stands

end Redline.Outline
