import Mathlib.Data.List.Nodup
import Redline.Text.Basic

/-!
# Edits made at once and one after the other

`substitute` makes all of a list of edits in a text at once.  It says for every
position of the original text what stands there afterwards: the texts of the
edits that start there, in the order of the list, and the character itself
unless an edit covers it.

Edits can also be made one after the other.  Then a position of the original
text moves with every edit before it, and `position` says where it is after
some edits.  `splice_substitute` is the step: if an edit lies apart from those
made before, then replacing its moved span makes it in addition to them.  An
edit that is made later comes first in the list, so of two insertions at one
position the later one stands before the earlier one.
-/

namespace Redline.Patch

/-- A text in place of the characters between two positions. -/
structure Edit where
  /-- The position of the first character that is replaced. -/
  start : Nat
  stop : Nat
  text : Text
deriving DecidableEq, Repr

/-- Whether an edit replaces the character at a position. -/
def Edit.covers (e : Edit) (i : Nat) : Bool := e.start ≤ i && i < e.stop

/-- What stands for a position of the text when all edits are made at once. -/
def piece (content : Text) (es : List Edit) (i : Nat) : Text :=
  (es.filter (·.start == i)).flatMap (·.text) ++
    if es.any (·.covers i) then [] else content[i]?.toList

/-- What stands for the positions between two when all edits are made at once. -/
def between (content : Text) (es : List Edit) (i j : Nat) : Text :=
  (List.range' i (j - i)).flatMap (piece content es)

/-- The text with all edits made at once.  The last position is the one behind the
last character. -/
def substitute (content : Text) (es : List Edit) : Text := between content es 0 (content.length + 1)

/-- Where a position of the text is after the edits. -/
def position (content : Text) (es : List Edit) (i : Nat) : Nat := (between content es 0 i).length

/-! ## Parts of the text -/

section

variable {content : Text} {es fs : List Edit} {i j k : Nat}

theorem between_append (hij : i ≤ j) (hjk : j ≤ k) :
    between content es i j ++ between content es j k = between content es i k := by
  have hj : i + (j - i) = j := by omega
  have hsum : (j - i) + (k - j) = k - i := by omega
  have happ := List.range'_append_1 (s := i) (m := j - i) (n := k - j)
  rw [hj, hsum] at happ
  rw [between, between, between, ← List.flatMap_append, happ]

theorem between_succ (hij : i < j) :
    between content es i j = piece content es i ++ between content es (i + 1) j := by
  rw [← between_append (Nat.le_succ i) hij]
  simp [between]

theorem between_congr (h : ∀ n, i ≤ n → n < j → piece content es n = piece content fs n) :
    between content es i j = between content fs i j := by
  have hmem : ∀ n ∈ List.range' i (j - i), piece content es n = piece content fs n := by
    intro n hn
    rw [List.mem_range'_1] at hn
    exact h n hn.1 (by omega)
  rw [between, between]
  exact List.flatMap_congr hmem

theorem between_eq_nil (h : ∀ n, i ≤ n → n < j → piece content es n = []) :
    between content es i j = [] := by
  rw [between, List.flatMap_eq_nil_iff]
  intro n hn
  rw [List.mem_range'_1] at hn
  exact h n hn.1 (by omega)

/-- Without edits every character stands for itself. -/
theorem between_nil : between content [] i j = (content.take j).drop i := by
  have hrun : ∀ n i, (List.range' i n).flatMap (piece content []) = (content.drop i).take n := by
    intro n
    induction n with
    | zero => simp
    | succ n ih =>
        intro i
        rw [List.range'_succ, List.flatMap_cons, ih]
        by_cases hi : i < content.length
        · rw [List.drop_eq_getElem_cons hi, List.take_succ_cons]
          simp [piece, hi]
        · simp [piece, List.drop_eq_nil_of_le (Nat.le_of_not_lt hi), hi]
          omega
  rw [between, hrun, List.drop_take]

theorem position_le (h : i ≤ j) : position content es i ≤ position content es j := by
  rw [position, position, ← between_append (Nat.zero_le i) h, List.length_append]
  omega

/-- A text is cut where a position has moved to. -/
theorem take_position (h : i ≤ content.length + 1) :
    (substitute content es).take (position content es i) = between content es 0 i := by
  rw [substitute, ← between_append (Nat.zero_le i) h, position, List.take_left]

theorem drop_position (h : i ≤ content.length + 1) :
    (substitute content es).drop (position content es i) = between content es i (content.length + 1) := by
  rw [substitute, ← between_append (Nat.zero_le i) h, position, List.drop_left]

theorem position_le_length (h : i ≤ content.length + 1) :
    position content es i ≤ (substitute content es).length := position_le h

end

/-! ## Edits that lie apart -/

/-- An edit lies apart from one that is made before it: at least one character
stands between them, or the earlier one is an insertion at the end of the later
one. -/
def Edit.Apart (e d : Edit) : Prop :=
  e.stop < d.start ∨ d.stop < e.start ∨ d.start = e.stop ∧ d.stop = e.stop

/-- An edit of a text that lies apart from all edits that were made. -/
structure Edit.Pending (content : Text) (done : List Edit) (e : Edit) : Prop where
  /-- It does not end before it starts. -/
  start_le : e.start ≤ e.stop
  stop_le : e.stop ≤ content.length
  /-- It lies apart from the others, which do not end before they start. -/
  apart : ∀ d ∈ done, d.start ≤ d.stop ∧ e.Apart d

namespace Edit.Pending

variable {content : Text} {done : List Edit} {e m : Edit}

/-- No edit that was made starts inside a pending one or covers a character of it. -/
theorem untouched (h : e.Pending content done) {d : Edit} (hd : d ∈ done) {i : Nat} (hlo : e.start ≤ i)
    (hhi : i < e.stop) : d.start ≠ i ∧ d.covers i = false := by
  obtain ⟨hle, hapart⟩ := h.apart d hd
  simp only [Edit.covers, Bool.and_eq_false_iff, decide_eq_false_iff_not]
  rcases hapart with hlt | hlt | ⟨hs, ht⟩ <;> omega

theorem piece_inside (h : e.Pending content done) {i : Nat} (hlo : e.start ≤ i) (hhi : i < e.stop) :
    piece content done i = piece content [] i := by
  have hfilter : done.filter (·.start == i) = [] := by
    rw [List.filter_eq_nil_iff]
    intro d hd
    simpa using (h.untouched hd hlo hhi).1
  have hany : done.any (·.covers i) = false := by
    rw [List.any_eq_false]
    intro d hd
    simpa using (h.untouched hd hlo hhi).2
  simp [piece, hfilter, hany]

/-- The characters of a pending edit are still there. -/
theorem between_inside (h : e.Pending content done) :
    between content done e.start e.stop = (content.take e.stop).drop e.start := by
  rw [between_congr fun n hlo hhi => h.piece_inside hlo hhi, between_nil]

theorem position_stop (h : e.Pending content done) :
    position content done e.stop = position content done e.start + (e.stop - e.start) := by
  rw [position, ← between_append (Nat.zero_le _) h.start_le, List.length_append, h.between_inside,
    List.length_drop, List.length_take, position]
  have := h.stop_le
  omega

/-- The character behind a pending edit is still there. -/
theorem position_lt (h : e.Pending content done) {i : Nat} (hlt : e.stop < i) (hi : i ≤ content.length) :
    position content done e.stop < position content done i := by
  have hany : done.any (·.covers e.stop) = false := by
    rw [List.any_eq_false]
    intro d hd
    obtain ⟨hle, hapart⟩ := h.apart d hd
    have := h.start_le
    simp only [Edit.covers, Bool.and_eq_true, decide_eq_true_eq, not_and, Nat.not_lt]
    rcases hapart with hlt | hlt | ⟨hs, ht⟩ <;> omega
  have hpos : 0 < (piece content done e.stop).length := by
    have hlen : e.stop < content.length := by omega
    simp [piece, hany, hlen]
  rw [position, position, ← between_append (Nat.zero_le e.stop) (Nat.le_of_lt hlt),
    between_succ hlt, List.length_append, List.length_append]
  omega

end Edit.Pending

/-! ## One edit more -/

section

variable {content : Text} {done : List Edit} {e : Edit} {i j : Nat}

theorem piece_cons_outside (h : i < e.start ∨ e.stop ≤ i ∧ e.start < i) :
    piece content (e :: done) i = piece content done i := by
  have hstart : (e.start == i) = false := by
    rw [beq_eq_false_iff_ne]
    omega
  have hcov : e.covers i = false := by
    simp only [Edit.covers, Bool.and_eq_false_iff, decide_eq_false_iff_not]
    omega
  simp [piece, hstart, hcov]

theorem between_cons_before (h : j ≤ e.start) :
    between content (e :: done) i j = between content done i j :=
  between_congr fun n _ hn => piece_cons_outside (Or.inl (by omega))

theorem between_cons_after (h : e.stop ≤ i) (h' : e.start < i) :
    between content (e :: done) i j = between content done i j :=
  between_congr fun n hn _ => piece_cons_outside (Or.inr (by omega))

/-- From the start of an edit on there stands its text and then what stood behind it. -/
theorem between_cons_across (h : e.Pending content done) (hj : e.start < j) (hj' : e.stop ≤ j) :
    between content (e :: done) e.start j = e.text ++ between content done e.stop j := by
  rcases Nat.lt_or_eq_of_le h.start_le with hlt | heq
  · have hcov : e.covers e.start = true := by simp [Edit.covers, hlt]
    have hfilter : done.filter (·.start == e.start) = [] := by
      rw [List.filter_eq_nil_iff]
      intro d hd
      simpa using (h.untouched hd (Nat.le_refl _) hlt).1
    have hfirst : piece content (e :: done) e.start = e.text := by simp [piece, hcov, hfilter]
    have hrest : between content (e :: done) (e.start + 1) e.stop = [] := by
      refine between_eq_nil fun n hlo hhi => ?_
      have hcov : e.covers n = true := by
        simp only [Edit.covers, Bool.and_eq_true, decide_eq_true_eq]
        omega
      have hfilter : (e :: done).filter (·.start == n) = [] := by
        rw [List.filter_eq_nil_iff]
        intro d hd
        rcases List.mem_cons.1 hd with rfl | hd
        · simpa using by omega
        · simpa using (h.untouched hd (by omega) hhi).1
      simp [piece, hcov, hfilter]
    rw [← between_append h.start_le hj', between_succ hlt, hfirst, hrest, List.append_nil,
      between_cons_after (Nat.le_refl _) hlt]
  · -- an insertion: nothing is covered, and the text comes before all that starts here
    have hcov : e.covers e.start = false := by simp [Edit.covers, heq]
    have hfirst : piece content (e :: done) e.start = e.text ++ piece content done e.start := by
      simp [piece, hcov]
    rw [between_succ hj, hfirst, between_cons_after (by omega) (Nat.lt_succ_self _), ← heq,
      between_succ hj, List.append_assoc]

theorem substitute_cons (h : e.Pending content done) :
    substitute content (e :: done) =
      between content done 0 e.start ++ e.text ++ between content done e.stop (content.length + 1) := by
  have hstop := h.stop_le
  have hstart := h.start_le
  rw [substitute, ← between_append (Nat.zero_le e.start) (by omega), between_cons_before (Nat.le_refl _),
    between_cons_across h (by omega) (by omega), List.append_assoc]

theorem position_cons_before (h : i ≤ e.start) :
    position content (e :: done) i = position content done i := by
  rw [position, between_cons_before h, position]

/-- Behind an edit all positions move by the change of its length. -/
theorem position_cons_after (h : e.Pending content done) (hi : e.stop ≤ i) (hi' : e.start < i) :
    (position content (e :: done) i : Int) = position content done i +
      (position content done e.start + e.text.length - position content done e.stop : Int) := by
  have hold : position content done i = position content done e.stop + (between content done e.stop i).length := by
    rw [position, ← between_append (Nat.zero_le e.stop) hi, List.length_append, position]
  have hnew : position content (e :: done) i =
      position content done e.start + (e.text.length + (between content done e.stop i).length) := by
    rw [position, ← between_append (Nat.zero_le e.start) (by omega), between_cons_before (Nat.le_refl _),
      between_cons_across h hi' hi, List.length_append, List.length_append, position]
  omega

/-- The text at the moved span of a pending edit is the original one. -/
theorem slice_substitute (h : e.Pending content done) :
    Text.slice (substitute content done) (position content done e.start : Int)
      (position content done e.stop : Int) = Text.slice content e.start e.stop := by
  have hstop := h.stop_le
  have hstart := h.start_le
  have hpos := h.position_stop
  have hlen : position content done e.stop ≤ (substitute content done).length :=
    position_le_length (by omega)
  rw [Text.slice, Text.slice, Text.before, Text.before, Text.clip_natCast hlen,
    Text.clip_natCast (by omega), Text.clip_natCast hstop, Text.clip_natCast (by omega),
    take_position (by omega), ← between_append (Nat.zero_le _) hstart, h.between_inside]
  rw [position, List.drop_left]

/-- Replacing the moved span of a pending edit makes it in addition to those that
were made. -/
theorem splice_substitute (h : e.Pending content done) :
    Text.splice (substitute content done) (position content done e.start : Int)
      (position content done e.stop : Int) e.text = substitute content (e :: done) := by
  have hstop := h.stop_le
  have hstart := h.start_le
  have hle : position content done e.stop ≤ (substitute content done).length :=
    position_le_length (by omega)
  have hle' : position content done e.start ≤ (substitute content done).length :=
    position_le_length (by omega)
  rw [Text.splice, Text.before, Text.after, Text.clip_natCast hle, Text.clip_natCast hle',
    take_position (by omega), drop_position (by omega), substitute_cons h]

/-! ## No edits, and edits in another order -/

theorem position_nil (h : i ≤ content.length) : position content [] i = i := by
  rw [position, between_nil, List.drop_zero, List.length_take]
  omega

@[simp] theorem substitute_nil : substitute content [] = content := by
  rw [substitute, between_nil, List.drop_zero, List.take_of_length_le (Nat.le_succ _)]

/-- Edits that start at different positions can be listed in any order. -/
theorem substitute_perm {us vs : List Edit} (h : us.Perm vs) (hstarts : (us.map (·.start)).Nodup)
    (is : List Edit) : substitute content (us ++ is) = substitute content (vs ++ is) := by
  refine between_congr fun n _ _ => ?_
  have hany : us.any (·.covers n) = vs.any (·.covers n) := h.any_eq
  have hfilter : us.filter (·.start == n) = vs.filter (·.start == n) := by
    have hperm := h.filter (·.start == n)
    have hone : (us.filter (·.start == n)).length ≤ 1 := by
      have hcount := List.nodup_iff_count_le_one.1 hstarts n
      rw [List.count_eq_countP, List.countP_map, List.countP_eq_length_filter] at hcount
      exact hcount
    rcases hus : us.filter (·.start == n) with _ | ⟨d, _ | ⟨e, es⟩⟩
    · rw [hus] at hperm ⊢
      exact hperm.nil_eq
    · rw [hus] at hperm ⊢
      exact List.singleton_perm.1 hperm
    · rw [hus] at hone
      simp at hone
  rw [piece, piece, List.filter_append, List.filter_append, List.any_append, List.any_append, hany, hfilter]

end

end Redline.Patch
