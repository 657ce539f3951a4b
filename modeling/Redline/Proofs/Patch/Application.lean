import Redline.Proofs.Outline.Steady
import Redline.Proofs.Patch.Substitution
import Redline.Patch.Apply

/-!
# Applying registered modifications

Modifications are applied one after the other, and each application moves the
spans of all others.  The modifications that still wait are where their spans
have moved to (`Ready`).  An application makes one edit more and keeps this
(`Ready.step`), so a run makes all edits at once in the original text
(`Ready.run`).  What the applied modifications say about their own spans does
not matter.
-/

namespace Redline

open Outline Patch

/-! ## Formatters without output -/

/-- The formatter never gives a text that is not empty. -/
def Formatter.Silent (formatter : Formatter) : Prop :=
  ∀ language t c u, formatter language t ≠ .ok (some (c :: u))

/-! ## The edit of a modification -/

namespace Modification

def edit (m : Modification) : Edit := ⟨m.start.toNat, m.stop.toNat, m.replacement⟩

/-- The modification with its span where some edits have moved it. -/
def moved (content : Text) (done : List Edit) (m : Modification) : Modification :=
  { m with start := position content done m.edit.start, stop := position content done m.edit.stop }

/-- A modification is meant for what stands at its span. -/
structure Fits (content : Text) (m : Modification) : Prop where
  /-- Its span does not count from the end. -/
  start_nonneg : 0 ≤ m.start
  stop_nonneg : 0 ≤ m.stop
  target_eq : m.target = Text.slice content m.start m.stop

/-- A modification that ends before an edit stays. -/
theorem afterEdit_of_le {m : Modification} {start oldStop newStop : Int} (hm : m.start ≤ m.stop)
    (hle : m.stop ≤ start) (hedit : start ≤ oldStop) : m.afterEdit start oldStop newStop = m := by
  have hbehind : ¬oldStop < m.start := by omega
  have hacross : ¬(m.start < start ∧ start < m.stop) := by omega
  simp [afterEdit, hbehind, hacross]

/-- A modification behind an edit moves with the text. -/
theorem afterEdit_of_lt {m : Modification} {start oldStop newStop : Int} (hlt : oldStop < m.start)
    (hedit : start ≤ oldStop) : m.afterEdit start oldStop newStop =
      { m with start := m.start + (newStop - oldStop), stop := m.stop + (newStop - oldStop) } := by
  have hother : ¬(m.start = start ∧ m.stop = oldStop) := by omega
  simp [afterEdit, hother, hlt]

section

variable {content : Text} {done : List Edit} {m : Modification} {e : Edit}

theorem moved_nil (hm : m.Fits content) (hp : m.edit.Pending content []) : m.moved content [] = m := by
  have hle := hp.start_le
  have hlen := hp.stop_le
  rw [moved, position_nil (by omega), position_nil hlen, edit, Int.toNat_of_nonneg hm.start_nonneg,
    Int.toNat_of_nonneg hm.stop_nonneg]

/-- An edit moves a waiting modification to where it is after that edit. -/
theorem afterEdit_moved (he : e.Pending content done) (hm : m.edit.Pending content (e :: done)) :
    (m.moved content done).afterEdit (position content done e.start) (position content done e.stop)
      (position content done e.start + e.text.length) = m.moved content (e :: done) := by
  obtain ⟨hwidth, hapart⟩ := hm.apart e List.mem_cons_self
  have hle := hm.start_le
  have hwide : position content done e.start ≤ position content done e.stop := position_le hwidth
  rcases Nat.lt_or_ge e.stop m.edit.start with hbehind | hbefore
  · -- it starts behind the edit and moves with the text
    have hlt := he.position_lt hbehind (Nat.le_trans hle hm.stop_le)
    have hs := position_cons_after he (Nat.le_of_lt hbehind) (Nat.lt_of_le_of_lt hwidth hbehind)
    have ht := position_cons_after (i := m.edit.stop) he (by omega) (by omega)
    rw [afterEdit_of_lt (Int.ofNat_lt.2 hlt) (Int.ofNat_le.2 hwide), moved, moved, hs, ht]
  · -- it ends before the edit, at the latest where the edit inserts, and stays
    have hstop : m.edit.stop ≤ e.start := by
      rcases hapart with h | h | h <;> omega
    have hspan : position content done m.edit.start ≤ position content done m.edit.stop := position_le hle
    have hend : position content done m.edit.stop ≤ position content done e.start := position_le hstop
    rw [afterEdit_of_le (Int.ofNat_le.2 hspan) (Int.ofNat_le.2 hend) (Int.ofNat_le.2 hwide), moved, moved,
      position_cons_before hstop, position_cons_before (Nat.le_trans hle hstop)]

end

end Modification

/-! ## One application and a run of them -/

namespace Patcher

theorem unitAt_int {p : Patcher} {root : Node} (h : p.tree = some (.whole root)) (line : Int) :
    p.unitAt (.int line) = .ok (root.codeUnit? line) := by
  rw [unitAt, placeAt, h]
  rfl

/-- A patcher that has made some edits of a text.  The modifications from a number
on wait: each is where the edits have moved it, and lies apart from the edits and
from the others. -/
structure Ready (content : Text) (done : List Edit) (waiting : List Modification) (index : Nat)
    (p : Patcher) : Prop where
  content_eq : p.content = substitute content done
  tree_eq : ∃ root, p.tree = some (.whole root)
  /-- The modifications that wait have moved with the text. -/
  waiting_eq : p.modifications.drop index = waiting.map (·.moved content done)
  /-- They fit the original text and can still be made there. -/
  pending : ∀ m ∈ waiting, m.Fits content ∧ m.edit.Pending content done
  apart : waiting.Pairwise fun d m => m.edit.Apart d.edit

section

variable {content : Text} {done : List Edit} {m : Modification} {ms : List Modification} {index : Nat}
  {p : Patcher} {q : Parsers}

/-- A waiting modification is found at its own span. -/
theorem Ready.locate (h : p.Ready content done (m :: ms) index) :
    p.locate (m.moved content done) =
      .ok (some (position content done m.edit.start, position content done m.edit.stop)) := by
  obtain ⟨hfits, hpending⟩ := h.pending m List.mem_cons_self
  have hslice : Text.slice p.content (m.moved content done).start (m.moved content done).stop = m.target := by
    rw [h.content_eq, hfits.target_eq]
    simp only [Modification.moved]
    rw [slice_substitute hpending, Modification.edit, Int.toNat_of_nonneg hfits.start_nonneg,
      Int.toNat_of_nonneg hfits.stop_nonneg]
  have htarget : (m.moved content done).target = m.target := rfl
  rw [Patcher.locate, hslice, htarget, if_pos (beq_self_eq_true _)]
  rfl

/-- The patcher after the edit of the first waiting modification. -/
def after (content : Text) (done : List Edit) (m : Modification) (p : Patcher) : Patcher :=
  p.edited (position content done m.edit.start) (position content done m.edit.stop) (m.moved content done)
    (substitute content (m.edit :: done))
    (some (.whole (build (p.language.getD "") (substitute content (m.edit :: done)))))

/-- After the edit of the first waiting modification the others wait on. -/
theorem Ready.after (h : p.Ready content done (m :: ms) index) :
    (p.after content done m).Ready content (m.edit :: done) ms (index + 1) := by
  obtain ⟨-, hpending⟩ := h.pending m List.mem_cons_self
  obtain ⟨hfirst, hrest⟩ := List.pairwise_cons.1 h.apart
  have hwait : ∀ d ∈ ms, d.Fits content ∧ d.edit.Pending content (m.edit :: done) := by
    intro d hd
    obtain ⟨hfits, hd'⟩ := h.pending d (List.mem_cons_of_mem m hd)
    refine ⟨hfits, hd'.start_le, hd'.stop_le, fun e he => ?_⟩
    rcases List.mem_cons.1 he with rfl | he
    · exact ⟨hpending.start_le, hfirst d hd⟩
    · exact hd'.apart e he
  refine ⟨rfl, ⟨_, rfl⟩, ?_, hwait, hrest⟩
  have hdrop : p.modifications.drop (index + 1) = ms.map (·.moved content done) := by
    rw [← List.drop_drop, h.waiting_eq, List.map_cons, List.drop_one, List.tail_cons]
  simp only [Patcher.after, edited]
  rw [← List.map_drop, hdrop, List.map_map]
  exact List.map_congr_left fun d hd => Modification.afterEdit_moved hpending (hwait d hd).2

/-- Applying the first waiting modification makes its edit. -/
theorem Ready.apply (hq : q.Faultless) (h : p.Ready content done (m :: ms) index) :
    ∃ q', q'.Faultless ∧ p.apply (m.moved content done) q =
      .ok (.applied (substitute content (m.edit :: done)), p.after content done m) q' := by
  obtain ⟨root, htree⟩ := h.tree_eq
  obtain ⟨-, hpending⟩ := h.pending m List.mem_cons_self
  obtain ⟨q', hparse, hq'⟩ := parse_faultless hq (p.language.getD "") (substitute content (m.edit :: done))
  have hsplice : p.content.splice (position content done m.edit.start : Int)
      (position content done m.edit.stop : Int) (m.moved content done).replacement =
        substitute content (m.edit :: done) := by
    rw [h.content_eq]
    exact splice_substitute hpending
  have hensure : p.ensureTree q = .ok p q := by
    rw [ensureTree, htree]
    rfl
  refine ⟨q', hq', ?_⟩
  rw [Patcher.apply, bind_of_ok hensure, htree]
  simp only [applyIn, h.locate, replaceAt, hsplice, hparse]
  rfl

/-- Applying all waiting modifications makes all their edits, the last one first
in the list. -/
theorem Ready.applyFrom (hq : q.Faultless) (h : p.Ready content done ms index) :
    ∃ p' q', p.applyFrom index ms.length q = .ok (.applied p'.content, p') q' ∧
      p'.content = substitute content ((ms.map (·.edit)).reverse ++ done) := by
  induction ms generalizing done index p q with
  | nil => exact ⟨p, q, rfl, h.content_eq⟩
  | cons m ms ih =>
      obtain ⟨q₁, hq₁, happly⟩ := h.apply hq
      obtain ⟨p', q', hrun, hcontent⟩ := ih hq₁ h.after
      have hget : p.modifications[index]? = some (m.moved content done) := by
        rw [← List.head?_drop, h.waiting_eq]
        rfl
      refine ⟨p', q', ?_, ?_⟩
      · simp only [List.length_cons, Patcher.applyFrom, hget]
        rw [bind_of_ok happly]
        exact hrun
      · rw [hcontent, List.map_cons, List.reverse_cons, List.append_assoc]
        rfl

end

theorem format_silent {formatter : Formatter} (hf : Formatter.Silent formatter) (p : Patcher) :
    p.format formatter = pure p := by
  unfold format
  split
  next => rfl
  next =>
    split
    next h => exact absurd h (hf _ _ _ _)
    next => rfl

/-- All modifications that fit a text and lie apart are applied at once. -/
theorem applyAll_eq {p : Patcher} {q : Parsers} {formatter : Formatter} {root : Node} (hq : q.Faultless)
    (hf : Formatter.Silent formatter) (htree : p.tree = some (.whole root))
    (hfits : ∀ m ∈ p.modifications, m.Fits p.content ∧ m.edit.Pending p.content [])
    (hapart : p.modifications.Pairwise fun d m => m.edit.Apart d.edit) :
    ∃ p' q', p.applyAll formatter q = .ok (.applied p'.content, p') q' ∧
      p'.content = substitute p.content (p.modifications.map (·.edit)).reverse := by
  have hready : p.Ready p.content [] p.modifications 0 := by
    refine ⟨substitute_nil.symm, ⟨root, htree⟩, ?_, hfits, hapart⟩
    have hstay : ∀ m ∈ p.modifications, m.moved p.content [] = m := fun m hm =>
      Modification.moved_nil (hfits m hm).1 (hfits m hm).2
    rw [List.drop_zero, List.map_congr_left hstay, List.map_id']
  obtain ⟨p', q', hrun, hcontent⟩ := hready.applyFrom hq
  rw [List.append_nil] at hcontent
  refine ⟨p', q', ?_, hcontent⟩
  unfold applyAll
  split
  next hnil =>
    rw [List.isEmpty_iff] at hnil
    rw [hnil] at hrun
    exact hrun
  next =>
    rw [bind_of_ok hrun]
    simp only [PatchResult.applied, format_silent hf]
    rfl

end Patcher

end Redline
