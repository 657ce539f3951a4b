import Mathlib.Data.List.Perm.Basic
import Redline.Proofs.Grouping

/-!
# The comments of each code unit

The comments on a file are grouped by the lines of the excerpt that shows them.  The
groups make up the comments, each is in the stable order of its lines, and they come in the
order of their first comments (`Partitions`).  All this follows from the groups being
those of the keys in the order in which they first come.  So if the comments are given in
another arrangement, the same comments are together, and only groups, and comments on one
line, may change places (`byUnit_partitions`).
-/

namespace Redline

open Outline Outline.Parsers

section

variable {κ α : Type} [BEq κ] [LawfulBEq κ]

open Classical in
/-- Groups make up some items.  Items of one key are together, and each group is in the
stable order of a rank. -/
structure Partitions (key : α → κ) (rank : α → Int) (as : List α) (groups : List (List α)) : Prop where
  /-- No group is empty. -/
  ne_nil : ∀ g ∈ groups, g ≠ []
  /-- No item is lost or added. -/
  perm : groups.flatten.Perm as
  /-- A group is the stable order of the items that it holds. -/
  sorted : ∀ g ∈ groups, StablySorted rank (as.filter (· ∈ g)) g
  /-- An item of the earlier of two groups comes before all those of the later one. -/
  firsts : groups.Pairwise fun g h => ∃ l a m, as = l ++ a :: m ∧ a ∈ g ∧ ∀ b ∈ h, b ∉ l
  /-- Two items are in one group exactly if they have the same key. -/
  same : ∀ a ∈ as, ∀ b ∈ as, (∃ g ∈ groups, a ∈ g ∧ b ∈ g) ↔ key a = key b

variable {key : α → κ} {rank : α → Int} {as bs : List α} {order : κ → List α}

/-- The items of every key are put in stable order. -/
def Arranges (key : α → κ) (rank : α → Int) (as : List α) (order : κ → List α) : Prop :=
  ∀ k, StablySorted rank (as.filter (key · == k)) (order k)

theorem Arranges.mem_iff (h : Arranges key rank as order) {k : κ} {a : α} : a ∈ order k ↔ a ∈ as ∧ key a = k := by
  rw [(h k).perm.mem_iff, List.mem_filter, beq_iff_eq]

theorem Arranges.flatten_perm (h : Arranges key rank as order) :
    ((as.map key).eraseDups.map order).flatten.Perm as := by
  have hgroups := groupBy_perm key as
  rw [groupBy_eq, List.flatMap_map] at hgroups
  rw [← List.flatMap_def]
  exact (List.Perm.flatMap_left _ fun k _ => (h k).perm).trans hgroups

/-- The groups of the keys, in the order in which these first come, make up the items. -/
theorem Arranges.partitions (h : Arranges key rank as order) :
    Partitions key rank as ((as.map key).eraseDups.map order) where
  ne_nil := by
    intro g hg
    obtain ⟨k, hk, rfl⟩ := List.mem_map.1 hg
    obtain ⟨a, ha, rfl⟩ := List.mem_map.1 (List.mem_eraseDups.1 hk)
    exact List.ne_nil_of_mem (h.mem_iff.2 ⟨ha, rfl⟩)
  perm := h.flatten_perm
  sorted := by
    intro g hg
    classical
    obtain ⟨k, -, rfl⟩ := List.mem_map.1 hg
    have hheld : as.filter (· ∈ order k) = as.filter (key · == k) := by
      refine List.filter_congr fun a ha => ?_
      rw [Bool.eq_iff_iff, decide_eq_true_eq, h.mem_iff, beq_iff_eq]
      exact and_iff_right ha
    rw [hheld]
    exact h k
  firsts := by
    rw [List.pairwise_map]
    refine (eraseDups_firsts (as.map key)).imp fun {k k'} ⟨l, m, heq, hnot⟩ => ?_
    obtain ⟨l', rest, rfl, rfl, hrest⟩ := List.map_eq_append_iff.1 heq
    obtain ⟨a, m', rfl, rfl, -⟩ := List.map_eq_cons_iff.1 hrest
    refine ⟨l', a, m', rfl, h.mem_iff.2 ⟨by simp, rfl⟩, fun b hb hmem => hnot ?_⟩
    exact List.mem_map.2 ⟨b, hmem, (h.mem_iff.1 hb).2⟩
  same := by
    intro a ha b hb
    constructor
    · rintro ⟨g, hg, hga, hgb⟩
      obtain ⟨k, -, rfl⟩ := List.mem_map.1 hg
      rw [(h.mem_iff.1 hga).2, (h.mem_iff.1 hgb).2]
    · intro heq
      have hkey : key a ∈ (as.map key).eraseDups := List.mem_eraseDups.2 (List.mem_map_of_mem ha)
      exact ⟨order (key a), List.mem_map_of_mem hkey, h.mem_iff.2 ⟨ha, rfl⟩, h.mem_iff.2 ⟨hb, heq.symm⟩⟩

/-- Two lists of groups are the same, up to the order of the groups and to items of one
rank. -/
def AlikeUpToOrder (rank : α → Int) (groups groups' : List (List α)) : Prop :=
  ∃ gs, groups'.Perm gs ∧ List.Forall₂ (fun g h => h.Perm g ∧ h.map rank = g.map rank) groups gs

/-- Items in another arrangement have the same groups, up to their order and to items of
one rank. -/
theorem Arranges.alike (h : Arranges key rank as order) {order' : κ → List α} (h' : Arranges key rank bs order')
    (hperm : bs.Perm as) :
    AlikeUpToOrder rank ((as.map key).eraseDups.map order) ((bs.map key).eraseDups.map order') := by
  have hkeys : (bs.map key).eraseDups.Perm (as.map key).eraseDups := by
    refine (List.perm_ext_iff_of_nodup (nodup_eraseDups _) (nodup_eraseDups _)).2 fun k => ?_
    rw [List.mem_eraseDups, List.mem_eraseDups, (hperm.map key).mem_iff]
  refine ⟨(as.map key).eraseDups.map order', hkeys.map order', ?_⟩
  rw [List.forall₂_map_left_iff, List.forall₂_map_right_iff, List.forall₂_same]
  intro k _
  have hitems : (bs.filter (key · == k)).Perm (as.filter (key · == k)) := hperm.filter _
  exact ⟨((h' k).perm.trans hitems).trans (h k).perm.symm, (h' k).ranks_eq (h k) hitems⟩

end

/-- The first and the last line of an excerpt. -/
def Excerpt.range (e : Excerpt) : Int × Int := (e.context.startLine, e.context.endLine)

namespace Comment

variable {q : Parsers}

theorem arranges_sorted (path : String) (content : Text) (root : Option Node) {cs : List Comment} (hcs : Numbered cs) :
    Arranges (linesIn path content root) lineNumber cs fun k =>
      sorted (cs.filter (linesIn path content root · == k)) :=
  fun _ => sorted_stable fun c hc => hcs c (List.mem_filter.1 hc).1

theorem byUnitOf_gives (path : String) (content : Text) (hq : q.Steady) {cs : List Comment} (hcs : Numbered cs) :
    q.Gives (byUnitOf (.str path) (.ofText content) cs)
      ((cs.map (linesIn path content (q.outlineOf path content))).eraseDups.map fun k =>
        sorted (cs.filter (linesIn path content (q.outlineOf path content) · == k))) := by
  have hgroups := byUnit_gives path content hq hcs
  rw [groupBy_eq, List.map_map] at hgroups
  cases cs with
  | nil => exact .pure []
  | cons c cs =>
      have htext : (String.ofList content).toList = content := String.toList_ofList
      unfold byUnitOf
      refine Gives.bind (Gives.lift rfl) (Gives.bind (Gives.lift rfl) ?_)
      rw [htext]
      exact hgroups

/-- The groups of the comments on a file make up the comments, and two comments are in one
group exactly if they have no excerpt or excerpts of the same lines.  In another
arrangement of the comments only groups, and comments on one line, change places. -/
theorem byUnit_partitions (hq : q.Faultless) (path : String) (content : Text) {cs : List Comment}
    (hcs : Numbered cs) :
    ∃ (excerpt : Comment → Option Excerpt) (groups : List (List Comment)),
      (∀ c ∈ cs, q.Gives (Context.extract path content c.line) (excerpt c)) ∧
      q.Gives (byUnitOf (.str path) (.ofText content) cs) groups ∧
      Partitions (fun c => (excerpt c).map Excerpt.range) lineNumber cs groups ∧
      ∀ cs' : List Comment, cs'.Perm cs → ∃ groups', q.Gives (byUnitOf (.str path) (.ofText content) cs') groups' ∧
        AlikeUpToOrder lineNumber groups groups' := by
  let root := q.outlineOf path content
  have harranges : ∀ {ds : List Comment}, Numbered ds → Arranges (linesIn path content root) lineNumber ds _ :=
    arranges_sorted path content root
  refine ⟨fun c => Context.excerptOf path content root c.lineNumber, _, fun c hc => ?_,
    byUnitOf_gives path content hq.steady hcs, (harranges hcs).partitions, fun cs' hperm => ?_⟩
  · rw [hcs c hc]
    exact fun r hr => Context.extract_steady hq.steady hr path content c.lineNumber
  · have hcs' : Numbered cs' := fun c hc => hcs c (hperm.subset hc)
    exact ⟨_, byUnitOf_gives path content hq.steady hcs', (harranges hcs).alike (harranges hcs') hperm⟩

def twoFunctions : Text := "def f():\n    a\n    b\n\ndef g():\n    c\n    d\n".toList

def onLine (n : Int) : Comment := { id := .int n, path := .str "a.py", line := .int n, body := .str "" }

/-- Comments on both functions, and one behind the end. -/
def scattered : List Comment := [onLine 6, onLine 3, onLine 5, onLine 99]

def rangeIn : EStateM.Result Fault Parsers (Option Excerpt) → Option (Int × Int)
  | .ok e _ => e.map Excerpt.range
  | .error _ _ => none

theorem range_of_gives {n : Int} {e : Option Excerpt}
    (h : Parsers.sound.Gives (Context.extract "a.py" twoFunctions (onLine n).line) e) :
    e.map Excerpt.range = rangeIn (Context.extract "a.py" twoFunctions (onLine n).line Parsers.sound) := by
  obtain ⟨r, hrun, -⟩ := h Parsers.sound (Later.refl _)
  rw [hrun, rangeIn]

theorem byUnit_partitions_scattered : Numbered scattered ∧ ∃ groups,
    Parsers.sound.Gives (byUnitOf (.str "a.py") (.ofText twoFunctions) scattered) groups ∧
    groups.flatten.Perm scattered ∧ (∃ g ∈ groups, onLine 6 ∈ g ∧ onLine 5 ∈ g) ∧
    ¬∃ g ∈ groups, onLine 6 ∈ g ∧ onLine 3 ∈ g := by
  have hcs : Numbered scattered := by
    intro c hc
    simp only [scattered, List.mem_cons, List.not_mem_nil, or_false] at hc
    rcases hc with rfl | rfl | rfl | rfl <;> rfl
  obtain ⟨excerpt, groups, hexcerpt, hgives, hparts, -⟩ := byUnit_partitions faultless_sound "a.py" twoFunctions hcs
  have hsix : onLine 6 ∈ scattered := by simp [scattered]
  have hthree : onLine 3 ∈ scattered := by simp [scattered]
  have hfive : onLine 5 ∈ scattered := by simp [scattered]
  have hrange : rangeIn (Context.extract "a.py" twoFunctions (onLine 6).line Parsers.sound) = some (5, 7) ∧
      rangeIn (Context.extract "a.py" twoFunctions (onLine 5).line Parsers.sound) = some (5, 7) ∧
      rangeIn (Context.extract "a.py" twoFunctions (onLine 3).line Parsers.sound) = some (1, 3) := by decide +kernel
  have hsixth := (range_of_gives (hexcerpt _ hsix)).trans hrange.1
  have hfifth := (range_of_gives (hexcerpt _ hfive)).trans hrange.2.1
  have hthird := (range_of_gives (hexcerpt _ hthree)).trans hrange.2.2
  refine ⟨hcs, groups, hgives, hparts.perm, (hparts.same _ hsix _ hfive).2 (hsixth.trans hfifth.symm), fun h => ?_⟩
  have hsame := (hparts.same _ hsix _ hthree).1 h
  rw [hsixth, hthird] at hsame
  revert hsame
  decide

end Comment

end Redline
