import Redline.Proofs.Outline.Separation
import Redline.Patch.Patcher

/-!
# Positions and points

A node tells where it is in two ways, by positions and by points.  A point can be worked out
from a position, by the lines of what stands before it.  The two agree for every node of an
outline, children lie in their parents by both, and siblings come in order.  From the first
line that opens a section on, every line that is not blank is in exactly one section
(`build_coordinates`).
-/

namespace Redline.Outline

open Text (lines unlines allBlank)

/-! ## The point of a position -/

/-- Lines with their line feeds, and what stands behind them without one, are the lines again. -/
theorem lines_closed_append {above : List Text} {l : Text} (habove : ∀ m ∈ above, '\n' ∉ m) (hl : '\n' ∉ l) :
    lines (closed above ++ l) = above ++ [l] := by
  induction above with
  | nil => exact Text.lines_of_not_mem hl
  | cons m above ih =>
      have hjoin : closed (m :: above) ++ l = m ++ '\n' :: (closed above ++ l) := by simp [closed]
      rw [hjoin, Text.lines_append (habove m List.mem_cons_self),
        ih fun x hx => habove x (List.mem_cons_of_mem m hx)]
      rfl

namespace Stands

variable {p : Patcher} {row offset : Nat}

theorem row_le {t : Text} {ls : List Text} (h : Stands t row offset ls) : row + ls.length ≤ t.lines.length := by
  obtain ⟨above, below, hlines, hrow, -⟩ := h
  rw [hlines, List.length_append, List.length_append, hrow]
  omega

/-- The point of a position in the first of some lines. -/
theorem pointAt {l : Text} {ls : List Text} (h : Stands p.content row offset (l :: ls)) {k : Nat}
    (hk : k ≤ l.length) : p.pointAt (offset + k : Nat) = ⟨row, k⟩ := by
  obtain ⟨above, below, hlines, hrow, hoffset⟩ := h
  have hclean : ∀ m ∈ above ++ (l :: ls ++ below), '\n' ∉ m := fun m hm => not_mem_of_mem_lines (hlines ▸ hm)
  have hl : '\n' ∉ l.take k := fun hm => hclean l (by simp) (List.mem_of_mem_take hm)
  obtain ⟨rest, hrest⟩ := unlines_leads (List.cons_ne_nil l []) (ls ++ below)
  have htext : p.content = closed above ++ (l ++ rest) := by
    rw [← Text.unlines_lines p.content, hlines, unlines_append (by simp), List.cons_append, ← List.singleton_append,
      ← hrest]
    simp [unlines]
  have hbefore : Text.before p.content (offset + k : Nat) = closed above ++ l.take k := by
    rw [Text.before_natCast, htext, ← hoffset, ← length_closed, List.take_length_add_append,
      List.take_append_of_le_length hk]
  rw [Patcher.pointAt, hbefore, lines_closed_append (fun m hm => hclean m (List.mem_append_left _ hm)) hl]
  simp [hrow, hk]

/-- The point where some lines end. -/
theorem pointAt_stop {ls : List Text} (h : Stands p.content row offset ls) (hne : ls ≠ []) :
    p.pointAt (offset + (unlines ls).length : Nat) = ⟨row + (ls.length - 1), (ls.getLastD []).length⟩ := by
  obtain ⟨a, l, rfl⟩ := (List.eq_nil_or_concat ls).resolve_left hne
  rw [List.concat_eq_append] at h ⊢
  have hlength : offset + (unlines (a ++ [l])).length = offset + size a + l.length := by
    rw [unlines_append (List.cons_ne_nil l []), List.length_append, length_closed]
    simp [unlines, Nat.add_assoc]
  rw [hlength, h.right.pointAt (Nat.le_refl _)]
  simp

end Stands

/-! ## Nodes in their places -/

/-- A node lies in another one, by positions and by rows. -/
structure Node.Encloses (n c : Node) : Prop where
  start_le : n.start ≤ c.start
  span : c.start ≤ c.stop
  stop_le : c.stop ≤ n.stop
  first_le : n.first.row ≤ c.first.row
  rows : c.first.row ≤ c.last.row
  last_le : c.last.row ≤ n.last.row

/-- The points of a node are those of its positions in the text of a file.  Its children
lie in it and come in order. -/
structure Node.Placed (p : Patcher) (n : Node) : Prop where
  pointAt_start : p.pointAt n.start = n.first
  pointAt_stop : p.pointAt n.stop = n.last
  encloses : ∀ c ∈ n.children, n.Encloses c
  ordered : n.children.Pairwise fun a b => a.start < b.start ∧ a.stop ≤ b.start

section

variable {kind : String} {row offset : Nat} {ls : List Text} {ns : List Node} {p : Patcher}

/-- A node of lines is in its place if these lines stand there and its children are in theirs. -/
theorem nodeOfLines_placed (h : Stands p.content row offset ls) (hne : ls ≠ [])
    (hencloses : ∀ c ∈ ns, (nodeOfLines kind row offset ls ns).Encloses c)
    (hordered : ns.Pairwise fun a b => a.start < b.start ∧ a.stop ≤ b.start) :
    (nodeOfLines kind row offset ls ns).Placed p := by
  refine ⟨?_, h.pointAt_stop hne, hencloses, hordered⟩
  obtain ⟨l, ls, rfl⟩ := List.exists_cons_of_ne_nil hne
  exact h.pointAt (Nat.zero_le _)

/-- A run is the node of some lines of its block. -/
theorem mem_runs {n : Node} {body : List Text} (hbody : body ≠ []) (h : n ∈ runs row offset body) :
    ∃ a ls b, body = a ++ (ls ++ b) ∧ ls ≠ [] ∧ n = nodeOfLines runKind (row + a.length) (offset + size a) ls [] := by
  have hsplit := List.take_append_drop (body.length / 2) body
  have hpos := List.length_pos_iff.2 hbody
  have hlower : body.drop (body.length / 2) ≠ [] := List.ne_nil_of_length_pos (by rw [List.length_drop]; omega)
  have hlength : (body.take (body.length / 2)).length = body.length / 2 := List.length_take_of_le (by omega)
  have hsecond : nodeOfLines runKind (row + body.length / 2) (offset + size (body.take (body.length / 2)))
      (body.drop (body.length / 2)) [] = nodeOfLines runKind (row + (body.take (body.length / 2)).length)
        (offset + size (body.take (body.length / 2))) (body.drop (body.length / 2)) [] := by rw [hlength]
  simp only [runs] at h
  split at h
  next =>
    rw [List.mem_singleton] at h
    exact ⟨_, _, [], by rw [List.append_nil, hsplit], hlower, h.trans hsecond⟩
  next hupper =>
    rcases List.mem_cons.1 h with h | h
    · exact ⟨[], _, _, hsplit.symm, by simpa using hupper, h⟩
    · rw [List.mem_singleton] at h
      exact ⟨_, _, [], by rw [List.append_nil, hsplit], hlower, h.trans hsecond⟩

/-- The first run ends before the second one begins. -/
theorem runs_ordered (body : List Text) :
    (runs row offset body).Pairwise fun a b => a.start < b.start ∧ a.stop ≤ b.start := by
  simp only [runs]
  split
  next => exact List.pairwise_singleton _ _
  next hupper =>
    have hupper : body.take (body.length / 2) ≠ [] := by simpa using hupper
    have hpos := size_pos hupper
    have hlength := length_unlines hupper
    refine List.pairwise_pair.2 ?_
    simp only [nodeOfLines]
    omega

end

/-! ## The nodes of a section -/

section

variable {g : Grammar} {s : Section} {p : Patcher} {n : Node}

theorem Section.node_eq : s.node g = nodeOfLines (g.kindOf s.head) s.row s.offset s.lines (s.node g).children := rfl

/-- A run lies in the block of its section. -/
theorem block_encloses (hbody : trimLines s.body ≠ []) (h : n ∈ (s.block g).children) : (s.block g).Encloses n := by
  obtain ⟨a, ls, b, hlines, hne, rfl⟩ := mem_runs hbody h
  have hstop : (s.block g).stop + 1 = s.offset + size s.lines := s.node_stop_succ g
  have hlast : (s.block g).last.row = s.row + (trimLines s.body).length := s.node_last_row g
  rw [Section.lines, size_cons, hlines, size_append, size_append] at hstop
  rw [hlines, List.length_append, List.length_append] at hlast
  have hunlines := length_unlines hne
  have hpos := List.length_pos_iff.2 hne
  constructor
  · show s.offset + 1 ≤ s.offset + (s.head.length + 1) + size a
    omega
  · exact Nat.le_add_right _ _
  · show s.offset + (s.head.length + 1) + size a + (unlines ls).length ≤ (s.block g).stop
    omega
  · show s.row ≤ s.row + 1 + a.length
    omega
  · exact Nat.le_add_right _ _
  · show s.row + 1 + a.length + (ls.length - 1) ≤ (s.block g).last.row
    omega

theorem mem_children_section (h : n ∈ (s.node g).children) :
    trimLines s.body ≠ [] ∧ (n = s.initial ∨ n = s.block g) := by
  rw [Section.node_children] at h
  split at h
  next => cases h
  next hbody => exact ⟨by simpa using hbody, by simpa using h⟩

theorem section_encloses (hopen : opens s.head = true) (h : n ∈ (s.node g).children) : (s.node g).Encloses n := by
  have hhead := opens_length hopen
  have hstop := s.node_stop_succ g
  rw [Section.lines, size_cons] at hstop
  obtain ⟨hbody, rfl | rfl⟩ := mem_children_section h
  · refine ⟨Nat.le_refl _, Nat.le_succ _, ?_, Nat.le_refl _, Nat.le_refl _, ?_⟩
    · show s.offset + 1 ≤ (s.node g).stop
      omega
    · rw [Section.node_last_row]
      exact Nat.le_add_right _ _
  · refine ⟨Nat.le_succ _, ?_, Nat.le_refl _, Nat.le_refl _, ?_, Nat.le_refl _⟩
    · show s.offset + 1 ≤ (s.node g).stop
      omega
    · show s.row ≤ (s.node g).last.row
      rw [Section.node_last_row]
      exact Nat.le_add_right _ _

theorem section_ordered : (s.node g).children.Pairwise fun a b => a.start < b.start ∧ a.stop ≤ b.start := by
  rw [Section.node_children]
  split
  · exact List.Pairwise.nil
  · exact List.pairwise_pair.2 ⟨Nat.lt_succ_self s.offset, Nat.le_refl (s.offset + 1)⟩

/-- Every node of a section is in its place. -/
theorem walk_section_placed (hstands : Stands p.content s.row s.offset s.lines) (hopen : opens s.head = true)
    (h : n ∈ (s.node g).walk) : n.Placed p := by
  have hnode : (s.node g).Placed p := by
    rw [Section.node_eq]
    exact nodeOfLines_placed hstands (List.cons_ne_nil _ _) (fun c => section_encloses hopen) section_ordered
  have hsecond : p.pointAt (s.offset + 1 : Nat) = ⟨s.row, 1⟩ := hstands.pointAt (opens_length hopen)
  rw [Node.walk_eq] at h
  rcases List.mem_cons.1 h with rfl | h
  · exact hnode
  obtain ⟨c, hc, h⟩ := List.mem_flatMap.1 h
  obtain ⟨hbody, rfl | rfl⟩ := mem_children_section hc
  · rw [Node.walk_leaf rfl, List.mem_singleton] at h
    subst h
    exact ⟨hnode.pointAt_start, hsecond, fun c hc => absurd hc List.not_mem_nil, List.Pairwise.nil⟩
  rw [Node.walk_eq] at h
  rcases List.mem_cons.1 h with rfl | h
  · exact ⟨hsecond, hnode.pointAt_stop, fun c => block_encloses hbody, runs_ordered _⟩
  obtain ⟨run, hrun, h⟩ := List.mem_flatMap.1 h
  rw [Node.walk_leaf (children_of_mem_runs hrun), List.mem_singleton] at h
  subst h
  obtain ⟨a, ls, b, hlines, hne, rfl⟩ := mem_runs hbody hrun
  rw [Section.lines, hlines, ← List.singleton_append] at hstands
  refine nodeOfLines_placed ?_ hne (fun c hc => absurd hc List.not_mem_nil) List.Pairwise.nil
  simpa using hstands.right.right.left

end

/-! ## The nodes of a text -/

section

variable {language : String} {t : Text}

/-- A section lies in the text. -/
theorem build_encloses {s : Section} (hs : s ∈ sections 0 0 t.lines) :
    (build language t).Encloses (s.node (Grammar.ofLanguage language)) := by
  have hrow := ((sections_stands (stands_lines t) hs).1.of_leading s.lines_lead).row_le
  have hlast := last_row_build language t
  refine ⟨Nat.zero_le _, Nat.le_add_right _ _, ?_, Nat.zero_le _, ?_, ?_⟩
  · rw [stop_build]
    exact node_stop_le_length hs
  · rw [Section.node_last_row]
    exact Nat.le_add_right _ _
  · rw [Section.node_last_row]
    rw [Section.lines, List.length_cons] at hrow
    omega

theorem build_ordered (language : String) (t : Text) :
    (build language t).children.Pairwise fun a b => a.start < b.start ∧ a.stop ≤ b.start := by
  refine List.pairwise_map.2 ((sections_pairwise 0 0 t.lines).imp fun {s s'} hlt => ?_)
  have hstop := node_stop_lt (g := Grammar.ofLanguage language) hlt.2
  have hsize := hlt.2
  rw [size_cons] at hsize
  rw [Section.node_start, Section.node_start]
  omega

/-- Every node of an outline is in its place. -/
theorem walk_placed (language : String) {p : Patcher} {n : Node} (h : n ∈ (build language p.content).walk) :
    n.Placed p := by
  rw [Node.walk_eq] at h
  rcases List.mem_cons.1 h with rfl | h
  · refine nodeOfLines_placed (stands_lines p.content) (Text.lines_ne_nil _) (fun c hc => ?_)
      (build_ordered language p.content)
    obtain ⟨s, hs, rfl⟩ := List.mem_map.1 hc
    exact build_encloses hs
  · obtain ⟨c, hc, h⟩ := List.mem_flatMap.1 h
    obtain ⟨s, hs, rfl⟩ := List.mem_map.1 hc
    obtain ⟨hstands, hopen⟩ := sections_stands (stands_lines p.content) hs
    exact walk_section_placed (hstands.of_leading s.lines_lead) hopen h

theorem build_placed (language : String) (p : Patcher) : (build language p.content).Placed p := by
  refine walk_placed language ?_
  rw [Node.walk_eq]
  exact List.mem_cons_self

theorem child_placed {p : Patcher} {n : Node} (h : n ∈ (build language p.content).children) : n.Placed p := by
  refine walk_placed language ?_
  rw [Node.walk_eq]
  refine List.mem_cons_of_mem _ (List.mem_flatMap.2 ⟨n, h, ?_⟩)
  rw [Node.walk_eq]
  exact List.mem_cons_self

end

/-! ## Every line in one section -/

/-- Of the blank lines only those at the end are cut off. -/
theorem trimLines_append {l : Text} (hl : allBlank l = false) (a b : List Text) :
    trimLines (a ++ l :: b) = a ++ l :: trimLines b := by
  have hreverse : (a ++ l :: b).reverse = b.reverse ++ l :: a.reverse := by simp
  rw [trimLines, hreverse, List.dropWhile_append, List.dropWhile_cons_of_neg (by simp [hl]), trimLines]
  split
  next h => simp [List.isEmpty_iff.1 h]
  next => simp

/-- Lines of which some open a section have a last one that does. -/
theorem exists_last_opens {a : List Text} (h : ∃ m ∈ a, opens m = true) :
    ∃ above m below, a = above ++ m :: below ∧ opens m = true ∧ ∀ x ∈ below, opens x = false := by
  induction a with
  | nil => simp at h
  | cons l a ih =>
      by_cases ha : ∃ m ∈ a, opens m = true
      · obtain ⟨above, m, below, rfl, hm, hbelow⟩ := ih ha
        exact ⟨l :: above, m, below, rfl, hm, hbelow⟩
      · have hnone : ∀ x ∈ a, opens x = false := by simpa using ha
        obtain ⟨m, hmem, hm⟩ := h
        rcases List.mem_cons.1 hmem with rfl | hmem
        · exact ⟨[], m, a, rfl, hm, hnone⟩
        · exact absurd ⟨m, hmem, hm⟩ ha

/-- A line that is not blank is in a section if it opens one or a line above it does. -/
theorem exists_section_covers (g : Grammar) {t : Text} {above below : List Text} {l : Text}
    (hlines : t.lines = above ++ l :: below) (hl : allBlank l = false) (hopen : ∃ m ∈ above ++ [l], opens m = true) :
    ∃ s ∈ sections 0 0 t.lines, (s.node g).covers above.length = true := by
  -- The section is that of the last line that opens one.
  by_cases hself : opens l = true
  · refine ⟨⟨above.length, size above, l, below.takeWhile fun m => !opens m⟩, mem_sections.2 ?_, ?_⟩
    · exact ⟨above, below, hlines, hself, (Nat.zero_add _).symm, (Nat.zero_add _).symm, rfl⟩
    · rw [covers_node]
      exact ⟨Int.le_refl _, Int.le_add_of_nonneg_right (Int.natCast_nonneg _)⟩
  · obtain ⟨a, m, b, hsplit, hm, hb⟩ : ∃ a m b, above = a ++ m :: b ∧ opens m = true ∧ ∀ x ∈ b, opens x = false :=
      exists_last_opens (by simpa [hself] using hopen)
    have hbody : (b ++ l :: below).takeWhile (fun m => !opens m) = b ++ l :: below.takeWhile (fun m => !opens m) := by
      rw [List.takeWhile_append_of_pos (by simpa using hb), List.takeWhile_cons_of_pos (by simpa using hself)]
    refine ⟨⟨a.length, size a, m, b ++ l :: below.takeWhile fun m => !opens m⟩, mem_sections.2 ?_, ?_⟩
    · refine ⟨a, b ++ l :: below, ?_, hm, (Nat.zero_add _).symm, (Nat.zero_add _).symm, hbody.symm⟩
      rw [hlines, hsplit, List.append_assoc, List.cons_append]
    · rw [covers_node, trimLines_append hl, hsplit]
      simp only [List.length_append, List.length_cons]
      omega

/-- One member has a property if some member has it and no two have it together. -/
theorem countP_eq_one {α : Type} {has : α → Bool} {l : List α} {a : α} (ha : a ∈ l) (h : has a = true)
    (hapart : l.Pairwise fun x y => ¬(has x = true ∧ has y = true)) : l.countP has = 1 := by
  obtain ⟨front, back, rfl⟩ := List.append_of_mem ha
  rw [List.pairwise_append, List.pairwise_cons] at hapart
  obtain ⟨-, ⟨hback, -⟩, hfront⟩ := hapart
  have hnone : front.countP has = 0 := List.countP_eq_zero.2 fun x hx hhas =>
    hfront x hx a List.mem_cons_self ⟨hhas, h⟩
  have hnone' : back.countP has = 0 := List.countP_eq_zero.2 fun x hx hhas => hback x hx ⟨h, hhas⟩
  rw [List.countP_append, List.countP_cons_of_pos h, hnone, hnone']

theorem build_covers_apart (language : String) (t : Text) (r : Int) :
    (build language t).children.Pairwise fun a b => ¬(a.covers r = true ∧ b.covers r = true) := by
  refine List.pairwise_map.2 ((sections_pairwise 0 0 t.lines).imp fun {s s'} hlt => ?_)
  have hle := (trimLines_leads s.body).length_le
  rw [covers_node, covers_node]
  omega

/-- For every node of an outline, the points worked out from its positions are its points.
Its children lie in it by positions and by rows, and come in order without a common
character.  From the first line that opens a section on, every line that is not blank is
in exactly one section. -/
theorem build_coordinates (language : String) (p : Patcher) :
    (∀ n ∈ (build language p.content).walk, n.Placed p) ∧
      ∀ above l below, p.content.lines = above ++ l :: below → allBlank l = false →
        (∃ m ∈ above ++ [l], opens m = true) →
          (build language p.content).children.countP (·.covers above.length) = 1 := by
  refine ⟨fun n => walk_placed language, fun above l below hlines hl hopen => ?_⟩
  obtain ⟨s, hs, hcovers⟩ := exists_section_covers (Grammar.ofLanguage language) hlines hl hopen
  exact countP_eq_one (List.mem_map_of_mem hs) hcovers (build_covers_apart language p.content above.length)

/-- A text with an indented line at the top and a blank line in its first section. -/
def ragged : Patcher where
  path := "a.py"
  language := some "python"
  content := "  a\nx = (\n\n  1)\n\ny\n".toList
  tree := none

theorem build_coordinates_ragged : (build "python" ragged.content).walk.length = 7 ∧
    (∀ n ∈ (build "python" ragged.content).walk, n.Placed ragged) ∧
      (build "python" ragged.content).children.countP (·.covers 3) = 1 := by
  obtain ⟨hplaced, honce⟩ := build_coordinates "python" ragged
  refine ⟨by decide +kernel, hplaced, ?_⟩
  exact honce ["  a".toList, "x = (".toList, []] "  1)".toList [[], "y".toList, []] (by decide +kernel)
    (by decide +kernel) ⟨"x = (".toList, by decide, by decide⟩

end Redline.Outline
