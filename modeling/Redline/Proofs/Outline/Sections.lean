import Redline.Proofs.Outline.Rows

/-!
# Where sections stand

Every section of a text stands at its row and its position, its first line
opens it and no line below it opens another one.  Sections come in order, and
each ends before the next one begins.
-/

namespace Redline.Outline

open Text (lines unlines)

/-! ## Sections among the lines -/

/-- Lines that open no section are passed over. -/
theorem sections_append {a : List Text} (h : ∀ l ∈ a, opens l = false) (row offset : Nat)
    (b : List Text) : sections row offset (a ++ b) = sections (row + a.length) (offset + size a) b := by
  induction a generalizing row offset with
  | nil => rfl
  | cons l a ih =>
      have hl := h l List.mem_cons_self
      simp only [List.cons_append, sections, hl, Bool.false_eq_true, if_false]
      rw [ih fun m hm => h m (List.mem_cons_of_mem l hm)]
      congr 1
      · simp only [List.length_cons]
        omega
      · simp only [size_cons]
        omega

/-- The sections of some lines are told by the lines that open one.  Each reaches to the
next. -/
theorem mem_sections {s : Section} {row offset : Nat} {ls : List Text} :
    s ∈ sections row offset ls ↔ ∃ above below, ls = above ++ s.head :: below ∧ opens s.head = true ∧
      s.row = row + above.length ∧ s.offset = offset + size above ∧
        s.body = below.takeWhile fun l => !opens l := by
  induction ls generalizing row offset with
  | nil =>
      refine ⟨fun h => absurd h List.not_mem_nil, ?_⟩
      rintro ⟨above, below, hls, -⟩
      simp at hls
  | cons l ls ih =>
      simp only [sections]
      constructor
      · intro h
        have htail : s ∈ sections (row + 1) (offset + (l.length + 1)) ls → ∃ above below,
            l :: ls = above ++ s.head :: below ∧ opens s.head = true ∧ s.row = row + above.length ∧
              s.offset = offset + size above ∧ s.body = below.takeWhile fun l => !opens l := by
          intro h
          obtain ⟨above, below, hls, hopen, hrow, hoffset, hbody⟩ := ih.1 h
          refine ⟨l :: above, below, by rw [hls]; rfl, hopen, ?_, ?_, hbody⟩
          · rw [hrow, List.length_cons]
            omega
          · rw [hoffset, size_cons]
            omega
        split at h
        next hl =>
          rcases List.mem_cons.1 h with rfl | h
          · exact ⟨[], ls, rfl, hl, rfl, rfl, rfl⟩
          · exact htail h
        next => exact htail h
      · rintro ⟨above, below, hls, hopen, hrow, hoffset, hbody⟩
        cases above with
        | nil =>
            obtain ⟨rfl, rfl⟩ := List.cons.inj hls
            rw [if_pos hopen]
            refine List.mem_cons.2 (Or.inl ?_)
            obtain ⟨srow, soffset, head, body⟩ := s
            simp only [List.length_nil, size_nil, Nat.add_zero] at hrow hoffset hbody
            rw [hrow, hoffset, hbody]
        | cons m above =>
            obtain ⟨rfl, rfl⟩ := List.cons.inj hls
            have hrest : s ∈ sections (row + 1) (offset + (l.length + 1)) (above ++ s.head :: below) := by
              refine ih.2 ⟨above, below, rfl, hopen, ?_, ?_, hbody⟩
              · rw [hrow, List.length_cons]
                omega
              · rw [hoffset, size_cons]
                omega
            split
            next => exact List.mem_cons_of_mem _ hrest
            next => exact hrest

theorem sections_ge {s : Section} {row offset : Nat} {ls : List Text} (h : s ∈ sections row offset ls) :
    row ≤ s.row ∧ offset ≤ s.offset := by
  obtain ⟨above, below, -, -, hrow, hoffset, -⟩ := mem_sections.1 h
  omega

/-- A section stands where it says, and its first line opens it. -/
theorem sections_stands {t : Text} {s : Section} {row offset : Nat} {ls : List Text}
    (hls : Stands t row offset ls) (h : s ∈ sections row offset ls) :
    Stands t s.row s.offset (s.head :: s.body) ∧ opens s.head = true := by
  obtain ⟨above, below, rfl, hopen, hrow, hoffset, hbody⟩ := mem_sections.1 h
  rw [hrow, hoffset, hbody]
  exact ⟨hls.right.of_leading ((List.prefix_cons_inj s.head).2 (List.takeWhile_prefix _)), hopen⟩

/-- Sections come in order, and each ends before the next one begins. -/
theorem sections_pairwise (row offset : Nat) (ls : List Text) :
    (sections row offset ls).Pairwise fun s s' =>
      s.row + s.body.length < s'.row ∧ s.offset + size (s.head :: s.body) ≤ s'.offset := by
  induction ls generalizing row offset with
  | nil => exact List.Pairwise.nil
  | cons l ls ih =>
      simp only [sections]
      split
      next hl =>
        refine List.pairwise_cons.2 ⟨fun s' hs' => ?_, ih _ _⟩
        have hskip : ∀ m ∈ ls.takeWhile (fun m => !opens m), opens m = false := fun m hm => by
          simpa using List.all_eq_true.1 List.all_takeWhile m hm
        rw [← List.takeWhile_append_dropWhile (p := fun m => !opens m) (l := ls),
          sections_append hskip] at hs'
        have hge := sections_ge hs'
        simp only [size_cons]
        omega
      next => exact ih _ _

/-! ## The lines of a section -/

theorem trimLines_leads (ls : List Text) : trimLines ls <+: ls := by
  have h : ls.reverse.dropWhile Text.allBlank <:+ ls.reverse := List.dropWhile_suffix _
  simpa [trimLines] using List.reverse_prefix.2 h

namespace Section

variable (g : Grammar) (s : Section)

/-- The lines of a section, without the blank ones at the end. -/
def lines : List Text := s.head :: trimLines s.body

theorem lines_lead : s.lines <+: s.head :: s.body :=
  (List.prefix_cons_inj s.head).2 (trimLines_leads s.body)

@[simp] theorem node_start : (s.node g).start = s.offset := rfl

@[simp] theorem node_first : (s.node g).first = ⟨s.row, 0⟩ := rfl

theorem node_stop : (s.node g).stop = s.offset + (unlines s.lines).length := rfl

@[simp] theorem node_last_row : (s.node g).last.row = s.row + (trimLines s.body).length := by
  simp [node, nodeOfLines]

theorem node_stop_succ : (s.node g).stop + 1 = s.offset + size s.lines := by
  have h := length_unlines (List.cons_ne_nil s.head (trimLines s.body))
  rw [node_stop, lines]
  omega

end Section

end Redline.Outline
