import Redline.Proofs.Outline.Units

/-!
# Code units lie apart

Every line of a text has a code unit, and the code unit holds the line.  Two lines
have the same unit, or one of them has the root, or there is a character between
their units (`codeUnits_apart`).  Units also come in order by their rows, so the
first and the last line of a unit tell it from all others.  The root may have the
rows of a section, but then it is the unit of no line.

A node of an outline is one value, and no two nodes of an outline are the same value
(`walk_nodup`).  So units are the same node if they are equal.
-/

namespace Redline.Outline

/-! ## The nodes of a tree -/

theorem walkAll_eq (ns : List Node) : walkAll ns = ns.flatMap Node.walk := by
  induction ns with
  | nil => rfl
  | cons n ns ih =>
      rw [walkAll, ih]
      rfl

theorem Node.walk_eq (n : Node) : n.walk = n :: n.children.flatMap Node.walk := by
  obtain ⟨kind, start, stop, first, last, children⟩ := n
  rw [Node.walk, walkAll_eq]

theorem Node.walk_leaf {n : Node} (h : n.children = []) : n.walk = [n] := by
  rw [walk_eq, h]
  rfl

mutual

theorem sizeOf_le_of_mem_walk : ∀ (n : Node) {m : Node}, m ∈ n.walk → sizeOf m ≤ sizeOf n
  | ⟨kind, start, stop, first, last, children⟩, m, h => by
      rw [Node.walk] at h
      rcases List.mem_cons.1 h with rfl | h
      · exact Nat.le_refl _
      · have := sizeOf_le_of_mem_walkAll children h
        simp only [Node.mk.sizeOf_spec]
        omega

theorem sizeOf_le_of_mem_walkAll : ∀ (ns : List Node) {m : Node}, m ∈ walkAll ns → sizeOf m ≤ sizeOf ns
  | [], _, h => by cases h
  | n :: ns, m, h => by
      simp only [List.cons.sizeOf_spec]
      rcases List.mem_append.1 h with h | h
      · have := sizeOf_le_of_mem_walk n h
        omega
      · have := sizeOf_le_of_mem_walkAll ns h
        omega

end

/-- A node is not inside itself. -/
theorem Node.not_mem_walk_children (n : Node) : n ∉ n.children.flatMap Node.walk := by
  obtain ⟨kind, start, stop, first, last, children⟩ := n
  intro h
  rw [← walkAll_eq] at h
  have := sizeOf_le_of_mem_walkAll children h
  simp only [Node.mk.sizeOf_spec] at this
  omega

/-! ## The nodes of a section -/

theorem size_pos {ls : List Text} (h : ls ≠ []) : 0 < size ls := by
  obtain ⟨l, ls, rfl⟩ := List.exists_cons_of_ne_nil h
  rw [size_cons]
  omega

/-- The runs of a block come in order and start in the lines of the block. -/
theorem runs_start (row offset : Nat) {body : List Text} (h : body ≠ []) :
    (runs row offset body).Pairwise (fun a b => a.start < b.start) ∧
      ∀ n ∈ runs row offset body, offset ≤ n.start ∧ n.start < offset + size body := by
  have hsize : size body = size (body.take (body.length / 2)) + size (body.drop (body.length / 2)) := by
    rw [← size_append, List.take_append_drop]
  have hlower : 0 < size (body.drop (body.length / 2)) := by
    have hlength := List.length_pos_iff.2 h
    exact size_pos (List.ne_nil_of_length_pos (by rw [List.length_drop]; omega))
  simp only [runs]
  split
  next =>
    refine ⟨List.pairwise_singleton _ _, fun n hn => ?_⟩
    rw [List.mem_singleton.1 hn]
    simp only [nodeOfLines]
    omega
  next hupper =>
    have hupper : 0 < size (body.take (body.length / 2)) := size_pos (by simpa using hupper)
    refine ⟨List.pairwise_pair.2 ?_, fun n hn => ?_⟩
    · simp only [nodeOfLines]
      omega
    · rcases List.mem_cons.1 hn with rfl | hn
      · simp only [nodeOfLines]
        omega
      · rw [List.mem_singleton.1 hn]
        simp only [nodeOfLines]
        omega

section

variable (g : Grammar) (s : Section)

/-- The nodes of a section of several lines: itself, its first character, its block and
the runs in the block. -/
theorem walk_section (h : trimLines s.body ≠ []) :
    (s.node g).walk = s.node g :: s.initial :: s.block g :: (s.block g).children := by
  have hleaf : ∀ n ∈ (s.block g).children, n.walk = [n] := fun n hn => Node.walk_leaf (children_of_mem_runs hn)
  have hruns : (s.block g).children.flatMap Node.walk = (s.block g).children := by
    rw [List.flatMap_def, List.map_congr_left hleaf, ← List.flatMap_def, List.flatMap_singleton']
  rw [Node.walk_eq, Section.node_children, if_neg (by simpa using h), List.flatMap_cons, List.flatMap_cons,
    List.flatMap_nil, Node.walk_leaf (n := s.initial) rfl, Node.walk_eq (s.block g), hruns]
  simp

/-- The nodes in a section come in order and start in its lines. -/
theorem inner_start (hopen : opens s.head = true) (hbody : trimLines s.body ≠ []) :
    (s.initial :: s.block g :: (s.block g).children).Pairwise (fun a b => a.start < b.start) ∧
      ∀ n ∈ s.initial :: s.block g :: (s.block g).children,
        s.offset ≤ n.start ∧ n.start < s.offset + size s.lines := by
  have hhead := opens_length hopen
  have hsize := size_pos hbody
  obtain ⟨horder, hruns⟩ := runs_start (s.row + 1) (s.offset + (s.head.length + 1)) hbody
  have hinitial : s.initial.start = s.offset := rfl
  have hblock : (s.block g).start = s.offset + 1 := rfl
  have hlines : size s.lines = s.head.length + 1 + size (trimLines s.body) := size_cons _ _
  constructor
  · refine List.pairwise_cons.2 ⟨fun n hn => ?_, List.pairwise_cons.2 ⟨fun n hn => ?_, horder⟩⟩
    · rcases List.mem_cons.1 hn with rfl | hn
      · omega
      · have := hruns n hn
        omega
    · have := hruns n hn
      omega
  · rw [List.forall_mem_cons, List.forall_mem_cons]
    refine ⟨by omega, by omega, fun n hn => ?_⟩
    have := hruns n hn
    omega

/-- The nodes of a section start in its lines, and no two of them are the same. -/
theorem walk_section_start (hopen : opens s.head = true) :
    (s.node g).walk.Nodup ∧
      ∀ n ∈ (s.node g).walk, s.offset ≤ n.start ∧ n.start < s.offset + size s.lines := by
  have hstart : s.offset ≤ (s.node g).start ∧ (s.node g).start < s.offset + size s.lines := by
    have hhead := opens_length hopen
    rw [Section.node_start, Section.lines, size_cons]
    omega
  by_cases hbody : trimLines s.body = []
  · have hleaf : (s.node g).children = [] := by rw [Section.node_children, hbody]; rfl
    rw [Node.walk_leaf hleaf]
    exact ⟨List.pairwise_singleton _ _, List.forall_mem_singleton.2 hstart⟩
  · obtain ⟨horder, hinner⟩ := inner_start g s hopen hbody
    have hwalk := walk_section g s hbody
    refine ⟨?_, by rw [hwalk]; exact List.forall_mem_cons.2 ⟨hstart, hinner⟩⟩
    have hself := (s.node g).not_mem_walk_children
    rw [Node.walk_eq, List.cons.injEq] at hwalk
    rw [Node.walk_eq, hwalk.2, List.nodup_cons]
    refine ⟨hwalk.2 ▸ hself, horder.imp fun hlt heq => ?_⟩
    rw [heq] at hlt
    exact Nat.lt_irrefl _ hlt

end

/-- No two nodes of an outline are the same. -/
theorem walk_nodup (language : String) (t : Text) : (build language t).walk.Nodup := by
  rw [Node.walk_eq, List.nodup_cons]
  refine ⟨Node.not_mem_walk_children _, ?_⟩
  show (((sections 0 0 t.lines).map (Section.node (Grammar.ofLanguage language))).flatMap Node.walk).Nodup
  rw [List.flatMap_map, List.Nodup, List.pairwise_flatMap]
  refine ⟨fun s hs => (walk_section_start _ s (sections_stands (stands_lines t) hs).2).1, ?_⟩
  refine (sections_pairwise 0 0 t.lines).imp_of_mem fun {s s'} hs hs' hlt n hn n' hn' heq => ?_
  subst heq
  have hstart := (walk_section_start _ s (sections_stands (stands_lines t) hs).2).2 n hn
  have hstart' := (walk_section_start _ s' (sections_stands (stands_lines t) hs').2).2 n hn'
  have hle := size_le_of_leading s.lines_lead
  omega

/-! ## The rows of units -/

/-- The rows of a unit are rows of its section. -/
theorem Section.units_rows {g : Grammar} {s : Section} {n : Node} (h : n ∈ s.units g) :
    s.row ≤ n.first.row ∧ n.first.row ≤ n.last.row ∧ n.last.row ≤ s.row + (trimLines s.body).length := by
  rcases mem_units h with rfl | ⟨l, hl, rfl | rfl⟩
  · rw [node_last_row]
    exact ⟨Nat.le_refl _, Nat.le_add_right _ _, Nat.le_refl _⟩
  · exact ⟨Nat.le_refl _, Nat.le_refl _, Nat.le_add_right _ _⟩
  · rw [hl]
    simp [second, nodeOfLines]

theorem Section.units_mem_walk {g : Grammar} {s : Section} {n : Node} (h : n ∈ s.units g) : n ∈ (s.node g).walk := by
  rcases mem_units h with rfl | ⟨l, hl, h⟩
  · rw [Node.walk_eq]
    exact List.mem_cons_self
  · have hchildren : (s.block g).children = [s.second l] := by
      rw [block, hl, runs_singleton]
    rw [walk_section g s (by simp [hl]), hchildren]
    rcases h with rfl | rfl <;> simp

/-- The units of a text come in order by their rows. -/
theorem units_rows_pairwise (language : String) (t : Text) :
    (units language t).Pairwise fun a b => a.last.row < b.first.row := by
  rw [units, List.pairwise_flatMap]
  refine ⟨fun s hs => ?_, (sections_pairwise 0 0 t.lines).imp fun {s s'} hlt a ha b hb => ?_⟩
  · unfold Section.units
    split
    · exact List.pairwise_pair.2 (Nat.lt_succ_self s.row)
    · exact List.pairwise_singleton _ _
  · have ha := Section.units_rows ha
    have hb := Section.units_rows hb
    have hle := (trimLines_leads s.body).length_le
    omega

section

variable {language : String} {t : Text} {line line₁ line₂ : Int} {n a b : Node}

theorem codeUnit?_mem_walk (h : (build language t).codeUnit? line = some n) : n ∈ (build language t).walk := by
  rw [Node.walk_eq]
  rcases codeUnit?_cases h with ⟨rfl, -⟩ | ⟨s, hs, -, hn⟩
  · exact List.mem_cons_self
  · refine List.mem_cons_of_mem _ (List.mem_flatMap.2 ⟨_, List.mem_map_of_mem hs, ?_⟩)
    exact Section.units_mem_walk hn

/-- The root is the code unit of no line if a unit has the rows of the root. -/
theorem not_rows_of_root (hcovers : (build language t).covers (line - 1) = true)
    (hnone : ∀ s ∈ sections 0 0 t.lines, (s.node (Grammar.ofLanguage language)).covers (line - 1) = false)
    (hn : n ∈ units language t) :
    ¬((build language t).first.row = n.first.row ∧ (build language t).last.row = n.last.row) := by
  rintro ⟨hfirst, hlast⟩
  obtain ⟨s, hs, hn⟩ := List.mem_flatMap.1 hn
  have hrows := Section.units_rows hn
  rw [Node.covers_iff] at hcovers
  have hsection : (s.node (Grammar.ofLanguage language)).covers (line - 1) = true := by
    rw [covers_node]
    omega
  rw [hnone s hs] at hsection
  cases hsection

theorem units_eq_of_rows (ha : a ∈ units language t) (hb : b ∈ units language t)
    (hfirst : a.first.row = b.first.row) (hlast : a.last.row = b.last.row) : a = b := by
  obtain ⟨s, hs, ha'⟩ := List.mem_flatMap.1 ha
  have hrows := Section.units_rows ha'
  rcases eq_or_related (units_rows_pairwise language t) ha hb with heq | hlt | hlt
  · exact heq
  · omega
  · omega

/-- The first and the last line of a code unit tell it from all others. -/
theorem codeUnit_eq_of_rows (ha : (build language t).codeUnit? line₁ = some a)
    (hb : (build language t).codeUnit? line₂ = some b) (hfirst : a.first.row = b.first.row)
    (hlast : a.last.row = b.last.row) : a = b := by
  have hcov₁ := codeUnit?_covers ha
  have hcov₂ := codeUnit?_covers hb
  rcases codeUnit?_cases ha with ⟨rfl, hnone⟩ | ⟨s, hs, -, hsa⟩
  · rcases codeUnit?_cases hb with ⟨rfl, -⟩ | ⟨s', hs', -, hsb⟩
    · rfl
    · refine absurd ⟨hfirst, hlast⟩ (not_rows_of_root (Node.covers_iff.2 ?_) hnone (List.mem_flatMap.2 ⟨s', hs', hsb⟩))
      omega
  · have hmem : a ∈ units language t := List.mem_flatMap.2 ⟨s, hs, hsa⟩
    rcases codeUnit?_cases hb with ⟨rfl, hnone⟩ | ⟨s', hs', -, hsb⟩
    · refine absurd ⟨hfirst.symm, hlast.symm⟩ (not_rows_of_root (Node.covers_iff.2 ?_) hnone hmem)
      omega
    · exact units_eq_of_rows hmem (List.mem_flatMap.2 ⟨s', hs', hsb⟩) hfirst hlast

/-- One node ends before another begins, and a character of the text is between them. -/
def Node.Precedes (t : Text) (a b : Node) : Prop :=
  a.start ≤ a.stop ∧ a.stop < b.start ∧ b.start ≤ b.stop ∧ b.stop ≤ t.length

theorem units_precedes (ha : a ∈ units language t) (hb : b ∈ units language t) :
    a = b ∨ a.Precedes t b ∨ b.Precedes t a := by
  have hspan := unit_span ha
  have hspan' := unit_span hb
  rcases units_apart ha hb with heq | hlt | hlt
  · exact Or.inl heq
  · exact Or.inr (Or.inl ⟨hspan.1, hlt, hspan'⟩)
  · exact Or.inr (Or.inr ⟨hspan'.1, hlt, hspan⟩)

/-- Every line of a text has a code unit that holds it.  The code units of two lines are
the same node, or one of them is the root, or one ends before the other begins with a
character between them.  If they have the same first and last line, they are the same
node. -/
theorem codeUnits_apart (language : String) (t : Text) (hpos₁ : 1 ≤ line₁) (hle₁ : line₁ ≤ t.lines.length)
    (hpos₂ : 1 ≤ line₂) (hle₂ : line₂ ≤ t.lines.length) :
    ∃ a b, (build language t).codeUnit? line₁ = some a ∧ (build language t).codeUnit? line₂ = some b ∧
      ((a.first.row : Int) + 1 ≤ line₁ ∧ line₁ ≤ (a.last.row : Int) + 1) ∧
      ((b.first.row : Int) + 1 ≤ line₂ ∧ line₂ ≤ (b.last.row : Int) + 1) ∧
      (a = b ∨ a = build language t ∨ b = build language t ∨ a.Precedes t b ∨ b.Precedes t a) ∧
      (a.first.row = b.first.row → a.last.row = b.last.row → a = b) ∧
      a ∈ (build language t).walk ∧ b ∈ (build language t).walk ∧ (build language t).walk.Nodup := by
  obtain ⟨a, ha⟩ := exists_codeUnit language hpos₁ hle₁
  obtain ⟨b, hb⟩ := exists_codeUnit language hpos₂ hle₂
  refine ⟨a, b, ha, hb, codeUnit?_covers ha, codeUnit?_covers hb, ?_, codeUnit_eq_of_rows ha hb,
    codeUnit?_mem_walk ha, codeUnit?_mem_walk hb, walk_nodup language t⟩
  rcases codeUnit?_mem_units ha with hroot | hmem
  · exact Or.inr (Or.inl hroot)
  · rcases codeUnit?_mem_units hb with hroot | hmem'
    · exact Or.inr (Or.inr (Or.inl hroot))
    · rcases units_precedes hmem hmem' with heq | hlt | hlt
      · exact Or.inl heq
      · exact Or.inr (Or.inr (Or.inr (Or.inl hlt)))
      · exact Or.inr (Or.inr (Or.inr (Or.inr hlt)))

/-- Two lines that only their line feed keeps apart. -/
def tightPair : Text := "x\n y\n\nz".toList

theorem codeUnits_apart_tightPair : (2 : Int) ≤ tightPair.lines.length ∧
    ∃ a b, (build "python" tightPair).codeUnit? 1 = some a ∧ (build "python" tightPair).codeUnit? 2 = some b ∧
      (a = b ∨ a = build "python" tightPair ∨ b = build "python" tightPair ∨ a.Precedes tightPair b ∨
        b.Precedes tightPair a) ∧
      (a.first.row = b.first.row → a.last.row = b.last.row → a = b) := by
  have hle : (2 : Int) ≤ tightPair.lines.length := by decide
  obtain ⟨a, b, ha, hb, -, -, happart, hrows, -⟩ :=
    codeUnits_apart "python" tightPair (Int.le_refl 1) (by omega) (by decide) hle
  exact ⟨hle, a, b, ha, hb, happart, hrows⟩

end

end Redline.Outline
