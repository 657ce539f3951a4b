import Redline.Proofs.Outline.Sections
import Redline.Outline.CodeUnit

/-!
# The code units of a text

The code unit of a line is the root or one of the *units* of a section.  A
section of two lines has two units, its first character and its second line.
Every other section is its own only unit.  `units_pairwise` says that the units
of a text come in order, each with at least one character before the next one.

Every node on the way to a place is entered because it covers the line, so the
code unit of a line covers the line (`codeUnit?_covers`).
-/

namespace Redline.Outline

open Text (unlines)

/-! ## Places -/

theorem Node.covers_iff {n : Node} {r : Int} :
    n.covers r = true ↔ (n.first.row : Int) ≤ r ∧ r ≤ n.last.row := by
  simp [covers]

section

variable {hit : Node → Bool} {above : List Node}

theorem placeUnder_of_not_hit {n : Node} (h : hit n = false) : n.placeUnder hit above = none := by
  obtain ⟨kind, start, stop, first, last, children⟩ := n
  simp [Node.placeUnder, h]

theorem placeUnder_of_hit {n : Node} (h : hit n = true) :
    n.placeUnder hit above = some ((placeAmong hit (n :: above) n.children).getD ⟨n, above⟩) := by
  obtain ⟨kind, start, stop, first, last, children⟩ := n
  simp only [Node.placeUnder, h, if_true]
  cases placeAmong hit _ children <;> rfl

/-- Of a list of nodes the first that is hit is entered. -/
theorem placeAmong_eq (ns : List Node) :
    placeAmong hit above ns = (ns.find? hit).bind fun n => n.placeUnder hit above := by
  induction ns with
  | nil => rfl
  | cons n ns ih =>
      rw [placeAmong]
      cases h : hit n with
      | false => simp [placeUnder_of_not_hit h, h, ih]
      | true => simp [placeUnder_of_hit h, h]

end

/-! ## The nodes of a section -/

namespace Section

variable (g : Grammar) (s : Section)

def initial : Node where
  kind := "identifier"
  start := s.offset
  stop := s.offset + 1
  first := ⟨s.row, 0⟩
  last := ⟨s.row, 1⟩
  children := []

/-- All of a section but its first character. -/
def block : Node where
  kind := "block"
  start := s.offset + 1
  stop := (s.node g).stop
  first := ⟨s.row, 1⟩
  last := (s.node g).last
  children := runs (s.row + 1) (s.offset + (s.head.length + 1)) (trimLines s.body)

/-- The node of a line below the first one of a section. -/
def second (l : Text) : Node := nodeOfLines runKind (s.row + 1) (s.offset + (s.head.length + 1)) [l] []

def units : List Node :=
  match trimLines s.body with
  | [l] => [s.initial, s.second l]
  | _ => [s.node g]

theorem units_pair {l : Text} (h : trimLines s.body = [l]) : s.units g = [s.initial, s.second l] := by
  rw [units, h]

theorem node_children :
    (s.node g).children = if (trimLines s.body).isEmpty then [] else [s.initial, s.block g] := rfl

theorem runs_singleton (l : Text) :
    runs (s.row + 1) (s.offset + (s.head.length + 1)) [l] = [s.second l] := by
  simp [runs, second]

end Section

theorem length_runs {row offset : Nat} {body : List Text} (h : 2 ≤ body.length) :
    (runs row offset body).length = 2 := by
  have hhalf : body.take (body.length / 2) ≠ [] := by
    intro hnil
    have := congrArg List.length hnil
    simp only [List.length_take, List.length_nil] at this
    omega
  simp [runs, hhalf]

/-- Every row of the lines of a block is in one of its runs. -/
theorem exists_run_covers {row offset : Nat} {body : List Text} {r : Int} (hlo : (row : Int) ≤ r)
    (hhi : r < row + body.length) : ∃ n ∈ runs row offset body, n.covers r = true := by
  simp only [runs]
  split
  next hup =>
    refine ⟨_, List.mem_singleton.2 rfl, ?_⟩
    have hlen := congrArg List.length (List.isEmpty_iff.1 hup)
    simp only [List.length_take, List.length_nil] at hlen
    simp only [Node.covers_iff, nodeOfLines, List.length_drop]
    omega
  next hup =>
    by_cases hr : r < row + (body.length / 2 : Nat)
    · refine ⟨_, List.mem_cons_self, ?_⟩
      simp only [Node.covers_iff, nodeOfLines, List.length_take]
      omega
    · refine ⟨_, List.mem_cons_of_mem _ (List.mem_singleton.2 rfl), ?_⟩
      simp only [Node.covers_iff, nodeOfLines, List.length_drop]
      omega

theorem children_of_mem_runs {n : Node} {row offset : Nat} {body : List Text}
    (h : n ∈ runs row offset body) : n.children = [] := by
  simp only [runs] at h
  split at h
  next => rw [List.mem_singleton.1 h]; rfl
  next =>
    rcases List.mem_cons.1 h with rfl | h
    · rfl
    · rw [List.mem_singleton.1 h]; rfl

/-! ## The code unit of a line in a section -/

section

variable (g : Grammar) (s : Section)

theorem isCandidate_node : (s.node g).isCandidate = decide (2 ≤ (trimLines s.body).length) := by
  rw [Node.isCandidate, Section.node_children, Section.node_last_row, Section.node_first]
  cases h : trimLines s.body with
  | nil => simp
  | cons l ls => simp

theorem isCandidate_block : (s.block g).isCandidate = decide (2 ≤ (trimLines s.body).length) := by
  have hlast : (s.block g).last.row = s.row + (trimLines s.body).length := s.node_last_row g
  rw [Node.isCandidate, hlast]
  by_cases h : 2 ≤ (trimLines s.body).length
  · simp [Section.block, length_runs h, h]
  · simp [Section.block, h]

theorem isDefinition_block : (s.block g).isDefinition = false := by
  show (definitionWords.any fun w => (Text.lower "block".toList).contains w) = false
  decide

/-- The place of a node without children is the node. -/
theorem placeUnder_leaf {hit : Node → Bool} {above : List Node} {n : Node} (hn : n.children = [])
    (h : hit n = true) : n.placeUnder hit above = some ⟨n, above⟩ := by
  rw [placeUnder_of_hit h, hn]
  rfl

theorem climb_pair (best n root : Node) : climb best [n, root] = if n.isCandidate then n else best := by
  simp [climb]

theorem covers_node {r : Int} :
    (s.node g).covers r = true ↔ (s.row : Int) ≤ r ∧ r ≤ s.row + (trimLines s.body).length := by
  simp [Node.covers_iff]

theorem covers_block {r : Int} :
    (s.block g).covers r = true ↔ (s.row : Int) ≤ r ∧ r ≤ s.row + (trimLines s.body).length :=
  covers_node g s

theorem covers_initial {r : Int} : s.initial.covers r = true ↔ r = s.row := by
  simp only [Node.covers_iff, Section.initial]
  omega

/-- The place of a line of a section of several lines: its first character, or
a run in its block. -/
theorem place_section {r : Int} (above : List Node) (hne : trimLines s.body ≠ [])
    (h : (s.node g).covers r = true) :
    (s.node g).placeUnder (·.covers r) above = some ⟨s.initial, s.node g :: above⟩ ∨
      ∃ run ∈ (s.block g).children,
        (s.node g).placeUnder (·.covers r) above = some ⟨run, s.block g :: s.node g :: above⟩ := by
  have hrows := (covers_node g s).1 h
  rw [placeUnder_of_hit h, Section.node_children, if_neg (by simpa using hne), placeAmong_eq]
  by_cases hr : r = s.row
  · left
    have hi := (covers_initial s).2 hr
    have hplace : s.initial.placeUnder (·.covers r) (s.node g :: above) =
        some ⟨s.initial, s.node g :: above⟩ := placeUnder_leaf rfl hi
    simp [hi, hplace]
  · right
    have hi : s.initial.covers r = false := by rwa [Bool.eq_false_iff, Ne, covers_initial]
    have hb := (covers_block g s).2 hrows
    obtain ⟨n, hn, hcov⟩ : ∃ n ∈ (s.block g).children, n.covers r = true :=
      exists_run_covers (by omega) (by omega)
    have hsome : ((s.block g).children.find? (·.covers r)).isSome := List.find?_isSome.2 ⟨n, hn, hcov⟩
    obtain ⟨run, hrun⟩ := Option.isSome_iff_exists.1 hsome
    have hmem := List.mem_of_find?_eq_some hrun
    have hruncov : run.covers r = true := by simpa using List.find?_some hrun
    refine ⟨run, hmem, ?_⟩
    have hplace : run.placeUnder (·.covers r) (s.block g :: s.node g :: above) =
        some ⟨run, s.block g :: s.node g :: above⟩ := placeUnder_leaf (children_of_mem_runs hmem) hruncov
    have hblock : (s.block g).placeUnder (·.covers r) (s.node g :: above) = _ := placeUnder_of_hit hb
    rw [placeAmong_eq, hrun] at hblock
    simp [hi, hb, hblock, hplace]

/-- The code unit of a line in a section is one of its units. -/
theorem codeUnit_mem_units {r : Int} {root : Node} {p : Place} (hcov : (s.node g).covers r = true)
    (h : (s.node g).placeUnder (·.covers r) [root] = some p) : p.codeUnit ∈ s.units g := by
  cases hb : trimLines s.body with
  | nil =>
      have hleaf : (s.node g).children = [] := by rw [Section.node_children, hb]; rfl
      rw [placeUnder_leaf hleaf hcov, Option.some.injEq] at h
      subst h
      simp [Section.units, hb, Place.codeUnit, climb]
  | cons l ls =>
      have hnode := isCandidate_node g s
      have hblock := isCandidate_block g s
      have hplace := place_section g s [root] (by simp [hb]) hcov
      rw [h] at hplace
      cases ls with
      | nil =>
          -- two lines: neither the section nor its block is large enough for a unit
          rw [hb] at hnode hblock
          rcases hplace with heq | ⟨run, hrun, heq⟩
          · cases heq
            simp [Section.units, hb, Place.codeUnit, climb_pair, hnode]
          · cases heq
            rw [Section.block, hb, Section.runs_singleton, List.mem_singleton] at hrun
            simp [Section.units, hb, Place.codeUnit, climb, hblock, hnode, hrun]
      | cons m ls =>
          rw [hb] at hnode hblock
          rcases hplace with heq | ⟨run, hrun, heq⟩
          · cases heq
            simp [Section.units, hb, Place.codeUnit, climb_pair, hnode]
          · cases heq
            simp [Section.units, hb, Place.codeUnit, climb, hblock, hnode, isDefinition_block]

end

/-! ## The units of a text -/

/-- The code units of a text without the root, in order. -/
def units (language : String) (t : Text) : List Node :=
  (sections 0 0 t.lines).flatMap (Section.units (Grammar.ofLanguage language))

/-- The code unit of a line is one of the units of the section that covers the line, and
the root if no section does. -/
theorem codeUnit?_cases {language : String} {t : Text} {line : Int} {n : Node}
    (h : (build language t).codeUnit? line = some n) :
    (n = build language t ∧
        ∀ s ∈ sections 0 0 t.lines, (s.node (Grammar.ofLanguage language)).covers (line - 1) = false) ∨
      ∃ s ∈ sections 0 0 t.lines, (s.node (Grammar.ofLanguage language)).covers (line - 1) = true ∧
        n ∈ s.units (Grammar.ofLanguage language) := by
  obtain ⟨p, hp, rfl⟩ := Option.map_eq_some_iff.1 h
  by_cases hroot : (build language t).covers (line - 1) = true
  · rw [Node.place?, placeUnder_of_hit hroot, placeAmong_eq, Option.some.injEq] at hp
    cases hfind : (build language t).children.find? (·.covers (line - 1)) with
    | none =>
        rw [hfind] at hp
        subst hp
        refine Or.inl ⟨rfl, fun s hs => ?_⟩
        simpa using List.find?_eq_none.1 hfind _ (List.mem_map_of_mem hs)
    | some c =>
        have hcov : c.covers (line - 1) = true := by simpa using List.find?_some hfind
        obtain ⟨s, hs, rfl⟩ := List.mem_map.1 (List.mem_of_find?_eq_some hfind)
        rw [hfind, Option.bind_some, placeUnder_of_hit hcov, Option.getD_some] at hp
        have hplace : (s.node (Grammar.ofLanguage language)).placeUnder (·.covers (line - 1))
            [build language t] = some p := by
          rw [placeUnder_of_hit hcov, hp]
        exact Or.inr ⟨s, hs, hcov, codeUnit_mem_units _ s hcov hplace⟩
  · rw [Node.place?, placeUnder_of_not_hit (by simpa using hroot)] at hp
    cases hp

/-- The code unit of a line is the root or one of the units. -/
theorem codeUnit?_mem_units {language : String} {t : Text} {line : Int} {n : Node}
    (h : (build language t).codeUnit? line = some n) : n = build language t ∨ n ∈ units language t := by
  rcases codeUnit?_cases h with ⟨rfl, -⟩ | ⟨s, hs, -, hn⟩
  · exact Or.inl rfl
  · exact Or.inr (List.mem_flatMap.2 ⟨s, hs, hn⟩)

theorem opens_length {l : Text} (h : opens l = true) : 0 < l.length := by
  cases l with
  | nil => cases h
  | cons c l => exact Nat.succ_pos _

/-- The units of a section are the section itself, or its two units if it has two
lines. -/
theorem Section.mem_units {g : Grammar} {s : Section} {n : Node} (h : n ∈ s.units g) :
    n = s.node g ∨ ∃ l, trimLines s.body = [l] ∧ (n = s.initial ∨ n = s.second l) := by
  unfold units at h
  split at h
  next l hl => exact Or.inr ⟨l, hl, by simpa using h⟩
  next => exact Or.inl (by simpa using h)

theorem Section.units_within {g : Grammar} {s : Section} {n : Node} (h : n ∈ s.units g) :
    s.offset ≤ n.start ∧ n.start ≤ n.stop ∧ n.stop ≤ (s.node g).stop := by
  have hstop := s.node_stop_succ g
  rw [Section.lines, size_cons] at hstop
  rcases mem_units h with rfl | ⟨l, hl, rfl | rfl⟩
  · rw [node_start]
    omega
  · rw [hl, size_cons] at hstop
    simp only [initial]
    omega
  · rw [hl, size_cons, size_nil] at hstop
    have hjoin : (unlines [l]).length + 1 = size [l] := length_unlines (by simp)
    rw [size_cons, size_nil] at hjoin
    simp only [second, nodeOfLines]
    omega

theorem Section.units_pairwise {g : Grammar} {s : Section} (hopen : opens s.head = true) :
    (s.units g).Pairwise fun a b => a.stop < b.start := by
  have hhead := opens_length hopen
  unfold units
  split
  · refine List.pairwise_pair.2 ?_
    simp only [initial, second, nodeOfLines]
    omega
  · exact List.pairwise_singleton _ _

/-- Two members of a list in order are the same, or one comes before the other. -/
theorem eq_or_related {α : Type} {R : α → α → Prop} {l : List α} (h : l.Pairwise R) {a b : α}
    (ha : a ∈ l) (hb : b ∈ l) : a = b ∨ R a b ∨ R b a := by
  refine List.Pairwise.forall_of_forall_of_flip (R := fun a b => a = b ∨ R a b ∨ R b a) (l := l)
    (fun x _ => Or.inl rfl) ?_ ?_ ha hb
  · exact h.imp fun hab => Or.inr (Or.inl hab)
  · exact h.imp fun hab => Or.inr (Or.inr hab)

section

variable {language : String} {t : Text}

theorem section_of_mem_units {n : Node} (h : n ∈ units language t) :
    ∃ s ∈ sections 0 0 t.lines, n ∈ s.units (Grammar.ofLanguage language) ∧
      Stands t s.row s.offset s.lines ∧ opens s.head = true := by
  obtain ⟨s, hs, hn⟩ := List.mem_flatMap.1 h
  obtain ⟨hstands, hopen⟩ := sections_stands (stands_lines t) hs
  exact ⟨s, hs, hn, hstands.of_leading s.lines_lead, hopen⟩

/-- Two sections do not share a row. -/
theorem section_eq_of_covers {g : Grammar} {s s' : Section} {r : Int} (hs : s ∈ sections 0 0 t.lines)
    (hs' : s' ∈ sections 0 0 t.lines) (h : (s.node g).covers r = true) (h' : (s'.node g).covers r = true) :
    s = s' := by
  have hle := (trimLines_leads s.body).length_le
  have hle' := (trimLines_leads s'.body).length_le
  rw [covers_node] at h h'
  rcases eq_or_related (sections_pairwise 0 0 t.lines) hs hs' with heq | hlt | hlt
  · exact heq
  · omega
  · omega

/-- A section ends before the next one begins. -/
theorem node_stop_lt {g : Grammar} {s s' : Section} (h : s.offset + size (s.head :: s.body) ≤ s'.offset) :
    (s.node g).stop < s'.offset := by
  have hstop := s.node_stop_succ g
  have hle := size_le_of_leading s.lines_lead
  omega

/-- The units of a text come in order, each with at least one character before
the next one. -/
theorem units_pairwise (language : String) (t : Text) :
    (units language t).Pairwise fun a b => a.stop < b.start := by
  rw [units, List.pairwise_flatMap]
  refine ⟨fun s hs => Section.units_pairwise (sections_stands (stands_lines t) hs).2, ?_⟩
  refine (sections_pairwise 0 0 t.lines).imp fun hlt a ha b hb => ?_
  have hstop := node_stop_lt (g := Grammar.ofLanguage language) hlt.2
  have ha := Section.units_within ha
  have hb := Section.units_within hb
  omega

/-- Two units are the same, or lie apart. -/
theorem units_apart {a b : Node} (ha : a ∈ units language t) (hb : b ∈ units language t) :
    a = b ∨ a.stop < b.start ∨ b.stop < a.start :=
  eq_or_related (units_pairwise language t) ha hb

/-- The rows of the root are those of its two positions. -/
theorem rowAt_root : rowAt t (build language t).start = (build language t).first.row ∧
    rowAt t (build language t).stop = (build language t).last.row := by
  obtain ⟨l, ls, hl⟩ := List.exists_cons_of_ne_nil (Text.lines_ne_nil t)
  have hstands := stands_lines t
  rw [hl] at hstands
  refine ⟨hstands.rowAt_head (k := 0) (Nat.zero_le _), ?_⟩
  have hstop := hstands.rowAt_stop
  simp only [build, nodeOfLines, hl]
  simpa using hstop

/-- The rows of a unit are those of its two positions. -/
theorem rowAt_unit {n : Node} (h : n ∈ units language t) :
    rowAt t n.start = n.first.row ∧ rowAt t n.stop = n.last.row := by
  obtain ⟨s, hs, hn, hstands, hopen⟩ := section_of_mem_units h
  rw [Section.lines] at hstands
  rcases Section.mem_units hn with rfl | ⟨l, hl, rfl | rfl⟩
  · refine ⟨hstands.rowAt_head (k := 0) (Nat.zero_le _), ?_⟩
    rw [Section.node_stop, Section.node_last_row]
    exact hstands.rowAt_stop
  · exact ⟨hstands.rowAt_head (k := 0) (Nat.zero_le _), hstands.rowAt_head (opens_length hopen)⟩
  · rw [hl] at hstands
    have hsecond : Stands t (s.row + 1) (s.offset + (s.head.length + 1)) [l] := by
      simpa using Stands.right (a := [s.head]) (b := [l]) hstands
    exact ⟨hsecond.rowAt_head (k := 0) (Nat.zero_le _), hsecond.rowAt_stop⟩

theorem node_stop_le_length {g : Grammar} {s : Section} (h : s ∈ sections 0 0 t.lines) :
    (s.node g).stop ≤ t.length := by
  have hstop := s.node_stop_succ g
  have hle := ((sections_stands (stands_lines t) h).1.of_leading s.lines_lead).stop_lt
  omega

/-- A unit starts before it ends and ends in the text. -/
theorem unit_span {n : Node} (h : n ∈ units language t) : n.start ≤ n.stop ∧ n.stop ≤ t.length := by
  obtain ⟨s, hs, hn⟩ := List.mem_flatMap.1 h
  have hwithin := Section.units_within hn
  exact ⟨hwithin.2.1, Nat.le_trans hwithin.2.2 (node_stop_le_length hs)⟩

/-- A unit ends where a section ends, or lies apart from that position. -/
theorem unit_apart_of_stop {n c : Node} (h : n ∈ units language t) (hc : c ∈ (build language t).children) :
    n.stop < c.stop ∨ c.stop < n.start ∨ c.stop = n.stop := by
  obtain ⟨s, hs, hn⟩ := List.mem_flatMap.1 h
  obtain ⟨s', hs', rfl⟩ := List.mem_map.1 hc
  have hwithin := Section.units_within hn
  have hend := s'.node_stop_succ (Grammar.ofLanguage language)
  rw [Section.lines, size_cons] at hend
  rcases eq_or_related (sections_pairwise 0 0 t.lines) hs hs' with rfl | hlt | hlt
  · omega
  · have hstop := node_stop_lt (g := Grammar.ofLanguage language) hlt.2
    omega
  · have hstop := node_stop_lt (g := Grammar.ofLanguage language) hlt.2
    omega

end

/-! ## A code unit covers its line -/

mutual

/-- Every node on the way to a place is hit, apart from those above the start. -/
theorem placeUnder_hits {hit : Node → Bool} : ∀ (n : Node) (above : List Node) {p : Place},
    n.placeUnder hit above = some p → hit p.node = true ∧ ∀ m ∈ p.above, m ∈ above ∨ hit m = true
  | ⟨kind, start, stop, first, last, children⟩, above, p, h => by
      simp only [Node.placeUnder] at h
      split at h
      next hn =>
        split at h
        next q hq =>
          cases h
          obtain ⟨hnode, habove⟩ := placeAmong_hits children _ hq
          refine ⟨hnode, fun m hm => ?_⟩
          rcases habove m hm with hmem | hhit
          · rcases List.mem_cons.1 hmem with rfl | hmem
            · exact Or.inr hn
            · exact Or.inl hmem
          · exact Or.inr hhit
        next =>
          cases h
          exact ⟨hn, fun m hm => Or.inl hm⟩
      next => cases h

theorem placeAmong_hits {hit : Node → Bool} : ∀ (ns : List Node) (above : List Node) {p : Place},
    placeAmong hit above ns = some p → hit p.node = true ∧ ∀ m ∈ p.above, m ∈ above ∨ hit m = true
  | [], _, _, h => by cases h
  | n :: ns, above, p, h => by
      simp only [placeAmong] at h
      split at h
      next q hq =>
        cases h
        exact placeUnder_hits n above hq
      next => exact placeAmong_hits ns above h

end

theorem climb_mem (best : Node) (above : List Node) : climb best above ∈ best :: above := by
  fun_induction climb best above with
  | case1 => exact List.mem_cons_self
  | case2 => exact List.mem_cons_self
  | case3 best n above hne hc hd => exact List.mem_cons_of_mem _ List.mem_cons_self
  | case4 best n above hne hc hd ih => exact List.mem_cons_of_mem _ ih
  | case5 best n above hne hc ih =>
      rcases List.mem_cons.1 ih with h | h
      · rw [h]
        exact List.mem_cons_self
      · exact List.mem_cons_of_mem _ (List.mem_cons_of_mem _ h)

/-- The code unit of a line covers the line, in any tree. -/
theorem codeUnit?_covers {root n : Node} {line : Int} (h : root.codeUnit? line = some n) :
    (n.first.row : Int) + 1 ≤ line ∧ line ≤ (n.last.row : Int) + 1 := by
  obtain ⟨p, hp, rfl⟩ := Option.map_eq_some_iff.1 h
  obtain ⟨hnode, habove⟩ := placeUnder_hits root [] hp
  have hcov : p.codeUnit.covers (line - 1) = true := by
    rcases List.mem_cons.1 (climb_mem p.node p.above) with heq | hmem
    · rw [Place.codeUnit, heq]
      exact hnode
    · exact (habove _ hmem).resolve_left List.not_mem_nil
  have := Node.covers_iff.1 hcov
  omega

/-! ## The rows of a code unit -/

section

variable {language : String} {t : Text} {line : Int} {n : Node}

/-- The rows of a code unit are those of its two positions. -/
theorem rowAt_codeUnit (h : (build language t).codeUnit? line = some n) :
    rowAt t n.start = n.first.row ∧ rowAt t n.stop = n.last.row := by
  rcases codeUnit?_mem_units h with rfl | hmem
  · exact rowAt_root
  · exact rowAt_unit hmem

theorem last_row_build (language : String) (t : Text) : (build language t).last.row + 1 = t.lines.length := by
  have hpos := List.length_pos_iff.2 (Text.lines_ne_nil t)
  simp only [build, nodeOfLines]
  omega

/-- A line without a code unit is no line of the text. -/
theorem codeUnit?_eq_none (h : (build language t).codeUnit? line = none) :
    line ≤ 0 ∨ (t.lines.length : Int) < line := by
  have hrow := last_row_build language t
  by_cases hcov : (build language t).covers (line - 1) = true
  · rw [Node.codeUnit?, Node.place?, placeUnder_of_hit hcov] at h
    cases h
  · rw [Node.covers_iff] at hcov
    have hfirst : (build language t).first.row = 0 := rfl
    omega

theorem exists_codeUnit (language : String) (hpos : 1 ≤ line) (hle : line ≤ t.lines.length) :
    ∃ n, (build language t).codeUnit? line = some n := by
  cases h : (build language t).codeUnit? line with
  | some n => exact ⟨n, rfl⟩
  | none =>
      have := codeUnit?_eq_none h
      omega

theorem stop_build (language : String) (t : Text) : (build language t).stop = t.length := by
  simp only [build, nodeOfLines, Text.unlines_lines, Nat.zero_add]

/-- A code unit ends in the last line of the text at the latest. -/
theorem last_row_codeUnit (h : (build language t).codeUnit? line = some n) :
    n.last.row + 1 ≤ t.lines.length := by
  have hrow := last_row_build language t
  rcases codeUnit?_mem_units h with rfl | hmem
  · omega
  · have hle : rowAt t n.stop ≤ rowAt t (build language t).stop :=
      rowAt_mono (stop_build language t ▸ (unit_span hmem).2)
    rw [(rowAt_unit hmem).2, rowAt_root.2] at hle
    omega

end

end Redline.Outline
