import Redline.Proofs.Patch.Consistency
import Redline.Proofs.Outline.Coordinates

/-!
# Imports go behind the header

The *header* of a file is the leading run of its top nodes that import something or
that its language puts before imports.  New imports go to the very start or behind a
node of the header.  They never go into a node, and no import of the header comes behind
them.  The row that is told with their place is that of the position
(`insertionPoint_endsHeader`).
-/

namespace Redline

open Outline

namespace Patch

/-- The kinds of the nodes that import something in a language. -/
def importKinds (language : String) : List String :=
  if language = "python" then ["import_statement", "import_from_statement"]
  else if language = "java" then ["import_declaration"]
  else if language = "javascript" || language = "typescript" then ["import_statement"]
  else []

/-- The kinds of the nodes of a header in a language. -/
def headerKinds (language : String) : List String :=
  if language = "python" then ["import_statement", "import_from_statement", "string"]
  else if language = "java" then ["package_declaration", "import_declaration"]
  else if language = "javascript" || language = "typescript" then ["import_statement", "comment", "hashbang"]
  else []

/-- The header of a file, among its top nodes. -/
def header (language : String) (nodes : List Node) : List Node :=
  nodes.takeWhile fun n => (headerKinds language).contains n.kind

/-- A language has a header, or nothing may stand in one. -/
theorem ofLanguage_cases (language : String) :
    (HeaderKinds.ofLanguage language = none ∧ importKinds language = []) ∨
      ∃ k, HeaderKinds.ofLanguage language = some k ∧ k.imports = importKinds language ∧
        ∀ nodes, k.leading nodes = header language nodes := by
  unfold HeaderKinds.ofLanguage HeaderKinds.leading header headerKinds importKinds
  split
  next => exact Or.inr ⟨_, rfl, rfl, fun nodes => by simp [Bool.or_assoc]⟩
  next =>
    split
    next => exact Or.inr ⟨_, rfl, rfl, fun nodes => by simp [Bool.or_comm]⟩
    next =>
      split
      next => exact Or.inr ⟨_, rfl, rfl, fun nodes => by simp⟩
      next => exact Or.inl ⟨rfl, rfl⟩

end Patch

namespace Patcher

open Patch

/-! ## Where the header ends -/

theorem anchor?_eq_none {k : HeaderKinds} {nodes : List Node} (h : k.anchor? nodes = none) :
    ∀ m ∈ k.leading nodes, k.imports.contains m.kind = false := by
  rw [HeaderKinds.anchor?] at h
  cases himport : lastOf? k.imports (k.leading nodes) with
  | some m =>
      rw [himport, Option.orElse_some] at h
      cases h
  | none => exact lastOf?_eq_none himport

/-- A place for imports behind the header: the very start or the end of a node of the header,
in no top node, and not before the end of any import of the header.  The row is that of the
position. -/
structure EndsHeader (p : Patcher) (language : String) (nodes : List Node) (row position : Nat) : Prop where
  stop_eq : position = 0 ∨ ∃ n ∈ header language nodes, n.stop = position
  not_inside : ∀ n ∈ nodes, ¬(n.start < position ∧ position < n.stop)
  imports_le : ∀ n ∈ header language nodes, n.kind ∈ importKinds language → n.stop ≤ position
  row_eq : (p.pointAt position).row = row

section

variable {p : Patcher} {language : String} {nodes : List Node} {n : Node}

/-- The very start is such a place if the header has no import. -/
theorem endsHeader_start (himports : ∀ m ∈ header language nodes, m.kind ∉ importKinds language) :
    p.EndsHeader language nodes 0 0 where
  stop_eq := Or.inl rfl
  not_inside _ _ h := Nat.not_lt_zero _ h.1
  imports_le m hm hkind := absurd hkind (himports m hm)
  row_eq := rfl

/-- The end of a node of the header is one if no import of the header comes behind it. -/
theorem endsHeader_behind {front back : List Node} (hrun : header language nodes = front ++ n :: back)
    (hback : ∀ m ∈ back, m.kind ∉ importKinds language) (hspan : n.start ≤ n.stop)
    (horder : nodes.Pairwise fun a b => a.start < b.start ∧ a.stop ≤ b.start)
    (hrow : (p.pointAt n.stop).row = n.last.row) : p.EndsHeader language nodes n.last.row n.stop := by
  have hmem : n ∈ header language nodes := hrun ▸ List.mem_append_right front List.mem_cons_self
  have hsub : (header language nodes).Sublist nodes := List.takeWhile_sublist _
  refine ⟨Or.inr ⟨n, hmem, rfl⟩, fun m hm hinside => ?_, fun m hm hkind => ?_, hrow⟩
  · rcases eq_or_related horder hm (hsub.subset hmem) with rfl | hlt | hlt
    · exact Nat.lt_irrefl _ hinside.2
    · omega
    · omega
  · have hrunOrder := horder.sublist hsub
    rw [hrun] at hm hrunOrder
    rcases List.mem_append.1 hm with hfront | hm
    · have hlt := (List.pairwise_append.1 hrunOrder).2.2 m hfront n List.mem_cons_self
      omega
    · rcases List.mem_cons.1 hm with rfl | hm
      · exact Nat.le_refl _
      · exact absurd hkind (hback m hm)

/-- Imports go behind the header of the text. -/
theorem insertionAmong_endsHeader (p : Patcher) (language : String) :
    p.EndsHeader language (build language p.content).children
      (insertionAmong language (build language p.content).children).1
      (insertionAmong language (build language p.content).children).2 := by
  unfold insertionAmong
  rcases ofLanguage_cases language with ⟨hnone, himports⟩ | ⟨k, hk, himports, hleading⟩
  · rw [hnone]
    exact endsHeader_start fun m _ => by simp [himports]
  · rw [hk, Option.bind_some]
    cases hanchor : k.anchor? (build language p.content).children with
    | none =>
        refine endsHeader_start fun m hm => ?_
        rw [← hleading] at hm
        simpa [himports] using anchor?_eq_none hanchor m hm
    | some n =>
        obtain ⟨front, back, hrun, hback⟩ := anchor?_eq_some hanchor
        rw [hleading] at hrun
        rw [himports] at hback
        have hchild := mem_of_anchor hanchor
        have hroot := build_placed language p
        refine endsHeader_behind hrun (fun m hm => by simpa using hback m hm) (hroot.encloses n hchild).span
          hroot.ordered ?_
        rw [(child_placed hchild).pointAt_stop]

end

/-- A patcher can always be opened, and it has the tree that a parse of the text gives.
Whatever is done with it then and whatever fails meanwhile, imports go behind the header
of the text that it has, and to the very start if it has no tree. -/
theorem insertionPoint_endsHeader {q : Parsers} (hq : q.Follows fun language t => .whole (build language t))
    (path : String) (content : Text) :
    (∃ p r, Patcher.open path content q = .ok p r ∧ ∀ language tree r', languageOf? path = some language →
        parse language content q = .ok (some tree) r' → p.tree = some tree) ∧
      ∀ p r, Reached path content q p r →
        (p.tree = none ∧ p.insertionPoint = .ok (0, 0)) ∨
          ∃ language row position, languageOf? path = some language ∧
            p.tree = some (.whole (build language p.content)) ∧ p.insertionPoint = .ok (row, position) ∧
            p.EndsHeader language (build language p.content).children row position := by
  constructor
  · obtain ⟨p, r, hopen, -⟩ := open_inStep path content hq
    refine ⟨p, r, hopen, fun language tree r' hlanguage hparse => ?_⟩
    cases hopen.symm.trans (open_of_parse hlanguage hparse)
    rfl
  · intro p r hreached
    obtain ⟨hp, -⟩ := hreached.inStep hq
    cases htree : p.tree with
    | none => exact Or.inl ⟨rfl, by rw [insertionPoint, htree]⟩
    | some tree =>
        obtain ⟨language, hlanguage, rfl⟩ := hp.tree_eq tree htree
        refine Or.inr ⟨language, _, _, hp.language_eq.symm.trans hlanguage, rfl, ?_,
          insertionAmong_endsHeader p language⟩
        rw [insertionPoint, htree, hlanguage]
        rfl

/-- A file with a comment between its imports and one behind them. -/
def commented : Text := "#! x\n// a\nimport b\n// c\nimport d\n\n// e\nf()\nimport g\n".toList

theorem insertionPoint_endsHeader_commented : picky.Follows (fun language t => .whole (build language t)) ∧
    ∃ p r, Patcher.open "a.js" commented picky = .ok p r ∧ p.insertionPoint = .ok (4, 32) ∧
      p.EndsHeader "javascript" (build "javascript" commented).children 4 32 := by
  have hlanguage : languageOf? "a.js" = some "javascript" := by decide +kernel
  have hparse : ∃ r, parse "javascript" commented picky = .ok (some (.whole (build "javascript" commented))) r := by
    have hlong : commented ≠ "y\n".toList := by decide
    unfold parse runParser
    simp only [picky, if_neg hlong]
    exact ⟨_, rfl⟩
  obtain ⟨r, hparse⟩ := hparse
  have hopen := open_of_parse hlanguage hparse
  have hplace : insertionAmong "javascript" (build "javascript" commented).children = (4, 32) := by decide +kernel
  obtain ⟨-, hreached⟩ := insertionPoint_endsHeader follows_picky "a.js" commented
  rcases hreached _ _ (.opened hopen) with ⟨hnone, -⟩ | ⟨language, row, position, hsame, -, hpoint, hends⟩
  · cases hnone
  · cases hlanguage.symm.trans hsame
    have hpair : (row, position) = (4, 32) := (Except.ok.inj hpoint).symm.trans hplace
    cases hpair
    exact ⟨follows_picky, _, r, hopen, hpoint, hends⟩

end Patcher

end Redline
