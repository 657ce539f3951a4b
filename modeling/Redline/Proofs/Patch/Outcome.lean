import Redline.Proofs.Outline.Steady
import Redline.Proofs.Patch.Registration

/-!
# What comes of applying a modification

An application needs a tree, finds the span of the modification, edits the tree
and parses the new text.  Each of these may fail.  `Application` says all that can
come of it: a failure, which changes nothing but the tree, or a success, for which
a tree was at hand, a span was found and the new text could be parsed.  The text
and the modifications are touched only when nothing can fail any more, so there is
nothing in between (`apply_all_or_nothing`).
-/

namespace Redline

open Outline

/-! ## Parsers count on -/

theorem parse_later {language : String} {t : Text} {q r : Parsers} {tree : Option Tree}
    (h : parse language t q = .ok tree r) : q.Later r := by
  rcases parse_cases language t q with ⟨tree', r', heq, hlater⟩ | ⟨e, r', heq, -⟩
  · cases h.symm.trans heq
    exact hlater
  · cases h.symm.trans heq

namespace Patcher

/-! ## The tree and the span -/

/-- A tree is at hand: the patcher holds it, or it holds none and a parse of the
text gives this one. -/
inductive Consults (p : Patcher) (q : Parsers) : Tree → Parsers → Prop where
  | held {tree : Tree} (h : p.tree = some tree) : Consults p q tree q
  | parsed {tree : Tree} {language : String} {r : Parsers} (hnone : p.tree = none)
      (hlanguage : p.language = some language) (hparse : parse language p.content q = .ok (some tree) r) :
      Consults p q tree r

/-- A span holds the text that a modification is meant for, up to white space at
the ends.  It is the span of the modification, or else that of the first such node
of a tree. -/
inductive Finds (p : Patcher) (tree : Tree) (m : Modification) : Int → Int → Prop where
  | own (h : Text.strip (Text.slice p.content m.start m.stop) = m.target.strip) : Finds p tree m m.start m.stop
  | node {root n : Node} (h : Text.strip (Text.slice p.content m.start m.stop) ≠ m.target.strip)
      (hroot : tree.root = .ok root)
      (hfirst : root.walk.find? (fun n => (p.textOf n).strip == m.target.strip) = some n) :
      Finds p tree m n.start n.stop

section

variable {p : Patcher} {m : Modification} {q q₁ : Parsers} {tree : Tree} {start stop : Int}

theorem Consults.later (h : p.Consults q tree q₁) : q.Later q₁ := by
  cases h with
  | held => exact Parsers.Later.refl q
  | parsed hnone hlanguage hparse => exact parse_later hparse

theorem withTree_eq {found : Option Tree} (h : p.tree = found) : { p with tree := found } = p := by
  rw [← h]

theorem ensureTree_of_none {language : String} {found : Option Tree} (htree : p.tree = none)
    (hlanguage : p.language = some language) (hrun : parse? language p.content q = .ok found q₁) :
    p.ensureTree q = .ok { p with tree := found } q₁ := by
  obtain ⟨path, language', content, tree', modifications⟩ := p
  cases htree
  cases hlanguage
  exact bind_of_ok hrun

theorem Consults.ensureTree (h : p.Consults q tree q₁) : p.ensureTree q = .ok { p with tree := some tree } q₁ := by
  cases h with
  | held htree =>
      rw [withTree_eq htree, Patcher.ensureTree, htree]
      rfl
  | parsed hnone hlanguage hparse => exact ensureTree_of_none hnone hlanguage (recover_of_ok hparse)

/-- There is a tree at hand, or the patcher stays without one. -/
theorem ensureTree_cases (p : Patcher) (q : Parsers) :
    (∃ tree q₁, p.Consults q tree q₁) ∨ p.tree = none ∧ ∃ r, p.ensureTree q = .ok p r ∧ q.Later r := by
  cases htree : p.tree with
  | some tree => exact Or.inl ⟨tree, q, .held htree⟩
  | none =>
      cases hlanguage : p.language with
      | none =>
          refine Or.inr ⟨rfl, q, ?_, Parsers.Later.refl q⟩
          rw [ensureTree, htree, hlanguage]
          rfl
      | some language =>
          have hstay : ∀ {r}, parse? language p.content q = .ok none r → p.ensureTree q = .ok p r := fun hrun => by
            rw [ensureTree_of_none htree hlanguage hrun, withTree_eq htree]
          rcases parse_cases language p.content q with ⟨found, r, hparse, hlater⟩ | ⟨e, r, hparse, hlater⟩
          · cases found with
            | some tree => exact Or.inl ⟨tree, r, .parsed htree hlanguage hparse⟩
            | none => exact Or.inr ⟨rfl, r, hstay (recover_of_ok hparse), hlater⟩
          · exact Or.inr ⟨rfl, r, hstay (recover_of_error hparse), hlater⟩

theorem Finds.locate (h : p.Finds tree m start stop) :
    { p with tree := some tree }.locate m = .ok (some (start, stop)) := by
  cases h with
  | own hown => rw [Patcher.locate, if_pos (beq_iff_eq.2 hown)]
  | node hown hroot hfirst =>
      rw [Patcher.locate, if_neg (by simpa using hown)]
      simp only [findByText, hroot]
      exact congrArg (fun found => Except.ok (found.map fun n : Node => ((n.start : Int), (n.stop : Int)))) hfirst

theorem finds_of_locate (h : { p with tree := some tree }.locate m = .ok (some (start, stop))) :
    p.Finds tree m start stop := by
  unfold Patcher.locate at h
  split at h
  next hown =>
    cases h
    exact .own (beq_iff_eq.1 hown)
  next hown =>
    cases hroot : tree.root with
    | error e =>
        simp only [findByText, hroot] at h
        cases h
    | ok root =>
        simp only [findByText, hroot] at h
        obtain ⟨n, hfirst, heq⟩ := Option.map_eq_some_iff.1 (Except.ok.inj h)
        cases heq
        exact .node (by simpa using hown) hroot hfirst

end

/-! ## What an application can do -/

/-- What can come of an application. -/
inductive Application (p : Patcher) (m : Modification) (q : Parsers) :
    PatchResult → Patcher → Parsers → Prop where
  /-- It fails.  The patcher may hold a tree then that was at hand. -/
  | failed {reason : String} {found : Option Tree} {r : Parsers}
      (hfound : ∀ tree, found = some tree → ∃ q₁, p.Consults q tree q₁) (hlater : q.Later r) :
      Application p m q (.failed reason) { p with tree := found } r
  /-- It succeeds.  The span that was found has the new text. -/
  | applied {tree : Tree} {start stop : Int} {found : Option Tree} {q₁ r : Parsers}
      (hconsults : p.Consults q tree q₁) (hfinds : p.Finds tree m start stop) (hedit : tree.refusal = none)
      (hparse : parse (p.language.getD "") (p.content.splice start stop m.replacement) q₁ = .ok found r) :
      Application p m q (.applied (p.content.splice start stop m.replacement))
        (p.edited start stop m (p.content.splice start stop m.replacement) found) r

/-- A modification can be applied: a tree is at hand and can be edited, a span is
found, and the new text can be parsed. -/
def Applicable (p : Patcher) (m : Modification) (q : Parsers) : Prop :=
  ∃ tree start stop found q₁ r, p.Consults q tree q₁ ∧ p.Finds tree m start stop ∧ tree.refusal = none ∧
    parse (p.language.getD "") (p.content.splice start stop m.replacement) q₁ = .ok found r

section

variable {p : Patcher} {m : Modification} {q q₁ r : Parsers} {tree : Tree} {start stop : Int}

theorem apply_of_consults (h : p.Consults q tree q₁) :
    p.apply m q = { p with tree := some tree }.applyIn tree m q₁ := by
  rw [Patcher.apply, bind_of_ok h.ensureTree]

theorem apply_of_finds {found : Option Tree} (hconsults : p.Consults q tree q₁)
    (hfinds : p.Finds tree m start stop) (hedit : tree.refusal = none)
    (hparse : parse (p.language.getD "") (p.content.splice start stop m.replacement) q₁ = .ok found r) :
    p.apply m q = .ok (.applied (p.content.splice start stop m.replacement),
      p.edited start stop m (p.content.splice start stop m.replacement) found) r := by
  rw [apply_of_consults hconsults]
  simp only [applyIn, hfinds.locate, replaceAt, hedit, hparse]
  rfl

/-- An application has a result, and it is one of those that can come of it. -/
theorem apply_cases (p : Patcher) (m : Modification) (q : Parsers) :
    ∃ result p' r, p.apply m q = .ok (result, p') r ∧ p.Application m q result p' r := by
  rcases p.ensureTree_cases q with ⟨tree, q₁, hconsults⟩ | ⟨hnone, r, hrun, hlater⟩
  · -- with a tree at hand all depends on the span, the edit and the parse, in this order
    have hfailed : ∀ {reason r}, q₁.Later r →
        p.Application m q (.failed reason) { p with tree := some tree } r := fun hlater =>
      .failed (fun tree' heq => Option.some.inj heq ▸ ⟨q₁, hconsults⟩) (hconsults.later.trans hlater)
    rw [apply_of_consults hconsults]
    cases hlocate : { p with tree := some tree }.locate m with
    | error e =>
        simp only [applyIn, hlocate]
        exact ⟨_, _, q₁, rfl, hfailed (Parsers.Later.refl q₁)⟩
    | ok span =>
        cases span with
        | none =>
            simp only [applyIn, hlocate]
            exact ⟨_, _, q₁, rfl, hfailed (Parsers.Later.refl q₁)⟩
        | some span =>
            obtain ⟨start, stop⟩ := span
            simp only [applyIn, hlocate, replaceAt]
            cases hedit : tree.refusal with
            | some e => exact ⟨_, _, q₁, rfl, hfailed (Parsers.Later.refl q₁)⟩
            | none =>
                rcases parse_cases (p.language.getD "") (p.content.splice start stop m.replacement) q₁ with
                  ⟨found, r, hparse, -⟩ | ⟨e, r, hparse, hlater⟩
                · simp only [hparse]
                  exact ⟨_, _, r, rfl, .applied hconsults (finds_of_locate hlocate) hedit hparse⟩
                · simp only [hparse]
                  exact ⟨_, _, r, rfl, hfailed hlater⟩
  · have happly : p.apply m q = .ok (.failed "Cannot apply changes without tree-sitter support for this language",
        { p with tree := none }) r := by
      rw [withTree_eq hnone, Patcher.apply, bind_of_ok hrun, hnone]
      rfl
    exact ⟨_, _, r, happly, .failed (fun tree heq => by cases heq) hlater⟩

theorem Applicable.apply (h : p.Applicable m q) :
    ∃ result p' r, p.apply m q = .ok (result, p') r ∧ result.success = true := by
  obtain ⟨tree, start, stop, found, q₁, r, hconsults, hfinds, hedit, hparse⟩ := h
  exact ⟨_, _, r, apply_of_finds hconsults hfinds hedit hparse, rfl⟩

/-- Where a modification does not count from the end, no span that is found for it
does, and it is that of the modification or of a node. -/
theorem Finds.span (h : p.Finds tree m start stop) (hstart : 0 ≤ m.start) (hstop : m.start ≤ m.stop) :
    ∃ i j : Nat, start = i ∧ stop = j ∧
      ((m.start = i ∧ m.stop = j) ∨ ∃ root n, tree.root = .ok root ∧ n ∈ root.walk ∧ n.start = i ∧ n.stop = j) ∧
      Text.strip ((p.content.take j).drop i) = m.target.strip := by
  cases h with
  | own hown =>
      obtain ⟨i, hi⟩ := Int.eq_ofNat_of_zero_le hstart
      obtain ⟨j, hj⟩ := Int.eq_ofNat_of_zero_le (Int.le_trans hstart hstop)
      rw [hi, hj, Text.slice_natCast] at hown
      exact ⟨i, j, hi, hj, Or.inl ⟨hi, hj⟩, hown⟩
  | node hown hroot hfirst =>
      have htext := List.find?_some hfirst
      rw [beq_iff_eq, textOf, Node.text, Text.slice_natCast] at htext
      exact ⟨_, _, rfl, rfl, Or.inr ⟨_, _, hroot, List.mem_of_find?_eq_some hfirst, rfl, rfl⟩, htext⟩

end

/-- Applying a modification makes its whole edit or none of it.  If it fails, the
text and all modifications are as before.  If it succeeds, the new text replaces a
span that holds the text which the modification is meant for, be it the span of
the modification or that of a node.  It succeeds whenever that is possible. -/
theorem apply_all_or_nothing {m : Modification} (hstart : 0 ≤ m.start) (hstop : m.start ≤ m.stop) (p : Patcher)
    (q : Parsers) : ∃ result p' r, p.apply m q = .ok (result, p') r ∧
      (result.success = false → p'.content = p.content ∧ p'.modifications = p.modifications) ∧
      (result.success = true → ∃ tree q₁, p.Consults q tree q₁ ∧ ∃ start stop : Nat,
        ((m.start = start ∧ m.stop = stop) ∨
          ∃ root n, tree.root = .ok root ∧ n ∈ root.walk ∧ n.start = start ∧ n.stop = stop) ∧
        Text.strip ((p.content.take stop).drop start) = m.target.strip ∧
        p'.content = p.content.take start ++ m.replacement ++ p.content.drop stop ∧
        result.content = some p'.content) ∧
      (result.success = true ↔ p.Applicable m q) := by
  obtain ⟨result, p', r, happly, hcases⟩ := p.apply_cases m q
  refine ⟨result, p', r, happly, ?_⟩
  cases hcases with
  | failed hfound hlater =>
      have hnot : ∀ {goal : Prop}, false = true → goal := fun hfalse => absurd hfalse Bool.false_ne_true
      refine ⟨fun _ => ⟨rfl, rfl⟩, hnot, hnot, fun h => ?_⟩
      obtain ⟨result', p'', r', happly', hsuccess⟩ := h.apply
      cases happly.symm.trans happly'
      exact hsuccess
  | applied hconsults hfinds hedit hparse =>
      refine ⟨fun htrue => absurd htrue.symm Bool.false_ne_true, fun _ => ⟨_, _, hconsults, ?_⟩, fun _ => ?_,
        fun _ => rfl⟩
      · obtain ⟨i, j, rfl, rfl, hspan, htext⟩ := hfinds.span hstart hstop
        exact ⟨i, j, hspan, htext, Text.splice_natCast _ i j _, rfl⟩
      · exact ⟨_, _, _, _, _, _, hconsults, hfinds, hedit, hparse⟩

/-- A modification of the function in `greeting` whose span is somewhere else. -/
def strayed : Modification where
  path := "a.py"
  target := "def f():\n    a\n    b".toList
  replacement := "def f(): b".toList
  startLine := 1
  endLine := 1
  start := 0
  stop := 4

theorem apply_strayed : 0 ≤ strayed.start ∧ strayed.start ≤ strayed.stop ∧ ∃ result p' r,
    (fresh "a.py" "python" greeting).apply strayed Parsers.sound = .ok (result, p') r ∧ result.success = true ∧
      p'.content = "import os\n\ndef f(): b\n".toList := by
  have hstart : 0 ≤ strayed.start := by decide
  have hstop : strayed.start ≤ strayed.stop := by decide
  have hown : Text.strip (Text.slice greeting strayed.start strayed.stop) ≠ strayed.target.strip := by decide
  have honly : ∀ n ∈ (build "python" greeting).walk,
      Text.strip ((greeting.take n.stop).drop n.start) = strayed.target.strip → n.start = 11 ∧ n.stop = 31 := by
    decide +kernel
  obtain ⟨n, hfirst⟩ : ∃ n, (build "python" greeting).walk.find?
      (fun n => Text.strip (Text.slice greeting n.start n.stop) == strayed.target.strip) = some n :=
    Option.isSome_iff_exists.1 (by decide +kernel)
  obtain ⟨result, p', r, happly, -, hspan, hsuccess⟩ :=
    apply_all_or_nothing hstart hstop (fresh "a.py" "python" greeting) Parsers.sound
  have hdone : result.success = true := by
    obtain ⟨r, hparse, -⟩ := parse_faultless Parsers.faultless_sound "python"
      (greeting.splice n.start n.stop strayed.replacement)
    exact hsuccess.2 ⟨.whole (build "python" greeting), n.start, n.stop, _, _, r, .held rfl, .node hown rfl hfirst,
      rfl, hparse⟩
  refine ⟨hstart, hstop, result, p', r, happly, hdone, ?_⟩
  obtain ⟨tree, q₁, hconsults, i, j, hwhere, htext, hcontent, -⟩ := hspan hdone
  rcases hwhere with ⟨hi, hj⟩ | ⟨root, n', hroot, hn', rfl, rfl⟩
  · rw [hi, hj, Text.slice_natCast] at hown
    exact absurd htext hown
  · cases hconsults with
    | parsed hnone => cases hnone
    | held htree =>
        rw [← Option.some.inj htree] at hroot
        rw [← Except.ok.inj hroot] at hn'
        obtain ⟨hi, hj⟩ := honly n' hn' htext
        rw [hcontent, hi, hj]
        decide +kernel

end Patcher

end Redline
