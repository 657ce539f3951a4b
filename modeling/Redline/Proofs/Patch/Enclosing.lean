import Redline.Proofs.Patch.Outcome

/-!
# Modifications around others

A code unit that lies around another one is the whole file.  When the inner one is
replaced, the span of a modification of the whole file grows or shrinks with the text, so
it is the whole file again.  But the modification still remembers the old text, and it is
applied only where that text is found.  So it replaces the file only if nothing but white
space at the ends has changed.  Otherwise it goes to the first node that has the old text,
and if there is none it fails (`enclosing_outdated`).
-/

namespace Redline

open Outline

namespace Outline

variable {language : String} {t : Text} {a b : Node} {line line' : Int}

/-- A code unit around another one is the root, and the other is not. -/
theorem codeUnit_encloses (ha : (build language t).codeUnit? line = some a)
    (hb : (build language t).codeUnit? line' = some b) (hstart : a.start < b.start) (hstop : b.stop < a.stop) :
    a = build language t ∧ b ∈ units language t := by
  have hroot : (build language t).start = 0 := rfl
  rcases codeUnit?_mem_units hb with rfl | hb
  · omega
  · refine ⟨?_, hb⟩
    rcases codeUnit?_mem_units ha with rfl | ha
    · rfl
    · have hspan := unit_span hb
      rcases units_apart ha hb with rfl | hlt | hlt
      · omega
      · omega
      · omega

end Outline

/-- A modification around an edit grows or shrinks at its end. -/
theorem Modification.afterEdit_of_encloses {m : Modification} {start oldStop : Int} (newStop : Int)
    (hstart : m.start < start) (hstop : start < m.stop) (hedit : start ≤ oldStop) :
    m.afterEdit start oldStop newStop = { m with stop := m.stop + (newStop - oldStop) } := by
  have hother : ¬(m.start = start ∧ m.stop = oldStop) := by omega
  have hbefore : ¬oldStop < m.start := by omega
  simp [afterEdit, hother, hbefore, hstart, hstop]

namespace Patcher

/-! ## Registering -/

section

variable {p p' : Patcher} {r : Registration} {rs : List Registration}

/-- Registering changes nothing but the pending modifications, and forgets none. -/
structure Extends (p p' : Patcher) : Prop where
  eq : p' = { p with modifications := p'.modifications }
  kept : p.modifications ⊆ p'.modifications

theorem Extends.trans {p₁ : Patcher} (h : p.Extends p₁) (h' : p₁.Extends p') : p.Extends p' := by
  refine ⟨?_, List.Subset.trans h.kept h'.kept⟩
  rw [h'.eq, h.eq]

theorem enter_extends (h : p.enter r = .ok p') : p.Extends p' := by
  cases r with
  | unit n text ids =>
      cases h
      exact ⟨rfl, List.subset_append_left _ _⟩
  | imports text ids =>
      obtain ⟨⟨m, p₁⟩, hregister, rfl⟩ := except_map_eq_ok.1 h
      unfold registerImports at hregister
      split at hregister
      next =>
        cases hregister
        exact ⟨rfl, List.Subset.refl _⟩
      next =>
        obtain ⟨point, -, hregister⟩ := except_bind_eq_ok.1 hregister
        cases hregister
        exact ⟨rfl, List.subset_cons_self _ _⟩

theorem enterAll_extends (h : p.enterAll rs = .ok p') : p.Extends p' := by
  induction rs generalizing p with
  | nil =>
      cases h
      exact ⟨rfl, List.Subset.refl _⟩
  | cons r rs ih =>
      obtain ⟨p₁, henter, hrest⟩ := except_bind_eq_ok.1 h
      exact (enter_extends henter).trans (ih hrest)

/-- The replacement of a node that was registered is pending. -/
theorem mem_of_enterAll {n : Node} {text : Text} {ids : List String} (h : p.enterAll rs = .ok p')
    (hmem : .unit n text ids ∈ rs) : p.replacementOf n text ids ∈ p'.modifications := by
  induction rs generalizing p with
  | nil => cases hmem
  | cons r rs ih =>
      obtain ⟨p₁, henter, hrest⟩ := except_bind_eq_ok.1 h
      rcases List.mem_cons.1 hmem with rfl | hmem
      · cases henter
        exact (enterAll_extends hrest).kept (List.mem_append_right _ List.mem_cons_self)
      · have hsame := (enter_extends henter).eq
        have hlater := ih hrest hmem
        rw [hsame] at hlater
        exact hlater

end

/-! ## Applying -/

section

variable {p : Patcher} {q : Parsers} {root : Node} {m : Modification}

/-- The replacement of a node is applied in the text that it was registered for. -/
theorem apply_replacement (hq : q.Faultless) (htree : p.tree = some (.whole root)) (n : Node) (text : Text)
    (ids : List String) : ∃ q', q'.Faultless ∧ p.apply (p.replacementOf n text ids) q =
      .ok (.applied (p.content.splice n.start n.stop text),
        p.edited n.start n.stop (p.replacementOf n text ids) (p.content.splice n.start n.stop text)
          (some (.whole (build (p.language.getD "") (p.content.splice n.start n.stop text))))) q' := by
  obtain ⟨q', hparse, hq'⟩ := parse_faultless hq (p.language.getD "") (p.content.splice n.start n.stop text)
  have hown : p.Finds (.whole root) (p.replacementOf n text ids) n.start n.stop := .own rfl
  exact ⟨q', hq', apply_of_finds (.held htree) hown rfl hparse⟩

/-- What comes of a modification whose span is the whole text. -/
inductive WholeApplication (p : Patcher) (root : Node) (m : Modification) (q : Parsers) : Prop where
  /-- The text is the one that the modification is meant for, and all of it is replaced. -/
  | replaced {p' : Patcher} {q' : Parsers} (hsame : p.content.strip = m.target.strip)
      (hrun : p.apply m q = .ok (.applied m.replacement, p') q')
  /-- The text is another one, but that of a smaller node is not, and this node is replaced. -/
  | astray {n : Node} {p' : Patcher} {q' : Parsers} (hother : p.content.strip ≠ m.target.strip)
      (hfirst : root.walk.find? (fun n => (n.text p.content).strip == m.target.strip) = some n)
      (hspan : ¬(n.start = 0 ∧ n.stop = p.content.length))
      (hrun : p.apply m q = .ok (.applied (p.content.splice n.start n.stop m.replacement), p') q')
  /-- The text is another one and so is that of every node, and nothing is changed. -/
  | refused (hother : p.content.strip ≠ m.target.strip)
      (hnone : ∀ n ∈ root.walk, (n.text p.content).strip ≠ m.target.strip)
      (hrun : p.apply m q = .ok (.failed "Could not find matching node for modification", p) q)

theorem slice_whole (t : Text) : Text.slice t (0 : Nat) (t.length : Nat) = t := by
  rw [Text.slice_natCast, List.take_length, List.drop_zero]

theorem apply_whole (hq : q.Faultless) (htree : p.tree = some (.whole root)) (hstart : m.start = 0)
    (hstop : m.stop = p.content.length) : p.WholeApplication root m q := by
  have hslice : Text.slice p.content m.start m.stop = p.content := by
    rw [hstart, hstop]
    exact slice_whole p.content
  by_cases hsame : p.content.strip = m.target.strip
  · have hown : p.Finds (.whole root) m m.start m.stop := .own (hslice.symm ▸ hsame)
    obtain ⟨q', hparse, -⟩ := parse_faultless hq (p.language.getD "") (p.content.splice m.start m.stop m.replacement)
    have hrun := apply_of_finds (.held htree) hown rfl hparse
    have hwhole : p.content.splice m.start m.stop m.replacement = m.replacement := by
      rw [hstart, hstop]
      exact (Text.splice_natCast _ 0 _ _).trans (by simp)
    rw [hwhole] at hrun
    exact .replaced hsame hrun
  · have hother : Text.strip (Text.slice p.content m.start m.stop) ≠ m.target.strip := hslice.symm ▸ hsame
    cases hfirst : root.walk.find? (fun n => (n.text p.content).strip == m.target.strip) with
    | some n =>
        have hfinds : p.Finds (.whole root) m n.start n.stop := .node hother rfl hfirst
        obtain ⟨q', hparse, -⟩ :=
          parse_faultless hq (p.language.getD "") (p.content.splice n.start n.stop m.replacement)
        refine .astray hsame hfirst ?_ (apply_of_finds (.held htree) hfinds rfl hparse)
        rintro ⟨hn, hn'⟩
        have htext := List.find?_some hfirst
        rw [beq_iff_eq, Node.text, hn, hn', slice_whole] at htext
        exact hsame htext
    | none =>
        refine .refused hsame (fun n hn => ?_) ?_
        · simpa using List.find?_eq_none.1 hfirst n hn
        · have hlocate : p.locate m = .ok none := by
            rw [locate, if_neg (by simpa using hother), findByText, htree]
            exact congrArg (fun found => Except.ok (found.map fun n : Node => ((n.start : Int), (n.stop : Int)))) hfirst
          rw [apply_of_consults (.held htree), withTree_eq htree]
          simp only [applyIn, hlocate]
          rfl

end

/-! ## One unit around another -/

section

variable {path language : String} {content : Text} {rs : List Registration} {p : Patcher} {q : Parsers}
  {outer inner : Node} {text text' : Text} {ids ids' : List String} {line line' : Int}

/-- The outer one of two registered units is the whole file.  After the inner one was
replaced, the modification of the outer one has the whole file as its span again but
remembers the text from before.  It replaces the file
only if this is the same up to white space at the ends.  Otherwise it goes astray or is
refused. -/
theorem enclosing_outdated (hlang : languageOf? path = some language) (hq : q.Faultless)
    (hrs : (fresh path language content).enterAll rs = .ok p)
    (houter : .unit outer text ids ∈ rs) (hinner : .unit inner text' ids' ∈ rs)
    (hunit : (fresh path language content).unitAt (.int line) = .ok (some outer))
    (hunit' : (fresh path language content).unitAt (.int line') = .ok (some inner))
    (hstart : outer.start < inner.start) (hstop : inner.stop < outer.stop) :
    outer = build language content ∧ p.replacementOf outer text ids ∈ p.modifications ∧
    p.replacementOf inner text' ids' ∈ p.modifications ∧
    ∃ q₀ p₁ q₁ m, Patcher.open path content q = .ok (fresh path language content) q₀ ∧
      p.apply (p.replacementOf inner text' ids') q₀ =
        .ok (.applied (content.splice inner.start inner.stop text'), p₁) q₁ ∧
      p₁.content = content.splice inner.start inner.stop text' ∧
      (∀ k : Nat, p.modifications[k]? = some (p.replacementOf outer text ids) → p₁.modifications[k]? = some m) ∧
      m = { p.replacementOf outer text ids with
        stop := outer.stop + ((inner.start + text'.length : Int) - inner.stop) } ∧
      m.target = content ∧ m.replacement = text ∧ m.start = 0 ∧ m.stop = p₁.content.length ∧
      p₁.WholeApplication (build language p₁.content) m q₁ := by
  have hmem := mem_of_enterAll hrs houter
  have hmem' := mem_of_enterAll hrs hinner
  obtain ⟨ms, rfl⟩ : ∃ ms, p = { fresh path language content with modifications := ms } :=
    ⟨p.modifications, (enterAll_extends hrs).eq⟩
  rw [unitAt_int rfl, Except.ok.injEq] at hunit hunit'
  obtain ⟨rfl, hin⟩ := codeUnit_encloses hunit hunit' hstart hstop
  have hspan := unit_span hin
  have hwhole := stop_build language content
  have hlength : ((content.splice inner.start inner.stop text').length : Int) =
      (build language content).stop + ((inner.start + text'.length : Int) - inner.stop) := by
    rw [Text.splice_natCast, hwhole]
    simp only [List.length_append, List.length_take, List.length_drop]
    omega
  obtain ⟨q₀, hq₀, hopen⟩ : ∃ q₀, q₀.Faultless ∧ Patcher.open path content q = .ok (fresh path language content) q₀ :=
    open_faultless hlang hq
  obtain ⟨q₁, hq₁, happly⟩ := apply_replacement hq₀
    (rfl : Patcher.tree { fresh path language content with modifications := ms } = _) inner text' ids'
  refine ⟨rfl, hmem, hmem', q₀, _, q₁, _, hopen, happly, rfl, fun k hk => ?_, rfl, ?_, rfl, rfl, hlength.symm, ?_⟩
  · have hgrown := Modification.afterEdit_of_encloses
      (m := (fresh path language content).replacementOf (build language content) text ids)
      (inner.start + text'.length) (Int.ofNat_lt.2 hstart) (Int.ofNat_lt.2 (Nat.lt_of_le_of_lt hspan.1 hstop))
      (Int.ofNat_le.2 hspan.1)
    exact List.getElem?_map.trans ((congrArg (Option.map _) hk).trans (congrArg some hgrown))
  · exact (congrArg (Text.slice content 0) (congrArg Int.ofNat hwhole)).trans (slice_whole content)
  · exact apply_whole hq₁ rfl rfl hlength.symm

end

def framed : Text := "\ndef f():\n    a\n    b\n\n".toList

def framedUnit (line : Int) : Node := ((build "python" framed).codeUnit? line).getD default

/-- Replacements of the whole file, which is the unit of its first line, and of the
function. -/
def framedChanges : List Registration :=
  [.unit (framedUnit 1) "x = 1\n".toList ["1"], .unit (framedUnit 2) "def f():\n    c\n    b".toList ["2"]]

theorem enclosing_outdated_framed : ∃ (p p₁ : Patcher) (q₁ : Parsers) (m : Modification),
    (fresh "a.py" "python" framed).enterAll framedChanges = .ok p ∧
    p₁.content = "\ndef f():\n    c\n    b\n\n".toList ∧ p₁.modifications[0]? = some m ∧ m.target = framed ∧
    p₁.WholeApplication (build "python" p₁.content) m q₁ := by
  obtain ⟨p, hrs, hfirst⟩ : ∃ p, (fresh "a.py" "python" framed).enterAll framedChanges = .ok p ∧
      p.modifications[0]? = some (p.replacementOf (framedUnit 1) "x = 1\n".toList ["1"]) := ⟨_, rfl, rfl⟩
  have houter : (fresh "a.py" "python" framed).unitAt (.int 1) = .ok (some (framedUnit 1)) :=
    unitAt_fresh (by decide +kernel)
  have hinner : (fresh "a.py" "python" framed).unitAt (.int 2) = .ok (some (framedUnit 2)) :=
    unitAt_fresh (by decide +kernel)
  obtain ⟨-, -, -, q₀, p₁, q₁, m, -, -, hcontent, hmoved, -, htarget, -, -, -, hcases⟩ :=
    enclosing_outdated (by decide) Parsers.faultless_sound hrs List.mem_cons_self
      (List.mem_cons_of_mem _ List.mem_cons_self) houter hinner (by decide +kernel)
      (by decide +kernel)
  refine ⟨p, p₁, q₁, m, hrs, hcontent.trans ?_, hmoved 0 hfirst, htarget, hcases⟩
  decide +kernel

/-- The results of replacing the function first and then the whole file. -/
def framedRun : Reading (PatchResult × PatchResult) := do
  let p ← lift ((fresh "a.py" "python" framed).enterAll framedChanges)
  let (first, p) ← p.applyFrom 1 1
  let (second, _) ← p.applyFrom 0 1
  return (first, second)

/-- The whole file is not found any more after the function in it was replaced. -/
theorem framed_file_refused : framedRun.run' Parsers.sound =
    some (.applied "\ndef f():\n    c\n    b\n\n".toList,
      .failed "Could not find matching node for modification") := by
  decide +kernel

end Patcher

end Redline
