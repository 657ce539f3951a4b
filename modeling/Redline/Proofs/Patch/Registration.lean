import Redline.Proofs.Patch.Application

/-!
# Code units and imports that are registered together

Replacements of code units and new imports can be registered in any order.
Imports are applied before all replacements, and the imports that were
registered last are applied first.  `applyAll_registered` says what the file is
afterwards: every unit has its replacement in its place, and the imports stand
in the order of their registration where imports go.
-/

namespace Redline

open Outline Patch

/-! ## Registering -/

/-- What can be registered for a file. -/
inductive Registration where
  /-- A text in place of a node, with the suggestions it carries out. -/
  | unit (n : Node) (text : Text) (suggestions : List String)
  /-- New imports, with the suggestions they carry out. -/
  | imports (text : Text) (suggestions : List String)

namespace Registration

def node? : Registration → Option Node
  | .unit n _ _ => some n
  | .imports _ _ => none

def imports? : Registration → Option Text
  | .unit _ _ _ => none
  | .imports text _ => some text

def unitEdit? : Registration → Option Edit
  | .unit n text _ => some ⟨n.start, n.stop, text⟩
  | .imports _ _ => none

end Registration

/-- The edits that replace nodes, in the order of registration. -/
def unitEdits (rs : List Registration) : List Edit := rs.filterMap (·.unitEdit?)

/-- The edits that put new imports at a position, in the order of registration. -/
def importEdits (content : Text) (position : Nat) (rs : List Registration) : List Edit :=
  (rs.filterMap (·.imports?)).map fun text =>
    ⟨position, position, Patcher.importText content text position⟩

namespace Patcher

/-- The patcher of a file in a language before anything is registered. -/
def fresh (path language : String) (content : Text) : Patcher :=
  { path := path, language := some language, content := content,
    tree := some (.whole (build language content)) }

def enter (p : Patcher) : Registration → Except Fault Patcher
  | .unit n text suggestions => (p.register (some n) text suggestions).map (·.2)
  | .imports text suggestions => (p.registerImports text suggestions).map (·.2)

/-- Registers one thing after the other. -/
def enterAll (p : Patcher) (rs : List Registration) : Except Fault Patcher := rs.foldlM enter p

/-- What may be registered together: different code units of lines, none of them
the root, and imports that are not blank if there is something to put them
behind. -/
structure Admits (p : Patcher) (rs : List Registration) : Prop where
  unitAt_eq : ∀ n ∈ rs.filterMap (·.node?), ∃ line : Int, p.unitAt (.int line) = .ok (some n)
  /-- None of them is the root. -/
  ne_root : ∀ n ∈ rs.filterMap (·.node?), p.tree.map Tree.root ≠ some (.ok n)
  /-- No two of them are the same. -/
  nodup : (rs.filterMap (·.node?)).Nodup
  /-- The imports are not blank. -/
  not_blank : ∀ text ∈ rs.filterMap (·.imports?), Text.allBlank text = false
  /-- They do not go to the very start. -/
  point : rs.filterMap (·.imports?) = [] ∨ ∃ row position, p.insertionPoint = .ok (row, position) ∧ 0 < position

/-- Registering some things and applying them all succeeds with a text. -/
def Yields (p : Patcher) (q : Parsers) (formatter : Formatter) (rs : List Registration) (t : Text) : Prop :=
  ∃ p₁ p₂ q₁, p.enterAll rs = .ok p₁ ∧ p₁.applyAll formatter q = .ok (.applied t, p₂) q₁ ∧ p₂.content = t

section

variable {path language : String} {content : Text} {q : Parsers}

theorem open_of_parse {tree : Option Tree} {r : Parsers} (hlang : languageOf? path = some language)
    (hparse : parse language content q = .ok tree r) : Patcher.open path content q =
      .ok { path := path, language := some language, content := content, tree := tree } r := by
  have htree : Context.treeOf path content q = .ok tree r := by
    rw [Context.treeOf, hlang]
    exact recover_of_ok hparse
  rw [Patcher.open, bind_of_ok htree, hlang]
  rfl

theorem open_faultless (hlang : languageOf? path = some language) (hq : q.Faultless) :
    ∃ q₁, q₁.Faultless ∧ Patcher.open path content q = .ok (fresh path language content) q₁ := by
  obtain ⟨q₁, hparse, hq₁⟩ := parse_faultless hq language content
  exact ⟨q₁, hq₁, open_of_parse hlang hparse⟩

end

/-! ## The registered modifications -/

/-- The modifications of the nodes that are replaced. -/
def unitModification? (p : Patcher) : Registration → Option Modification
  | .unit n text suggestions => some (p.replacementOf n text suggestions)
  | .imports _ _ => none

/-- The modification that puts new imports at a row and a position. -/
def importModification (p : Patcher) (point : Nat × Nat) (text : Text) (suggestions : List String) :
    Modification :=
  { path := p.path, target := [], replacement := importText p.content text point.2,
    startLine := (point.1 : Int) + 1, endLine := (point.1 : Int) + 1,
    start := point.2, stop := point.2, suggestions := suggestions }

def importModification? (p : Patcher) (point : Nat × Nat) : Registration → Option Modification
  | .unit _ _ _ => none
  | .imports text suggestions => some (p.importModification point text suggestions)

/-- The patcher after some registrations.  Imports come before all else, the last
ones first. -/
def entered (p : Patcher) (point : Nat × Nat) (rs : List Registration) : Patcher :=
  { p with
    modifications := (rs.filterMap (p.importModification? point)).reverse ++
      (p.modifications ++ rs.filterMap p.unitModification?) }

section

variable {p : Patcher} {point : Nat × Nat} {r : Registration} {rs : List Registration}

theorem entered_cons : (p.entered point [r]).entered point rs = p.entered point (r :: rs) := by
  have hunits : (p.entered point [r]).unitModification? = p.unitModification? := rfl
  have himports : (p.entered point [r]).importModification? point = p.importModification? point := rfl
  rw [entered, hunits, himports, entered, entered]
  cases r <;> simp [List.filterMap_cons, unitModification?, importModification?]

theorem enter_eq (hpoint : p.insertionPoint = .ok point)
    (hblank : ∀ text ∈ r.imports?, Text.allBlank text = false) : p.enter r = .ok (p.entered point [r]) := by
  cases r with
  | unit n text suggestions => rfl
  | imports text suggestions =>
      have htext : text.allBlank = false := hblank text rfl
      rw [enter, registerImports, if_neg (by simp [htext]), hpoint]
      simp only [entered, List.filterMap_cons, List.filterMap_nil, importModification?, unitModification?,
        List.reverse_singleton, List.append_nil]
      rfl

theorem enterAll_eq (hpoint : p.insertionPoint = .ok point)
    (hblank : ∀ text ∈ rs.filterMap (·.imports?), Text.allBlank text = false) :
    p.enterAll rs = .ok (p.entered point rs) := by
  induction rs generalizing p with
  | nil => simp [enterAll, entered, pure, Except.pure]
  | cons r rs ih =>
      have hfirst : p.enter r = .ok (p.entered point [r]) := by
        refine enter_eq hpoint fun text htext => hblank text ?_
        exact List.mem_filterMap.2 ⟨r, List.mem_cons_self, htext⟩
      have hrest : (p.entered point [r]).enterAll rs = .ok ((p.entered point [r]).entered point rs) := by
        refine ih hpoint fun text htext => hblank text ?_
        obtain ⟨d, hd, htext⟩ := List.mem_filterMap.1 htext
        exact List.mem_filterMap.2 ⟨d, List.mem_cons_of_mem r hd, htext⟩
      rw [entered_cons] at hrest
      rw [enterAll, List.foldlM_cons, hfirst]
      exact hrest

end

theorem map_unitModification (p : Patcher) (rs : List Registration) :
    (rs.filterMap p.unitModification?).map (·.edit) = unitEdits rs := by
  rw [List.map_filterMap, unitEdits]
  refine List.filterMap_congr fun r _ => ?_
  cases r <;> rfl

theorem map_importModification (p : Patcher) (point : Nat × Nat) (rs : List Registration) :
    (rs.filterMap (p.importModification? point)).map (·.edit) = importEdits p.content point.2 rs := by
  rw [List.map_filterMap, importEdits, List.map_filterMap]
  refine List.filterMap_congr fun r _ => ?_
  cases r <;> rfl

/-! ## Where imports go -/

section

variable {kinds : List String} {k : HeaderKinds} {nodes : List Node} {n : Node}

theorem lastOf?_eq_some (h : lastOf? kinds nodes = some n) :
    ∃ front back, nodes = front ++ n :: back ∧ ∀ m ∈ back, kinds.contains m.kind = false := by
  obtain ⟨-, back, front, hsplit, hback⟩ := List.find?_eq_some_iff_append.1 h
  refine ⟨front.reverse, back.reverse, ?_, fun m hm => ?_⟩
  · rw [← List.reverse_reverse nodes, hsplit]
    simp
  · simpa using hback m (List.mem_reverse.1 hm)

theorem lastOf?_eq_none (h : lastOf? kinds nodes = none) : ∀ m ∈ nodes, kinds.contains m.kind = false := by
  intro m hm
  simpa using List.find?_eq_none.1 h m (List.mem_reverse.2 hm)

/-- The node that imports go behind is in the leading run, and no import comes behind it there. -/
theorem anchor?_eq_some (h : k.anchor? nodes = some n) :
    ∃ front back, k.leading nodes = front ++ n :: back ∧ ∀ m ∈ back, k.imports.contains m.kind = false := by
  rw [HeaderKinds.anchor?] at h
  cases himport : lastOf? k.imports (k.leading nodes) with
  | some m =>
      rw [himport, Option.orElse_some] at h
      exact lastOf?_eq_some (himport.trans h)
  | none =>
      -- There is no import in the whole run.
      rw [himport, Option.orElse_none] at h
      have hnone := lastOf?_eq_none himport
      have hmem : n ∈ k.leading nodes := by
        have hlast := List.mem_reverse.1 (List.mem_of_find?_eq_some h)
        split at hlast
        · exact List.mem_of_mem_take hlast
        · exact hlast
      obtain ⟨front, back, hsplit⟩ := List.append_of_mem hmem
      refine ⟨front, back, hsplit, fun m hm => hnone m ?_⟩
      rw [hsplit]
      exact List.mem_append_right _ (List.mem_cons_of_mem n hm)

theorem mem_of_anchor (h : k.anchor? nodes = some n) : n ∈ nodes := by
  obtain ⟨front, back, hrun, -⟩ := anchor?_eq_some h
  have hmem : n ∈ k.leading nodes := hrun ▸ List.mem_append_right front List.mem_cons_self
  exact (List.takeWhile_sublist _).subset hmem

end

/-- Imports go to the very start or behind one of the top nodes. -/
theorem insertionAmong_stop {language : String} {nodes : List Node}
    (h : 0 < (insertionAmong language nodes).2) : ∃ n ∈ nodes, n.stop = (insertionAmong language nodes).2 := by
  unfold insertionAmong at h ⊢
  split at h
  next n hn =>
    obtain ⟨k, -, hk⟩ := Option.bind_eq_some_iff.1 hn
    exact ⟨n, mem_of_anchor hk, rfl⟩
  next => exact absurd h (Nat.lt_irrefl 0)

/-! ## Units and imports lie apart -/

section

variable {path language : String} {content : Text} {rs : List Registration}

/-- The nodes that are replaced are units of the text. -/
theorem Admits.mem_units (h : (fresh path language content).Admits rs) {n : Node}
    (hn : n ∈ rs.filterMap (·.node?)) : n ∈ units language content := by
  obtain ⟨line, hline⟩ := h.unitAt_eq n hn
  rw [unitAt_int rfl, Except.ok.injEq] at hline
  rcases codeUnit?_mem_units hline with rfl | hmem
  · exact absurd rfl (h.ne_root _ hn)
  · exact hmem

/-- The edit of a replacement has the span of a unit. -/
theorem Admits.mem_unitEdits (h : (fresh path language content).Admits rs) {e : Edit} (he : e ∈ unitEdits rs) :
    ∃ n ∈ units language content, e.start = n.start ∧ e.stop = n.stop := by
  obtain ⟨r, hr, he⟩ := List.mem_filterMap.1 he
  cases r with
  | unit n text suggestions =>
      cases he
      exact ⟨n, h.mem_units (List.mem_filterMap.2 ⟨_, hr, rfl⟩), rfl, rfl⟩
  | imports text suggestions => cases he

theorem Admits.unitEdits_pairwise (h : (fresh path language content).Admits rs) :
    (unitEdits rs).Pairwise fun d e => d.stop < e.start ∨ e.stop < d.start := by
  have hnodup := h.nodup
  rw [List.Nodup, List.pairwise_filterMap] at hnodup
  rw [unitEdits, List.pairwise_filterMap]
  refine hnodup.imp_of_mem fun {a b} ha hb hne d hd e he => ?_
  cases a with
  | imports text suggestions => cases hd
  | unit n text suggestions =>
      cases b with
      | imports text suggestions => cases he
      | unit m text suggestions =>
          cases hd
          cases he
          have hn := h.mem_units (List.mem_filterMap.2 ⟨_, ha, rfl⟩)
          have hm := h.mem_units (List.mem_filterMap.2 ⟨_, hb, rfl⟩)
          exact (units_apart hn hm).resolve_left (hne n rfl m rfl)

theorem Admits.unitEdits_starts (h : (fresh path language content).Admits rs) :
    ((unitEdits rs).map (·.start)).Nodup := by
  rw [List.Nodup, List.pairwise_map]
  refine h.unitEdits_pairwise.imp_of_mem fun {d e} hd he hapart heq => ?_
  obtain ⟨n, hn, hstart, hstop⟩ := h.mem_unitEdits hd
  obtain ⟨m, hm, hstart', hstop'⟩ := h.mem_unitEdits he
  have hspan := unit_span hn
  have hspan' := unit_span hm
  omega

/-- The row and the position where the imports of a text go. -/
def importPoint (language : String) (content : Text) : Nat × Nat :=
  insertionAmong language (build language content).children

theorem insertionPoint_fresh :
    (fresh path language content).insertionPoint = .ok (importPoint language content) := rfl

/-- If there are new imports, they go to the end of a top node. -/
theorem Admits.importEdits_stop (h : (fresh path language content).Admits rs) {e : Edit}
    (he : e ∈ importEdits content (importPoint language content).2 rs) :
    ∃ c ∈ (build language content).children, e.start = c.stop ∧ e.stop = c.stop := by
  have hpos : 0 < (importPoint language content).2 := by
    rcases h.point with hnone | ⟨row, position, hpoint, hpos⟩
    · rw [importEdits, hnone] at he
      cases he
    · rw [insertionPoint_fresh, Except.ok.injEq] at hpoint
      rw [hpoint]
      exact hpos
  obtain ⟨c, hc, hstop⟩ := insertionAmong_stop hpos
  obtain ⟨text, -, rfl⟩ := List.mem_map.1 he
  exact ⟨c, hc, hstop.symm, hstop.symm⟩

/-- All edits can be made in the original text. -/
theorem Admits.pending (h : (fresh path language content).Admits rs) {e : Edit}
    (he : e ∈ (importEdits content (importPoint language content).2 rs).reverse ++ unitEdits rs) :
    e.Pending content [] := by
  have hspan : e.start ≤ e.stop ∧ e.stop ≤ content.length := by
    rcases List.mem_append.1 he with he | he
    · obtain ⟨c, hc, hstart, hstop⟩ := h.importEdits_stop (List.mem_reverse.1 he)
      obtain ⟨s, hs, rfl⟩ := List.mem_map.1 hc
      have hle := node_stop_le_length (g := Grammar.ofLanguage language) hs
      omega
    · obtain ⟨n, hn, hstart, hstop⟩ := h.mem_unitEdits he
      have hle := unit_span hn
      omega
  exact ⟨hspan.1, hspan.2, fun d hd => absurd hd List.not_mem_nil⟩

/-- All edits lie apart from those that are made before them. -/
theorem Admits.apart (h : (fresh path language content).Admits rs) :
    ((importEdits content (importPoint language content).2 rs).reverse ++ unitEdits rs).Pairwise
      fun d e => e.Apart d := by
  refine List.pairwise_append.2 ⟨?_, ?_, ?_⟩
  · rw [List.pairwise_reverse, importEdits, List.pairwise_map]
    exact List.pairwise_of_forall fun _ _ => Or.inr (Or.inr ⟨rfl, rfl⟩)
  · exact h.unitEdits_pairwise.imp fun hde => Or.imp_right Or.inl hde.symm
  · intro d hd e he
    obtain ⟨c, hc, hstart, hstop⟩ := h.importEdits_stop (List.mem_reverse.1 hd)
    obtain ⟨n, hn, hstart', hstop'⟩ := h.mem_unitEdits he
    have hapart := unit_apart_of_stop hn hc
    unfold Edit.Apart
    omega

/-- What is registered fits the original text. -/
theorem Admits.fits {m : Modification} {point : Nat × Nat}
    (hm : m ∈ ((fresh path language content).entered point rs).modifications) : m.Fits content := by
  rcases List.mem_append.1 hm with hm | hm
  · obtain ⟨r, -, hr⟩ := List.mem_filterMap.1 (List.mem_reverse.1 hm)
    cases r with
    | unit n text suggestions => cases hr
    | imports text suggestions =>
        cases hr
        refine ⟨Int.natCast_nonneg _, Int.natCast_nonneg _, ?_⟩
        simp [importModification, Text.slice, Text.before]
  · obtain ⟨r, -, hr⟩ := List.mem_filterMap.1 hm
    cases r with
    | unit n text suggestions =>
        cases hr
        exact ⟨Int.natCast_nonneg _, Int.natCast_nonneg _, rfl⟩
    | imports text suggestions => cases hr

/-- Registering and applying makes all edits at once. -/
theorem Admits.yields (h : (fresh path language content).Admits rs) {q : Parsers} {formatter : Formatter}
    (hq : q.Faultless) (hf : Formatter.Silent formatter) :
    (fresh path language content).Yields q formatter rs
      (substitute content (unitEdits rs ++ importEdits content (importPoint language content).2 rs)) := by
  let p₁ := (fresh path language content).entered (importPoint language content) rs
  have henter : (fresh path language content).enterAll rs = .ok p₁ := enterAll_eq insertionPoint_fresh h.not_blank
  have hedits : p₁.modifications.map (·.edit) =
      (importEdits content (importPoint language content).2 rs).reverse ++ unitEdits rs := by
    simp only [p₁, entered, List.map_append, List.map_reverse, map_importModification, map_unitModification]
    rfl
  have hfits : ∀ m ∈ p₁.modifications, m.Fits content ∧ m.edit.Pending content [] := fun m hm =>
    ⟨fits hm, h.pending (hedits ▸ List.mem_map_of_mem hm)⟩
  have hapart : (p₁.modifications.map (·.edit)).Pairwise fun d e => e.Apart d := hedits ▸ h.apart
  obtain ⟨p₂, q₂, hrun, hcontent⟩ := applyAll_eq hq hf rfl hfits (List.pairwise_map.1 hapart)
  rw [hedits, List.reverse_append, List.reverse_reverse] at hcontent
  have hperm : p₂.content =
      substitute content (unitEdits rs ++ importEdits content (importPoint language content).2 rs) :=
    hcontent.trans (substitute_perm (unitEdits rs).reverse_perm.symm h.unitEdits_starts _).symm
  exact ⟨p₁, p₂, q₂, henter, hperm ▸ hrun, hperm⟩

/-- The order of registration does not matter for what may be registered. -/
theorem Admits.perm {rs' : List Registration} (h : (fresh path language content).Admits rs)
    (hperm : rs'.Perm rs) : (fresh path language content).Admits rs' := by
  have hnodes : (rs'.filterMap (·.node?)).Perm (rs.filterMap (·.node?)) := hperm.filterMap _
  have himports : (rs'.filterMap (·.imports?)).Perm (rs.filterMap (·.imports?)) := hperm.filterMap _
  refine ⟨fun n hn => h.unitAt_eq n (hnodes.subset hn), fun n hn => h.ne_root n (hnodes.subset hn),
    hnodes.nodup_iff.2 h.nodup, fun text ht => h.not_blank text (himports.subset ht), ?_⟩
  rcases h.point with hnone | hpoint
  · rw [hnone] at himports
    exact Or.inl himports.eq_nil
  · exact Or.inr hpoint

/-- However code units and imports are registered, applying them puts every unit's
text in its place and the imports, in their order, where imports go.  In which
order the units were registered makes no difference. -/
theorem applyAll_registered {q : Parsers} {formatter : Formatter} (hlang : languageOf? path = some language)
    (hq : q.Faultless) (hf : Formatter.Silent formatter) (hrs : (fresh path language content).Admits rs) :
    ∃ q₁ row position, Patcher.open path content q = .ok (fresh path language content) q₁ ∧
      (fresh path language content).insertionPoint = .ok (row, position) ∧
      (fresh path language content).Yields q₁ formatter rs
        (substitute content (unitEdits rs ++ importEdits content position rs)) ∧
      ∀ rs', rs'.Perm rs → rs'.filterMap (·.imports?) = rs.filterMap (·.imports?) →
        (fresh path language content).Yields q₁ formatter rs'
          (substitute content (unitEdits rs ++ importEdits content position rs)) := by
  obtain ⟨q₁, hq₁, hopen⟩ : ∃ q₁, q₁.Faultless ∧
    Patcher.open path content q = .ok (fresh path language content) q₁ := open_faultless hlang hq
  refine ⟨q₁, (importPoint language content).1, (importPoint language content).2, hopen,
    insertionPoint_fresh, hrs.yields hq₁ hf, fun rs' hperm himports => ?_⟩
  have hunits : (unitEdits rs).Perm (unitEdits rs') := hperm.symm.filterMap _
  have hedits : importEdits content (importPoint language content).2 rs' =
      importEdits content (importPoint language content).2 rs := by
    rw [importEdits, himports, importEdits]
  rw [substitute_perm hunits hrs.unitEdits_starts, ← hedits]
  exact (hrs.perm hperm).yields hq₁ hf

end

theorem unitAt_fresh {path language : String} {content : Text} {line : Int}
    (h : ((build language content).codeUnit? line).isSome = true) :
    (fresh path language content).unitAt (.int line) =
      .ok (some (((build language content).codeUnit? line).getD default)) := by
  obtain ⟨n, hn⟩ := Option.isSome_iff_exists.1 h
  rw [unitAt_int rfl, hn, Option.getD_some]

def greeting : Text := "import os\n\ndef f():\n    a\n    b\n".toList

def greetingUnit (line : Int) : Node := ((build "python" greeting).codeUnit? line).getD default

/-- New imports before and after the replacements of the function and of the
import. -/
def greetingChanges : List Registration :=
  [.imports "import re".toList ["1"], .unit (greetingUnit 4) "def f(): b".toList ["2"],
   .unit (greetingUnit 1) "import os, io".toList ["3"], .imports "import sys".toList ["4"]]

theorem admits_greetingChanges : (fresh "a.py" "python" greeting).Admits greetingChanges := by
  have hnodes : greetingChanges.filterMap (·.node?) = [greetingUnit 4, greetingUnit 1] := by
    simp only [greetingChanges, List.filterMap_cons, Registration.node?, List.filterMap_nil]
  have hroot : ∀ line : Int, (greetingUnit line).kind ≠ rootKind →
      (fresh "a.py" "python" greeting).tree.map Tree.root ≠ some (.ok (greetingUnit line)) := by
    intro line hkind heq
    rw [fresh, Option.map_some, Option.some.injEq, Tree.whole, Except.ok.injEq] at heq
    exact hkind (heq ▸ rfl)
  have hpoint : (fresh "a.py" "python" greeting).insertionPoint = .ok (0, 9) := by rfl
  refine ⟨?_, ?_, ?_, by decide +kernel, Or.inr ⟨0, 9, hpoint, by decide⟩⟩ <;> rw [hnodes]
  · intro n hn
    rcases List.mem_pair.1 hn with h | h <;> rw [h]
    · exact ⟨4, unitAt_fresh (by decide +kernel)⟩
    · exact ⟨1, unitAt_fresh (by decide +kernel)⟩
  · intro n hn
    rcases List.mem_pair.1 hn with h | h <;> rw [h]
    · exact hroot 4 (by decide +kernel)
    · exact hroot 1 (by decide +kernel)
  · refine List.nodup_cons.2 ⟨fun hmem => ?_, List.nodup_singleton _⟩
    have hstart := congrArg Node.start (List.mem_singleton.1 hmem)
    exact absurd hstart (by decide +kernel)

theorem applyAll_greeting : (fresh "a.py" "python" greeting).Admits greetingChanges ∧
    ∃ q₁, (fresh "a.py" "python" greeting).Yields q₁ Formatter.absent greetingChanges
      "import os, io\nimport re\n\nimport sys\n\n\ndef f(): b\n".toList := by
  obtain ⟨q₁, row, position, -, hpoint, hyields, -⟩ := @applyAll_registered "a.py" "python" greeting
    greetingChanges _ Formatter.absent (by decide) Parsers.faultless_sound (fun _ _ _ _ h => by cases h)
    admits_greetingChanges
  have hpos : (fresh "a.py" "python" greeting).insertionPoint = .ok (0, 9) := by rfl
  rw [hpos, Except.ok.injEq, Prod.mk.injEq] at hpoint
  have heq : substitute greeting (unitEdits greetingChanges ++ importEdits greeting 9 greetingChanges) =
    "import os, io\nimport re\n\nimport sys\n\n\ndef f(): b\n".toList := by decide +kernel
  rw [← hpoint.2, heq] at hyields
  exact ⟨admits_greetingChanges, q₁, hyields⟩

end Patcher

end Redline
