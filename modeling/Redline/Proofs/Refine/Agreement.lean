import Redline.Proofs.Grouping
import Redline.Proofs.Patch.Application
import Redline.Proofs.Refine.Steps

/-!
# What the refiner is shown is what its answer replaces

Three searches have to find the same code unit for a group of comments: the one
that makes the groups, the one that cuts out the excerpt for the prompt, and the
one that registers the answer.  If the parsers are steady they all look at one
outline.  A group whose answer is registered has a unit at its first line.  The
excerpt shows that unit, all lines of the group lie in it, and no other group has
a unit with its span.
-/

namespace Redline

open Outline Outline.Parsers

/-- An outline that the parsers give is the one of the text. -/
theorem Outline.Parsers.outlineOf_eq_some {q : Parsers} {path : String} {content : Text} {root : Node}
    (h : q.outlineOf path content = some root) : ∃ language, root = build language content := by
  unfold outlineOf at h
  obtain ⟨language, -, houtline⟩ := Option.bind_eq_some_iff.1 h
  refine ⟨language, ?_⟩
  unfold outline? at houtline
  split at houtline
  next =>
    cases houtline
    rfl
  next => cases houtline

namespace Comment

variable {path : String} {content : Text} {language : String} {n : Node} {c d : Comment}

/-- A comment on a line with a code unit is shown that unit. -/
theorem excerptOf_unit {line : Int} (h : (build language content).codeUnit? line = some n) :
    Context.excerptOf path content (some (build language content)) line =
      some (Context.ofNode path content n) := by
  simp only [Context.excerptOf, Option.bind_some, h]

theorem linesIn_unit (h : (build language content).codeUnit? c.lineNumber = some n) :
    c.linesIn path content (some (build language content)) =
      some ((n.first.row : Int) + 1, (n.last.row : Int) + 1) := by
  rw [linesIn, excerptOf_unit h]
  rfl

/-- Of comments that are shown the same lines, those behind one with a code unit
are in that unit. -/
theorem mem_unit_of_linesIn (hunit : (build language content).codeUnit? c.lineNumber = some n)
    (hsame : c.linesIn path content (some (build language content)) =
      d.linesIn path content (some (build language content))) (hle : c.lineNumber ≤ d.lineNumber) :
    (n.first.row : Int) + 1 ≤ d.lineNumber ∧ d.lineNumber ≤ (n.last.row : Int) + 1 := by
  rw [linesIn_unit hunit] at hsame
  cases hd : (build language content).codeUnit? d.lineNumber with
  | some m =>
      rw [linesIn_unit hd, Option.some.injEq, Prod.mk.injEq] at hsame
      have hcovers := codeUnit?_covers hd
      omega
  | none =>
      -- the line would be behind the text, and its window would end behind the unit
      have hfirst := codeUnit?_covers hunit
      have hlast := last_row_codeUnit hunit
      obtain ⟨e, he, hlines⟩ := Option.map_eq_some_iff.1 hsame.symm
      rw [Context.excerptOf, Option.bind_some, hd] at he
      have hend := (Context.windowOf_holds he).2
      rw [Prod.mk.injEq] at hlines
      rcases codeUnit?_eq_none hd with hout | hout
      · omega
      · omega

end Comment

/-! ## One outline for all -/

namespace Refine

open Session

/-- A draft of a file that has the text and the outline of the file, in a world
with the same parsers. -/
structure Holds (q : Parsers) (path : String) (content : Text) (d : Draft) (w : World) : Prop where
  content_eq : d.patcher.content = content
  /-- The tree is the outline that the parsers give. -/
  tree_eq : d.patcher.tree = (q.outlineOf path content).map .whole
  later : q.Later w.parsers

/-- The refiner is shown a text: it is the excerpt at the first line of the group,
and the prompt that is sent holds it. -/
def GroupStep.Shows (s : GroupStep) (path : String) (content code : Text) : Prop :=
  ∃ first e w₁ suggestions, s.group.head? = some first ∧
    reading (Context.extract path content first.line) s.start = .ok (some e) w₁ ∧ e.code = code ∧
    (s.group.map Request.ofComment).mapM (·.suggestion (.str path)) = .ok suggestions ∧
    s.final.refiner.asked = s.start.refiner.asked ++ [changePrompt code suggestions]

/-- A modification replaces the code unit of the first line of a group. -/
structure GroupStep.ReplacesUnit (s : GroupStep) (path : String) (content : Text) (language : String)
    (m : Modification) (first : Comment) (n : Node) : Prop where
  head_eq : s.group.head? = some first
  unit_eq : (build language content).codeUnit? first.lineNumber = some n
  target_eq : m.target = n.text content
  lines_eq : m.startLine = (n.first.row : Int) + 1 ∧ m.endLine = (n.last.row : Int) + 1
  span_eq : m.start = n.start ∧ m.stop = n.stop
  shows : s.Shows path content (n.text content)

section

variable {q : Parsers} {path : String} {content : Text} {d d' : Draft} {w w' : World}

/-- The code unit that a draft has at a line is that of the outline. -/
theorem Holds.unitAt_eq_some (h : Holds q path content d w) {line : Int} {n : Node}
    (hunit : d.patcher.unitAt (.int line) = .ok (some n)) :
    ∃ language, q.outlineOf path content = some (build language content) ∧
      (build language content).codeUnit? line = some n := by
  have htree := h.tree_eq
  cases hroot : q.outlineOf path content with
  | none =>
      rw [hroot] at htree
      rw [Patcher.unitAt, Patcher.placeAt, htree] at hunit
      cases hunit
  | some root =>
      obtain ⟨language, rfl⟩ := outlineOf_eq_some hroot
      rw [hroot] at htree
      rw [Patcher.unitAt_int htree, Except.ok.injEq] at hunit
      exact ⟨language, rfl, hunit⟩

theorem extract_reading (hq : q.Steady) (hw : q.Later w.parsers) {c : Comment} (hc : c.line = .int c.lineNumber)
    {excerpt : Option Excerpt} {w₁ : World}
    (h : reading (Context.extract path content c.line) w = .ok excerpt w₁) :
    excerpt = Context.excerptOf path content (q.outlineOf path content) c.lineNumber ∧
      ∃ r, q.Later r ∧ w₁ = { w with parsers := r } := by
  obtain ⟨r, hextract, hr⟩ := Context.extract_steady hq hw path content c.lineNumber
  obtain ⟨r', hrun, rfl⟩ := reading_eq_ok.1 h
  rw [hc, hextract] at hrun
  cases hrun
  exact ⟨rfl, r, hr, rfl⟩

/-- A step keeps the text, the outline and the parsers. -/
theorem Holds.refineGroup (hq : q.Steady) {g : List Comment} (hg : Comment.Numbered g)
    (h : Holds q path content d w) (hrun : refineGroup path content d g w = .ok d' w') :
    Holds q path content d' w' := by
  cases g with
  | nil =>
      cases hrun
      exact h
  | cons c cs =>
      obtain ⟨excerpt, w₁, hextract, hcases⟩ := refineGroup_cases hrun
      obtain ⟨-, r, hr, rfl⟩ := extract_reading hq h.later (hg c List.mem_cons_self) hextract
      rcases hcases with ⟨rfl, rfl | ⟨prompt, rfl⟩⟩ | ⟨e, answer, r, -, ⟨suggestions, -, -, rfl⟩, -, hregister, -⟩
      · exact ⟨h.content_eq, h.tree_eq, hr⟩
      · exact ⟨h.content_eq, h.tree_eq, hr⟩
      · rcases register_cases hregister with ⟨-, hp⟩ | ⟨unit, imports, -, -, hp⟩
        · exact ⟨hp ▸ h.content_eq, hp ▸ h.tree_eq, hr⟩
        · exact ⟨hp ▸ h.content_eq, hp ▸ h.tree_eq, hr⟩

/-- A step that registers a modification does so for the code unit of its first
line, and has shown that unit to the refiner. -/
theorem Holds.registers (hq : q.Steady) {s : GroupStep} (hs : Comment.Numbered s.group)
    (h : Holds q path content s.before s.start)
    (hrun : Refine.refineGroup path content s.before s.group s.start = .ok s.after s.final)
    {m : Modification} (hm : s.Registers m) :
    ∃ language first n, q.outlineOf path content = some (build language content) ∧
      s.ReplacesUnit path content language m first n := by
  have hnew := hm.ne
  obtain ⟨imports, hm⟩ := hm
  cases hgroup : s.group with
  | nil =>
      rw [hgroup] at hrun
      injection hrun with hdraft
      exact absurd (congrArg (fun d => d.patcher.modifications) hdraft.symm) hnew
  | cons c cs =>
      have hc : c.line = .int c.lineNumber := hs c (hgroup ▸ List.mem_cons_self)
      rw [hgroup] at hrun
      obtain ⟨excerpt, w₁, hextract, hcases⟩ := refineGroup_cases hrun
      obtain ⟨hexcerpt, r, -, rfl⟩ := extract_reading hq h.later hc hextract
      rcases hcases with ⟨hdraft, -⟩ | ⟨e, answer, r, rfl, ⟨suggestions, hs, -, hfinal⟩, -, hregister, -⟩
      · exact absurd (congrArg (fun d => d.patcher.modifications) hdraft) hnew
      rcases register_cases hregister with ⟨-, hp⟩ | ⟨unit, imports', hunit, -, hp⟩
      · exact absurd (congrArg Patcher.modifications hp) hnew
      obtain ⟨language, hroot, hunit⟩ := h.unitAt_eq_some (hc ▸ hunit)
      rw [hroot, Comment.excerptOf_unit hunit, Option.some.injEq] at hexcerpt
      subst hexcerpt
      have hlast : m = s.before.patcher.replacementOf unit r.code ((c :: cs).map (·.id.displayed)) := by
        have heq := congrArg List.getLast? (hm.symm.trans (congrArg Patcher.modifications hp))
        simpa using heq
      refine ⟨language, c, unit, hroot, congrArg List.head? hgroup, hunit, ?_, ?_, ?_, ?_⟩
      · rw [hlast, Patcher.replacementOf, Patcher.textOf, h.content_eq]
      · rw [hlast]
        exact ⟨rfl, rfl⟩
      · rw [hlast]
        exact ⟨rfl, rfl⟩
      · refine ⟨c, _, _, suggestions, congrArg List.head? hgroup, hextract, rfl, hgroup ▸ hs, ?_⟩
        rw [hfinal]
        rfl

/-- A file is opened with the outline that the parsers give. -/
theorem open_holds (path : String) (content : Text) (hq : q.Steady) (hw : q.Later w.parsers) :
    ∃ p w₁, reading (Patcher.open path content) w = .ok p w₁ ∧ Holds q path content { patcher := p } w₁ := by
  obtain ⟨r, htree, hr⟩ := treeOf_steady hq hw path content
  let p : Patcher :=
    { path := path, language := languageOf? path, content := content,
      tree := (q.outlineOf path content).map .whole }
  have hopen : Patcher.open path content w.parsers = .ok p r := by
    rw [Patcher.open, bind_of_ok htree, pure_apply]
  exact ⟨p, { w with parsers := r }, reading_of_ok hopen, rfl, rfl, hr⟩

/-- The steps of a text are those of groups that one excerpt shows each. -/
theorem textSteps_eq (path : String) (content : Text) (hq : q.Steady) (hw : q.Later w.parsers)
    {comments : List Comment} (hcs : Comment.Numbered comments) :
    ∃ groups d w₁, textSteps path content comments w = groupSteps path content groups d w₁ ∧
      Holds q path content d w₁ ∧
      (∀ g ∈ groups, Comment.UnitGroup path content (q.outlineOf path content) comments g) ∧
      groups.Pairwise fun g g' => ∀ c ∈ g, ∀ c' ∈ g',
        c.linesIn path content (q.outlineOf path content) ≠ c'.linesIn path content (q.outlineOf path content) := by
  obtain ⟨p, w₁, hopen, hholds⟩ := open_holds path content hq hw
  obtain ⟨groups, r, hgroups, hr, hunit, hpair⟩ := Comment.byUnit_steady path content hq hholds.later hcs
  refine ⟨groups, { patcher := p }, { w₁ with parsers := r }, ?_,
    ⟨hholds.content_eq, hholds.tree_eq, hr⟩, hunit, hpair⟩
  have hprepare : prepare path content comments w = .ok (p, groups) { w₁ with parsers := r } := by
    rw [prepare, bind_of_ok hopen, bind_of_ok (reading_of_ok hgroups), pure_apply]
  rw [textSteps, hprepare, stepsAfter]

/-- A step that registers a modification of a text is a step of one of the groups. -/
theorem registers_of_mem (hq : q.Steady) {groups : List (List Comment)} {comments : List Comment}
    (hcs : Comment.Numbered comments) (h : Holds q path content d w)
    (hgroups : ∀ g ∈ groups, Comment.UnitGroup path content (q.outlineOf path content) comments g)
    {s : GroupStep} (hs : s ∈ groupSteps path content groups d w) {m : Modification} (hm : s.Registers m) :
    s.group ∈ groups ∧ ∃ language first n, q.outlineOf path content = some (build language content) ∧
      s.ReplacesUnit path content language m first n := by
  have hnumbered : ∀ g ∈ groups, Comment.Numbered g := fun g hg c hc => hcs c ((hgroups g hg).mem c hc)
  obtain ⟨hmem, hholds, hrun⟩ := groupSteps_invariant
    (fun g hg _ _ _ _ hd hstep => hd.refineGroup hq (hnumbered g hg) hstep) h hs
  exact ⟨hmem, hholds.registers hq (hnumbered _ hmem) hrun hm⟩

end

/-- What the refiner is shown for a group is the text that its answer replaces, all
comments of the group are on lines of that text, and no two groups replace the
same span. -/
theorem registered_unit_agrees {path : String} {content : Text} {comments : List Comment} {w : World}
    (hparsers : w.parsers.Steady) (hlines : ∀ c ∈ comments, ∃ line, c.line = .int line) :
    (∀ s ∈ textSteps path content comments w, ∀ m, s.Registers m → s.Shows path content m.target ∧
      ∀ c ∈ s.group, ∃ line, c.line = .int line ∧ m.startLine ≤ line ∧ line ≤ m.endLine) ∧
    (textSteps path content comments w).Pairwise fun s s' =>
      ∀ m m', s.Registers m → s'.Registers m' → ¬(m.start = m'.start ∧ m.stop = m'.stop) := by
  have hcs : Comment.Numbered comments := by
    intro c hc
    obtain ⟨line, hline⟩ := hlines c hc
    rw [Comment.lineNumber, hline]
    rfl
  obtain ⟨groups, d, w₁, hsteps, hholds, hunits, hpair⟩ := textSteps_eq path content hparsers (Later.refl _) hcs
  rw [hsteps]
  constructor
  · intro s hs m hm
    obtain ⟨hmem, language, first, n, hroot, hunit⟩ := registers_of_mem hparsers hcs hholds hunits hs hm
    refine ⟨hunit.target_eq ▸ hunit.shows, fun c hc => ⟨c.lineNumber, hcs c ((hunits _ hmem).mem c hc), ?_⟩⟩
    rw [hunit.lines_eq.1, hunit.lines_eq.2]
    have hgroup := hunits _ hmem
    rw [hroot] at hgroup
    have hfirst : first ∈ s.group := List.mem_of_head? hunit.head_eq
    exact Comment.mem_unit_of_linesIn hunit.unit_eq (hgroup.same first hfirst c hc)
      (hgroup.first_le hunit.head_eq c hc)
  · have hsub := hpair.sublist (groupSteps_groups path content groups d w₁)
    rw [List.pairwise_map] at hsub
    refine hsub.imp_of_mem fun {s s'} hs hs' hne m m' hm hm' hspan => ?_
    obtain ⟨-, language, first, n, hroot, hunit⟩ := registers_of_mem hparsers hcs hholds hunits hs hm
    obtain ⟨-, language', first', n', hroot', hunit'⟩ := registers_of_mem hparsers hcs hholds hunits hs' hm'
    refine hne first (List.mem_of_head? hunit.head_eq) first' (List.mem_of_head? hunit'.head_eq) ?_
    -- equal spans have equal rows, so the two groups would be shown the same lines
    have hstart : n.start = n'.start := Int.ofNat.inj (hunit.span_eq.1.symm.trans (hspan.1.trans hunit'.span_eq.1))
    have hstop : n.stop = n'.stop := Int.ofNat.inj (hunit.span_eq.2.symm.trans (hspan.2.trans hunit'.span_eq.2))
    have hrows := rowAt_codeUnit hunit.unit_eq
    have hrows' := rowAt_codeUnit hunit'.unit_eq
    rw [hstart, hstop] at hrows
    rw [hroot, Comment.linesIn_unit hunit.unit_eq, ← hroot, hroot', Comment.linesIn_unit hunit'.unit_eq,
      ← hrows.1, ← hrows.2, hrows'.1, hrows'.2]

def twoFunctions : Text := "def f():\n    a\n    b\n\ndef g():\n    c\n    d\n".toList

/-- A comment on each function, and one behind the end of the file. -/
def twoRemarks : List Comment :=
  [{ id := .int 1, path := .str "a.py", line := .int 3, body := .str "x" },
   { id := .int 2, path := .str "a.py", line := .int 99, body := .str "y" },
   { id := .int 3, path := .str "a.py", line := .int 6, body := .str "z" }]

/-- A world whose refiner always gives the same code. -/
def stubbornWorld : World where
  forge := {}
  reviewer := Advisor.constant (.ok none)
  refiner := Advisor.constant (.ok (.refinement
    { name := "h", path := "a.py", startLine := 1, endLine := 1, code := "def h(): e".toList }))
  parsers := Parsers.sound
  formatter := Formatter.absent

def firstChange : Modification :=
  { path := "a.py", target := "def f():\n    a\n    b".toList, replacement := "def h(): e".toList,
    startLine := 1, endLine := 3, start := 0, stop := 20, suggestions := ["1"] }

def secondChange : Modification :=
  { path := "a.py", target := "def g():\n    c\n    d".toList, replacement := "def h(): e".toList,
    startLine := 5, endLine := 7, start := 22, stop := 42, suggestions := ["3"] }

theorem registered_unit_agrees_twice : ∃ s₁ s₂ s₃,
    textSteps "a.py" twoFunctions twoRemarks stubbornWorld = [s₁, s₂, s₃] ∧
    s₁.Registers firstChange ∧ s₃.Registers secondChange ∧
    s₁.Shows "a.py" twoFunctions firstChange.target ∧ s₃.Shows "a.py" twoFunctions secondChange.target ∧
    ¬(firstChange.start = secondChange.start ∧ firstChange.stop = secondChange.stop) := by
  have hsteps : (textSteps "a.py" twoFunctions twoRemarks stubbornWorld).map (fun s =>
      (s.before.patcher.modifications, s.after.patcher.modifications)) =
      [([], [firstChange]), ([firstChange], [firstChange]), ([firstChange], [firstChange, secondChange])] := by
    decide +kernel
  have hparsers : stubbornWorld.parsers.Steady :=
    ⟨fun _ _ => rfl, fun _ _ _ => rfl, fun _ _ _ h => by cases h; rfl⟩
  have hlines : ∀ c ∈ twoRemarks, ∃ line, c.line = .int line := by
    simp [twoRemarks]
  obtain ⟨hshows, hpair⟩ := @registered_unit_agrees "a.py" twoFunctions twoRemarks stubbornWorld
    hparsers hlines
  obtain ⟨s₁, t₁, heq₁, h₁, hsteps⟩ := List.map_eq_cons_iff.1 hsteps
  obtain ⟨s₂, t₂, rfl, h₂, hsteps⟩ := List.map_eq_cons_iff.1 hsteps
  obtain ⟨s₃, t₃, rfl, h₃, hsteps⟩ := List.map_eq_cons_iff.1 hsteps
  rw [List.map_eq_nil_iff] at hsteps
  subst hsteps
  rw [Prod.mk.injEq] at h₁ h₃
  have hfirst : s₁.Registers firstChange := ⟨[], by rw [h₁.1, h₁.2]; rfl⟩
  have hsecond : s₃.Registers secondChange := ⟨[], by rw [h₃.1, h₃.2]; rfl⟩
  rw [heq₁] at hshows hpair
  refine ⟨s₁, s₂, s₃, heq₁, hfirst, hsecond, (hshows s₁ (by simp) _ hfirst).1,
    (hshows s₃ (by simp) _ hsecond).1, ?_⟩
  exact (List.pairwise_cons.1 hpair).1 s₃ (by simp) _ _ hfirst hsecond

end Refine

end Redline
