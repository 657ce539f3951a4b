import Mathlib.Data.List.Pairwise
import Redline.Proofs.Forge.Writes
import Redline.Proofs.Patch.Validation
import Redline.Proofs.Refine.Account
import Redline.Proofs.Refine.Completion

/-!
# Files for which nothing is registered

A group of comments registers nothing if there is no excerpt for it, if the refiner gives
no code or if no code unit is found.  When that happens to all groups of a file there is
nothing to apply, and to apply nothing is a success.  So the file is processed like any
other: it is rewritten if something was registered, and otherwise its text is kept and
committed as it is (`committed_or_kept`).
-/

namespace Redline

namespace Patcher

open Outline

variable {p p' : Patcher} {q q' : Parsers}

/-- Modifications that can be applied one after the other are applied. -/
theorem AppliesFrom.run {index count : Nat} (h : AppliesFrom index p q p' q')
    (hcount : index + count = p.modifications.length) :
    p.applyFrom index count q = .ok (.applied p'.content, p') q' := by
  induction h generalizing count with
  | none hlength =>
      obtain rfl : count = 0 := by omega
      rfl
  | @next index p p₁ p' q q₁ q' m result hm happly hsuccess _ ih =>
      have hindex := (List.getElem?_eq_some_iff.1 hm).1
      obtain ⟨k, rfl⟩ : ∃ k, count = k + 1 := ⟨count - 1, by omega⟩
      have hlength := length_apply happly
      rw [applyFrom, hm]
      refine (bind_of_ok happly).trans ?_
      simp only [hsuccess, if_true]
      exact ih (by omega)

theorem applyAll_of_applies {formatter : Formatter} {applied final : Patcher} {q₁ q₂ : Parsers}
    (hsome : p.modifications ≠ []) (happlies : AppliesFrom 0 p q applied q₁)
    (hformat : applied.format formatter q₁ = .ok final q₂) :
    p.applyAll formatter q = .ok (.applied final.content, final) q₂ := by
  have hrun := happlies.run (Nat.zero_add _)
  have hne : ¬p.modifications.isEmpty = true := fun hempty => hsome (List.isEmpty_iff.1 hempty)
  unfold applyAll
  rw [if_neg hne]
  exact (bind_of_ok hrun).trans (bind_of_ok hformat)

theorem applyAll_of_nil (formatter : Formatter) (hnone : p.modifications = []) :
    p.applyAll formatter q = .ok (.applied p.content, p) q := by
  unfold applyAll
  rw [hnone]
  rfl

end Patcher

namespace Refine

open Session Patcher

/-! ## Groups that register nothing -/

section

variable {path : String} {content : Text} {d d' : Draft} {w w' : World}

/-- A group keeps the patcher as it is, or a code unit is found for it and a modification
is registered. -/
theorem refineGroup_patcher {g : List Comment} (h : refineGroup path content d g w = .ok d' w') :
    d'.patcher = d.patcher ∨ ∃ line unit imports m, d.patcher.unitAt line = .ok (some unit) ∧
      d'.patcher.modifications = imports ++ (d.patcher.modifications ++ [m]) := by
  rcases refineGroup_response h with ⟨-, hdraft⟩ | ⟨r, line, -, hregister, -⟩
  · exact Or.inl (congrArg (·.patcher) hdraft)
  · rcases register_cases hregister with ⟨-, hp⟩ | ⟨unit, imports, hunit, -, hp⟩
    · exact Or.inl hp
    · exact Or.inr ⟨line, unit, imports, _, hunit, congrArg (·.modifications) hp⟩

theorem GroupStep.patcher_eq {s : GroupStep}
    (hs : refineGroup path content s.before s.group s.start = .ok s.after s.final) (hno : ¬∃ m, s.Registers m) :
    s.after.patcher = s.before.patcher := by
  rcases refineGroup_patcher hs with hp | ⟨line, unit, imports, m, -, hm⟩
  · exact hp
  · exact absurd ⟨m, imports, hm⟩ hno

theorem GroupStep.Registers.ne_nil {s : GroupStep} {m : Modification} (h : s.Registers m) :
    s.after.patcher.modifications ≠ [] := by
  obtain ⟨imports, hm⟩ := h
  rw [hm]
  simp

/-- If no group registers anything the patcher stays as it is. -/
theorem refineGroups_patcher {gs : List (List Comment)} (h : refineGroups path content gs d w = .ok d' w')
    (hno : ∀ s ∈ groupSteps path content gs d w, ¬∃ m, s.Registers m) : d'.patcher = d.patcher := by
  induction gs generalizing d w with
  | nil =>
      cases h
      rfl
  | cons g gs ih =>
      obtain ⟨d₁, w₁, hstep, hrest, hsteps⟩ := refineGroups_cons h
      rw [hsteps, List.forall_mem_cons] at hno
      have hfirst := @GroupStep.patcher_eq path content ⟨g, d, w, d₁, w₁⟩ hstep hno.1
      exact (ih hrest hno.2).trans hfirst

/-- If there is no modification in the end then no group registered one. -/
theorem refineGroups_none {gs : List (List Comment)} (h : refineGroups path content gs d w = .ok d' w')
    (hnone : d'.patcher.modifications = []) : ∀ s ∈ groupSteps path content gs d w, ¬∃ m, s.Registers m := by
  induction gs generalizing d w with
  | nil => exact fun s hs => absurd hs List.not_mem_nil
  | cons g gs ih =>
      obtain ⟨d₁, w₁, hstep, hrest, hsteps⟩ := refineGroups_cons h
      have hlater := ih hrest
      rw [hsteps, List.forall_mem_cons]
      refine ⟨fun ⟨m, hm⟩ => hm.ne_nil ?_, hlater⟩
      rwa [← refineGroups_patcher hrest hlater]

/-- Without a tree no code unit is found, so nothing is registered. -/
theorem refineGroup_of_no_tree {g : List Comment} (htree : d.patcher.tree = none)
    (h : refineGroup path content d g w = .ok d' w') : d'.patcher = d.patcher := by
  rcases refineGroup_patcher h with hp | ⟨line, unit, imports, m, hunit, -⟩
  · exact hp
  · rw [unitAt, placeAt, htree] at hunit
    cases hunit

theorem refineGroups_of_no_tree {gs : List (List Comment)} (htree : d.patcher.tree = none)
    (h : refineGroups path content gs d w = .ok d' w') : d'.patcher = d.patcher := by
  induction gs generalizing d w with
  | nil =>
      cases h
      rfl
  | cons g gs ih =>
      obtain ⟨d₁, w₁, hstep, hrest, -⟩ := refineGroups_cons h
      have hfirst := refineGroup_of_no_tree htree hstep
      rw [ih (by rw [hfirst, htree]) hrest, hfirst]

theorem drafted_eq_ok {comments : List Comment} (h : drafted path content comments w = .ok d w') :
    ∃ (p : Patcher) (groups : List (List Comment)) (w₁ : World), p.modifications = [] ∧ p.content = content ∧
      p.language = Outline.languageOf? path ∧ (Outline.languageOf? path = none → p.tree = none) ∧
      refineGroups path content groups { patcher := p } w₁ = .ok d w' ∧
      textSteps path content comments w = groupSteps path content groups { patcher := p } w₁ := by
  obtain ⟨⟨p, groups⟩, w₁, hprepare, hgroups⟩ := bind_eq_ok.1 h
  have hsteps : textSteps path content comments w = groupSteps path content groups { patcher := p } w₁ := by
    rw [textSteps, hprepare, stepsAfter]
  obtain ⟨tree, q, r, htree, hp, -⟩ := prepare_eq_ok hprepare
  have hlanguage : p.language = Outline.languageOf? path := by rw [hp]
  refine ⟨p, groups, w₁, by rw [hp], by rw [hp], hlanguage, fun hnone => ?_, hgroups, hsteps⟩
  rw [Context.treeOf, hnone] at htree
  cases htree
  rw [hp]

/-- A draft has no modifications exactly if no group registered one. -/
theorem drafted_none_iff {comments : List Comment} (h : drafted path content comments w = .ok d w') :
    d.patcher.modifications = [] ↔ ∀ s ∈ textSteps path content comments w, ¬∃ m, s.Registers m := by
  obtain ⟨p, groups, w₁, hfresh, -, -, -, hgroups, hsteps⟩ := drafted_eq_ok h
  rw [hsteps]
  refine ⟨refineGroups_none hgroups, fun hno => ?_⟩
  rw [refineGroups_patcher hgroups hno, hfresh]

/-- A draft without modifications has the text that was read. -/
theorem drafted_text {comments : List Comment} (h : drafted path content comments w = .ok d w')
    (hnone : d.patcher.modifications = []) :
    d.patcher.content = content ∧ d.patcher.language = Outline.languageOf? path := by
  obtain ⟨p, groups, w₁, -, hcontent, hlanguage, -, hgroups, -⟩ := drafted_eq_ok h
  rw [refineGroups_patcher hgroups (refineGroups_none hgroups hnone)]
  exact ⟨hcontent, hlanguage⟩

/-- For a file without a language no group registers anything. -/
theorem drafted_of_no_language {comments : List Comment} (h : drafted path content comments w = .ok d w')
    (hlanguage : Outline.languageOf? path = none) :
    ∀ s ∈ textSteps path content comments w, ¬∃ m, s.Registers m := by
  obtain ⟨p, groups, w₁, hfresh, -, -, htree, hgroups, -⟩ := drafted_eq_ok h
  refine (drafted_none_iff h).1 ?_
  rw [refineGroups_of_no_tree (htree hlanguage) hgroups, hfresh]

/-! ## Files that have a result -/

/-- A draft whose modifications were applied is finished if the text is in order. -/
theorem finish_of_applyAll {final : Patcher} {q : Outline.Parsers}
    (happly : d.patcher.applyAll w.formatter w.parsers = .ok (.applied final.content, final) q)
    (horder : InOrder final.language final.content q) :
    ∃ r w', finish d w = .ok (some r) w' ∧ r.content = final.content := by
  obtain ⟨verdict, q', hvalidate, hvalid⟩ := validate_valid_iff.2 horder
  have hread : reading (d.patcher.applyAll w.formatter) w = .ok (.applied final.content, final) { w with parsers := q } :=
    reading_of_ok happly
  have hcheck : reading final.validate { w with parsers := q } = .ok verdict { w with parsers := q' } :=
    reading_of_ok hvalidate
  refine ⟨⟨final.content, final.suggestions, d.skipped⟩, { w with parsers := q' }, ?_, rfl⟩
  unfold finish
  change (reading (d.patcher.applyAll w.formatter) >>= _) w = _
  rw [bind_of_ok hread]
  refine (bind_of_ok hcheck).trans ?_
  simp only [hvalid]
  rfl

theorem refineFile_of_finish {c : PullContext} {key : Json} {comments : List Comment} {w₁ w₂ : World}
    {o : Option FileResult} (htext : textAt c key w = .ok (some (path, content)) w₁)
    (hdraft : drafted path content comments w₁ = .ok d w₂) (hfinish : finish d w₂ = .ok o w') :
    refineFile c key comments w = .ok o w' := by
  rw [refineFile_eq]
  refine recover_of_ok ((bind_of_ok htext).trans ?_)
  simp only [refineText_eq]
  obtain ⟨prepared, w₃, hprepare, hgroups⟩ := bind_eq_ok.1 hdraft
  exact (bind_of_ok hprepare).trans ((bind_of_ok hgroups).trans hfinish)

end

namespace FileStep

/-- The file is rewritten: its text is read, some group registers a modification, and all
that were registered are applied.  What comes of it is formatted and in order. -/
def Rewrites (c : PullContext) (f : FileStep) (new : Text) : Prop :=
  ∃ name text w₁ d w₂, textAt c f.path f.start = .ok (some (name, text)) w₁ ∧
    drafted name text f.comments w₁ = .ok d w₂ ∧ (∃ s ∈ textSteps name text f.comments w₁, ∃ m, s.Registers m) ∧
    ∃ applied q₁ final q₂, AppliesFrom 0 d.patcher w₂.parsers applied q₁ ∧
      applied.format w₂.formatter q₁ = .ok final q₂ ∧ InOrder final.language final.content q₂ ∧ new = final.content

/-- The file is kept: its text is read, no group registers a modification, and the text is
in order. -/
def Keeps (c : PullContext) (f : FileStep) (text : Text) : Prop :=
  ∃ name w₁ d w₂, textAt c f.path f.start = .ok (some (name, text)) w₁ ∧
    drafted name text f.comments w₁ = .ok d w₂ ∧ (∀ s ∈ textSteps name text f.comments w₁, ¬∃ m, s.Registers m) ∧
    InOrder (Outline.languageOf? name) text w₂.parsers

variable {c : PullContext} {f : FileStep} {text new : Text}

theorem Keeps.not_rewrites (hkeeps : f.Keeps c text) : ¬f.Rewrites c new := by
  obtain ⟨name, w₁, d, w₂, htext, -, hno, -⟩ := hkeeps
  rintro ⟨name', text', w₁', d', w₂', htext', -, ⟨s, hs, hm⟩, -⟩
  rw [htext] at htext'
  cases htext'
  exact hno s hs hm

theorem Rewrites.refineFile (h : f.Rewrites c new) :
    ∃ r w', refineFile c f.path f.comments f.start = .ok (some r) w' ∧ r.content = new := by
  obtain ⟨name, text, w₁, d, w₂, htext, hdraft, ⟨s, hs, hm⟩, applied, q₁, final, q₂, happlies, hformat, horder, rfl⟩ := h
  have hsome : d.patcher.modifications ≠ [] := fun hnone => (drafted_none_iff hdraft).1 hnone s hs hm
  obtain ⟨r, w', hfinish, hr⟩ := finish_of_applyAll (applyAll_of_applies hsome happlies hformat) horder
  exact ⟨r, w', refineFile_of_finish htext hdraft hfinish, hr⟩

theorem Keeps.refineFile (h : f.Keeps c text) :
    ∃ r w', refineFile c f.path f.comments f.start = .ok (some r) w' ∧ r.content = text := by
  obtain ⟨name, w₁, d, w₂, htext, hdraft, hno, horder⟩ := h
  have hnone := (drafted_none_iff hdraft).2 hno
  obtain ⟨hcontent, hlanguage⟩ := drafted_text hdraft hnone
  rw [← hcontent, ← hlanguage] at horder
  obtain ⟨r, w', hfinish, hr⟩ := finish_of_applyAll (applyAll_of_nil w₂.formatter hnone) horder
  exact ⟨r, w', refineFile_of_finish htext hdraft hfinish, hr.trans hcontent⟩

/-- A file that is processed is rewritten or kept. -/
theorem rewrites_or_keeps {r : FileResult} {w' : World}
    (h : Refine.refineFile c f.path f.comments f.start = .ok (some r) w') :
    f.Rewrites c r.content ∨ f.Keeps c r.content := by
  obtain ⟨name, text, w₁, d, w₂, htext, hdraft, hfinish⟩ := refineFile_drafted h
  obtain ⟨result, final, q₂, verdict, q₃, happly, hsuccess, hvalidate, hvalid, hcontent⟩ := finish_applyAll hfinish
  have horder : InOrder final.language final.content q₂ := validate_valid_iff.1 ⟨verdict, q₃, hvalidate, hvalid⟩
  rw [hcontent]
  by_cases hnone : d.patcher.modifications = []
  · -- nothing is applied, and the formatter is not asked
    rw [applyAll_of_nil _ hnone] at happly
    cases happly
    obtain ⟨hcontent, hlanguage⟩ := drafted_text hdraft hnone
    rw [hcontent, hlanguage] at horder
    rw [hcontent]
    exact Or.inr ⟨name, w₁, d, w₂, htext, hdraft, (drafted_none_iff hdraft).1 hnone, horder⟩
  · obtain ⟨applied, q₁, happlies, ⟨hnil, -⟩ | hformat⟩ := applyAll_applies happly hsuccess
    · exact absurd hnil hnone
    · rw [drafted_none_iff hdraft] at hnone
      push Not at hnone
      exact Or.inl ⟨name, text, w₁, d, w₂, htext, hdraft, hnone, applied, q₁, final, q₂, happlies, hformat, horder, rfl⟩

/-- A file without a language is kept whenever its groups can be treated. -/
theorem keeps_of_no_language {name : String} {w₁ w₂ : World} {d : Draft}
    (htext : textAt c f.path f.start = .ok (some (name, text)) w₁)
    (hdraft : drafted name text f.comments w₁ = .ok d w₂) (hlanguage : Outline.languageOf? name = none) :
    f.Keeps c text := by
  refine ⟨name, w₁, d, w₂, htext, hdraft, drafted_of_no_language hdraft hlanguage, fun l hl => ?_⟩
  rw [hlanguage] at hl
  cases hl

theorem mem_changes_iff {files : List (Json × List Comment)} {w : World} (hf : f ∈ fileSteps c files w)
    {path content : Json} : (path, content) ∈ f.changes ↔
      f.path = path ∧ ∃ text, content = .ofText text ∧ (f.Rewrites c text ∨ f.Keeps c text) := by
  have hrun := refineFile_of_mem hf
  rw [mem_changes]
  constructor
  · rintro ⟨r, hr, rfl, rfl⟩
    rw [hr] at hrun
    exact ⟨rfl, r.content, rfl, rewrites_or_keeps hrun⟩
  · rintro ⟨rfl, text, rfl, htreated⟩
    obtain ⟨r, w', hrefine, rfl⟩ := htreated.elim Rewrites.refineFile Keeps.refineFile
    rw [hrun] at hrefine
    injection hrefine with hr
    exact ⟨r, hr, rfl, rfl⟩

end FileStep

/-! ## The files of a run -/

section

variable {c : PullContext} {w w₀ w₁ : World} {files : List (Json × List Comment)} {t : Tally}

namespace Tallied

theorem changes_eq (h : Tallied c w files w₀ t w₁) : t.changes = (fileSteps c files w₀).flatMap (·.changes) := by
  obtain ⟨w₂, hrun⟩ := refineFiles_eq c files {} w₀
  rw [h.refined] at hrun
  cases hrun
  exact FileStep.foldl_add_changes _ _

/-- A file that is committed is rewritten or kept. -/
theorem mem_changes (h : Tallied c w files w₀ t w₁) {path content : Json} :
    (path, content) ∈ t.changes ↔ ∃ f ∈ fileSteps c files w₀, f.path = path ∧
      ∃ text, content = .ofText text ∧ (f.Rewrites c text ∨ f.Keeps c text) := by
  rw [h.changes_eq, List.mem_flatMap]
  exact exists_congr fun f => and_congr_right fun hf => FileStep.mem_changes_iff hf

/-- A file that is named by a text is treated once. -/
theorem step_unique (h : Tallied c w files w₀ t w₁) {f g : FileStep} (hf : f ∈ fileSteps c files w₀)
    (hg : g ∈ fileSteps c files w₀) {name : String} (hname : f.path = .str name) (hsame : g.path = .str name) :
    f = g := by
  obtain ⟨comments, -, -, hfiles⟩ := h.grouped
  have hapart : (fileSteps c files w₀).Pairwise fun f g => ¬(f.path = .str name ∧ g.path = .str name) := by
    have hkeys := (byFile_gathered hfiles).apart.sublist (fileSteps_files c files w₀)
    refine (List.pairwise_map.1 hkeys).imp fun hne ⟨hf, hg⟩ => ?_
    simp [hf, hg] at hne
  have : Std.Symm fun f g : FileStep => ¬(f.path = .str name ∧ g.path = .str name) := ⟨fun _ _ hfg hgf => hfg hgf.symm⟩
  by_contra hne
  exact hapart.forall hf hg hne ⟨hname, hsame⟩

/-- All files that are committed are rewritten, unless one is kept. -/
theorem rewritten_iff (h : Tallied c w files w₀ t w₁) :
    (∀ path ∈ t.changes.map (·.1), ∃ f ∈ fileSteps c files w₀, f.path = path ∧ ∃ new, f.Rewrites c new) ↔
      ∀ f ∈ fileSteps c files w₀, ∀ text, ¬f.Keeps c text := by
  constructor
  · intro hall f hf text hkeeps
    have hmem : (f.path, .ofText text) ∈ t.changes := h.mem_changes.2 ⟨f, hf, rfl, text, rfl, Or.inr hkeeps⟩
    obtain ⟨g, hg, hpath, new, hrewrites⟩ := hall f.path (List.mem_map_of_mem hmem)
    obtain ⟨name, _, _, _, htext, -⟩ := id hkeeps
    have hname := textAt_name htext
    obtain rfl := h.step_unique hf hg hname (hpath.trans hname)
    exact hkeeps.not_rewrites hrewrites
  · intro hnone path hpath
    obtain ⟨⟨path, content⟩, hmem, rfl⟩ := List.mem_map.1 hpath
    obtain ⟨f, hf, hf', text, -, hrewrites | hkeeps⟩ := h.mem_changes.1 hmem
    · exact ⟨f, hf, hf', text, hrewrites⟩
    · exact absurd hkeeps (hnone f hf text)

/-- A run commits the changes of its tally once, if there are any, and nothing else. -/
theorem run_commits (h : Tallied c w files w₀ t w₁) : ∃ calls, Accounts (journaledRun c) (run c) w calls ∧
    committedBy calls = if t.changes.isEmpty then [] else [t.changes] := by
  obtain ⟨comments, hcomments, hsome, hfiles⟩ := h.grouped
  have hne : comments ≠ [] := by
    rintro rfl
    cases hsome
  by_cases hnone : t.changes = []
  · refine ⟨[], run_accounts hcomments (fun _ => rfl) (runOn_accounts hfiles h.refined (settleBy_of_none hnone)), ?_⟩
    rw [hnone]
    rfl
  · obtain ⟨committed, w₂, hcommit⟩ := commit_ok c t.changes w₁
    refine ⟨_, run_accounts hcomments (fun hnil => absurd hnil hne)
      (runOn_accounts hfiles h.refined (settleBy_of_some hnone hcommit)), ?_⟩
    have hmarks : committedBy (markings c t.implemented committed w₂) = [] := by
      unfold markings
      split <;> rfl
    rw [committedBy_cons, hmarks, if_neg fun hempty => hnone (List.isEmpty_iff.1 hempty)]

/-- What a run accounts for as processed are the files that it commits, if that
succeeds. -/
theorem account_processed (h : Tallied c w files w₀ t w₁) (course : Course c w) {path : Json} :
    path ∈ course.account.processed ↔ path ∈ t.changes.map (·.1) ∧
      ∃ w₂, Pull.commitChanges c t.changes (.str commitMessage) w₁ = .ok true w₂ := by
  obtain ⟨comments, hcomments, -, hfiles⟩ := h.grouped
  have hfound := course.unresolved_ok
  rw [hcomments] at hfound
  injection hfound with heq hworld
  have hby := course.byFile_ok
  rw [← heq, hfiles] at hby
  injection hby with hby
  have hrefine := course.refineFiles_ok
  rw [← hby, ← hworld, h.refined] at hrefine
  injection hrefine with htally htreated
  subst htally htreated
  rw [course.changes_fst]
  rcases course.account_cases with ⟨haccount, hcommit⟩ | ⟨hnone, -, hcommit⟩
  · rw [haccount]
    refine ⟨fun hpath => ⟨hpath, hcommit.resolve_left (List.ne_nil_of_mem hpath)⟩, And.left⟩
  · rw [hnone, hcommit]
    simp

end Tallied

/-- A run commits once, or not at all if there is nothing to commit.  What it commits are
the files that it rewrites, with their new texts, and also the files that it keeps because
nothing was registered for them, with the texts that they have.  Files without a language
are always kept.  All these files are accounted for as processed, so only if none is kept
do the commit and the account name rewritten files alone. -/
theorem committed_or_kept (h : Tallied c w files w₀ t w₁) :
    (∃ calls, Accounts (journaledRun c) (run c) w calls ∧
        committedBy calls = if t.changes.isEmpty then [] else [t.changes]) ∧
      (∀ path content, (path, content) ∈ t.changes ↔ ∃ f ∈ fileSteps c files w₀, f.path = path ∧
        ∃ text, content = .ofText text ∧ (f.Rewrites c text ∨ f.Keeps c text)) ∧
      ((∀ path ∈ t.changes.map (·.1), ∃ f ∈ fileSteps c files w₀, f.path = path ∧ ∃ new, f.Rewrites c new) ↔
        ∀ f ∈ fileSteps c files w₀, ∀ text, ¬f.Keeps c text) ∧
      (∀ f ∈ fileSteps c files w₀, ∀ name text w₂ d w₃, textAt c f.path f.start = .ok (some (name, text)) w₂ →
        drafted name text f.comments w₂ = .ok d w₃ → Outline.languageOf? name = none → f.Keeps c text) ∧
      ∀ course : Course c w, ∀ path, path ∈ course.account.processed ↔ path ∈ t.changes.map (·.1) ∧
        ∃ w₂, Pull.commitChanges c t.changes (.str commitMessage) w₁ = .ok true w₂ :=
  ⟨h.run_commits, fun _ _ => h.mem_changes, h.rewritten_iff,
    fun _ _ _ _ _ _ _ => FileStep.keeps_of_no_language, fun course _ => h.account_processed course⟩

end

/-- A world with a comment on a function that the refiner changes and one on a text in no
language. -/
def mixed : World :=
  { declining with
    forge := { declining.forge with
      branches := [("head", [("a.py", .text "def f():\n    a\n    b\n".toList), ("a.txt", .text "a\n".toList)])]
      remarks := [{ id := .int 5, body := .str "rename a", path := .str "a.py", line := .int 2 },
        { id := .int 6, body := .str "rename a", path := .str "a.txt", line := .int 1 }] }
    refiner := Advisor.constant (.ok (.refinement
      { name := "f", path := "a.py", startLine := 1, endLine := 3, code := "def f():\n    a\n    c".toList })) }

theorem mixed_run :
    (tallyOf firstPull mixed).map (fun t => t.changes.map fun change => (change.1.str?, change.2.str?)) =
        some [(some "a.py", some "def f():\n    a\n    c\n"), (some "a.txt", some "a\n")] ∧
      (writes mixed (after (run firstPull) mixed)).map (fun x => (x.path.str?, x.content.str?)) =
        [(some "a.py", some "def f():\n    a\n    c\n"), (some "a.txt", some "a\n")] := by
  decide +kernel

theorem mixed_keeps : ∃ files w₀ t w₁, Tallied firstPull mixed files w₀ t w₁ ∧ .str "a.txt" ∈ t.changes.map (·.1) ∧
    ∃ f ∈ fileSteps firstPull files w₀, f.path = .str "a.txt" ∧ ∃ text, f.Keeps firstPull text := by
  obtain ⟨t, ht, hchanges⟩ := Option.map_eq_some_iff.1 mixed_run.1
  obtain ⟨files, w₀, w₁, htallied⟩ := tallied_of_tallyOf ht
  obtain ⟨first, rest, heq, -, hrest⟩ := List.map_eq_cons_iff.1 hchanges
  obtain ⟨⟨path, content⟩, others, rfl, hchange, -⟩ := List.map_eq_cons_iff.1 hrest
  rw [Prod.mk.injEq] at hchange
  obtain rfl := Json.str?_eq_some.1 hchange.1
  have hmem : (.str "a.txt", content) ∈ t.changes := by simp [heq]
  obtain ⟨f, hf, hpath, text, -, htreated⟩ := htallied.mem_changes.1 hmem
  refine ⟨files, w₀, t, w₁, htallied, List.mem_map_of_mem hmem, f, hf, hpath, ?_⟩
  rcases htreated with ⟨name, old, w₂, d, w₃, htext, hdraft, -⟩ | hkeeps
  · have hname := textAt_name htext
    rw [hpath] at hname
    injection hname with hname
    subst hname
    exact ⟨old, FileStep.keeps_of_no_language htext hdraft (by decide)⟩
  · exact ⟨text, hkeeps⟩

theorem committed_or_kept_mixed : ∃ files w₀ t w₁, Tallied firstPull mixed files w₀ t w₁ ∧
    ¬∀ path ∈ t.changes.map (·.1), ∃ f ∈ fileSteps firstPull files w₀, f.path = path ∧
      ∃ new, f.Rewrites firstPull new := by
  obtain ⟨files, w₀, t, w₁, htallied, -, f, hf, -, text, hkeeps⟩ := mixed_keeps
  obtain ⟨-, -, hrewritten, -⟩ := committed_or_kept htallied
  exact ⟨files, w₀, t, w₁, htallied, fun hall => hrewritten.1 hall f hf text hkeeps⟩

/-- A file for which no group registers anything is among the changes, and it is written. -/
theorem kept_file_written : (∃ files w₀ t w₁, Tallied firstPull mixed files w₀ t w₁ ∧
      .str "a.txt" ∈ t.changes.map (·.1) ∧ ∃ f ∈ fileSteps firstPull files w₀, f.path = .str "a.txt" ∧
        ∀ name text w₂, textAt firstPull f.path f.start = .ok (some (name, text)) w₂ →
          ∀ s ∈ textSteps name text f.comments w₂, ¬∃ m, s.Registers m) ∧
    (writes mixed (after (run firstPull) mixed)).map (fun x => (x.path.str?, x.content.str?)) =
      [(some "a.py", some "def f():\n    a\n    c\n"), (some "a.txt", some "a\n")] := by
  obtain ⟨files, w₀, t, w₁, htallied, hmem, f, hf, hpath, text, name, w₂, d, w₃, htext, -, hno, -⟩ := mixed_keeps
  refine ⟨⟨files, w₀, t, w₁, htallied, hmem, f, hf, hpath, fun name' text' w₂' htext' => ?_⟩, mixed_run.2⟩
  rw [htext] at htext'
  cases htext'
  exact hno

end Refine

end Redline
