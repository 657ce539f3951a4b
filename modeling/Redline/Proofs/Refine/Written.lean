import Redline.Proofs.Forge.Writes
import Redline.Proofs.Refine.Account

/-!
# The account and the branch

What a run writes goes to one new branch, and stays there.  The account follows from a
single answer, whether all changes were committed.  So a file that is named as processed
was written, but as soon as one file is lost, the account names all of them as failed, also
those that were written and that the new pull request offers (`account_against_branch`).
-/

namespace Redline.Refine

open Session Pull

namespace Course

variable {c : PullContext} {w : World} (h : Course c w)

def Wrote (path : Json) : Prop := ∃ x ∈ writes w h.final, x.path = path

/-- The account names a file as failed because the changes could not be committed. -/
def Blames (path : Json) : Prop := ⟨path, .str "Failed to commit changes"⟩ ∈ h.account.failed

theorem committable : Committable c h.comments h.steps h.tally.changes := by
  rw [tally_changes]
  exact fileSteps_committable h.byFile_ok

theorem changes_plain : Plain h.tally.changes := by
  intro change hchange
  obtain ⟨f, -, r, -, -, -, -, -, htext⟩ := h.committable.processed change.1 change.2 hchange
  refine ⟨h.processed_name change.1 ?_, r.content, htext⟩
  rw [← changes_fst]
  exact List.mem_map_of_mem hchange

/-- Until the changes are settled nothing is written. -/
theorem treated_edited : Edited w h.treated [] := by
  have hunresolved : Within [.look] (unresolved c) := unresolved_within (by decide) c
  have hrefine : Within [.look] (refineFiles c h.files {}) := refineFiles_within (by decide) c h.files {}
  have hfound := (hunresolved.spares (by decide)).of_ok h.unresolved_ok
  have htreated := (hrefine.spares (by decide)).of_ok h.refineFiles_ok
  exact (hfound.trans htreated).edited

/-- The report writes no file. -/
theorem final_puts : Puts h.settled h.final [] := by
  have hreport : Within [.look, .word] (postReport c h.account.processed h.account.failed h.account.skipped) :=
    postReport_within (by decide) c (by decide) _ _ _
  exact (hreport.spares (by decide)).of_ok h.report_ok

/-- The changes of a run are written or lost.  If none is lost the account is the tally, and
otherwise all files that were processed fail. -/
theorem kept_or_lost : ∃ branch kept lost, (kept ++ lost).Perm h.tally.changes ∧
    Edited w h.final (writesTo branch kept) ∧
    (kept ≠ [] → refinementBranch w.forge = .ok branch ∧ ∃ w₁, Puts w₁ h.final (writesTo branch kept)) ∧
    (lost = [] ∧ h.account = h.tally ∨
      lost ≠ [] ∧ h.account.processed = [] ∧
        h.account.failed = h.tally.failed ++ h.tally.processed.map (⟨·, .str "Failed to commit changes"⟩)) := by
  have hbranch := h.treated_edited.refinementBranch_eq
  obtain ⟨committed, w₁, hcommit, hcases⟩ := commitChanges_cases h.changes_plain c (.str commitMessage) h.treated
  rcases settle_cases h.settle_ok with ⟨hnone, haccount, -, hsettled⟩ | ⟨-, w₂, hcommit', haccount, -, hmark⟩ |
    ⟨hsome, hcommit', haccount, -⟩
  · -- There was nothing to commit, so there is no branch either.
    have hfinal := h.final_puts.edited
    rw [hsettled] at hfinal
    refine ⟨"", [], [], ?_, h.treated_edited.trans hfinal, fun hne => absurd rfl hne, Or.inl ⟨rfl, haccount⟩⟩
    rw [hnone]
    exact List.Perm.refl []
  · rw [hcommit'] at hcommit
    cases hcommit
    -- Between the commit and the report comments may be marked.
    have hmarked : Puts w₁ h.settled [] := by
      rcases hmark with hsettled | hresolve
      · rw [hsettled]
        exact Puts.refl w₁
      · exact (resolve_spares c _).of_ok hresolve
    rcases hcases with ⟨hfalse, -⟩ | ⟨branch, kept, lost, w₃, hname, hperm, htrue, hmade, hputs⟩
    · cases hfalse
    · have hfinal := hputs.trans_nil (hmarked.trans h.final_puts)
      exact ⟨branch, kept, lost, hperm, h.treated_edited.trans (hmade.trans hfinal.edited),
        fun _ => ⟨hbranch ▸ hname, w₃, hfinal⟩, Or.inl ⟨List.isEmpty_iff.1 htrue.symm, haccount⟩⟩
  · rw [hcommit'] at hcommit
    cases hcommit
    obtain ⟨hprocessed, hfailed⟩ := Tally.withdraw_eq h.changes_fst h.processed_name
    rw [← haccount] at hprocessed hfailed
    rcases hcases with ⟨-, hnothing⟩ | ⟨branch, kept, lost, w₃, hname, hperm, hfalse, hmade, hputs⟩
    · -- The commit ended before the first file, so all changes are lost.
      exact ⟨"", [], h.tally.changes, List.Perm.refl _,
        h.treated_edited.trans (hnothing.trans h.final_puts.edited), fun hne => absurd rfl hne,
        Or.inr ⟨hsome, hprocessed, hfailed⟩⟩
    · have hfinal := hputs.trans_nil h.final_puts
      refine ⟨branch, kept, lost, hperm, h.treated_edited.trans (hmade.trans hfinal.edited),
        fun _ => ⟨hbranch ▸ hname, w₃, hfinal⟩, Or.inr ⟨?_, hprocessed, hfailed⟩⟩
      rintro rfl
      cases hfalse

/-- A file that could not be processed is named as such. -/
theorem not_blamed_in_tally (path : Json) : ⟨path, .str "Failed to commit changes"⟩ ∉ h.tally.failed := by
  intro hmem
  rw [tally_failed] at hmem
  obtain ⟨f, -, hfailed⟩ := List.mem_flatMap.1 hmem
  unfold FileStep.failed at hfailed
  split at hfailed
  next => cases hfailed
  next =>
    have heq := List.mem_singleton.1 hfailed
    injection heq with hpath hreason
    injection hreason with hreason
    revert hreason
    decide

/-- What was written are changes of the run, on the new branch, where they still are. -/
theorem written_there : ∀ x ∈ writes w h.final, refinementBranch w.forge = .ok x.branch ∧
    (x.path, x.content) ∈ h.tally.changes ∧
    ∃ t, x.content = .ofText t ∧ h.final.forge.entryAt x.path (.str x.branch) = some (.text t) := by
  obtain ⟨branch, kept, lost, hperm, hedited, hthere, -⟩ := h.kept_or_lost
  intro x hx
  rw [hedited.writes_eq] at hx
  obtain ⟨⟨path, content⟩, hchange, rfl⟩ := List.mem_map.1 hx
  obtain ⟨hname, w₁, hputs⟩ := hthere (List.ne_nil_of_mem hchange)
  have hkept : ∀ change ∈ kept, change ∈ h.tally.changes := fun change hmem =>
    hperm.subset (List.mem_append_left lost hmem)
  refine ⟨hname, hkept _ hchange, ?_⟩
  obtain ⟨⟨name, hpath⟩, t, htext⟩ := h.changes_plain _ (hkept _ hchange)
  refine ⟨t, htext, ?_⟩
  dsimp only at hpath htext ⊢
  rw [hpath, htext] at hchange
  rw [hpath, Forge.entryAt_str, hputs.branches_eq]
  have hnodup := (hperm.map (·.1)).nodup_iff.2 h.committable.nodup
  rw [List.map_append] at hnodup
  exact entryIn_setAll (fun change hmem => h.changes_plain change (hkept change hmem))
    (List.nodup_append.1 hnodup).1 hchange

/-- The files that were processed are written or lost, and the account follows from whether
one is lost. -/
theorem wrote_or_lost : ∃ lost : List Json, (∀ path, path ∈ h.tally.processed ↔ h.Wrote path ∨ path ∈ lost) ∧
    (∀ path ∈ lost, ¬ h.Wrote path) ∧
    (lost = [] ∧ h.account = h.tally ∨
      lost ≠ [] ∧ h.account.processed = [] ∧
        h.account.failed = h.tally.failed ++ h.tally.processed.map (⟨·, .str "Failed to commit changes"⟩)) := by
  obtain ⟨branch, kept, lost, hperm, hedited, -, haccount⟩ := h.kept_or_lost
  have hwrote : ∀ path, h.Wrote path ↔ path ∈ kept.map (·.1) := by
    intro path
    rw [Wrote, hedited.writes_eq]
    constructor
    · rintro ⟨x, hx, rfl⟩
      obtain ⟨change, hchange, rfl⟩ := List.mem_map.1 hx
      exact List.mem_map_of_mem hchange
    · intro hpath
      obtain ⟨change, hchange, rfl⟩ := List.mem_map.1 hpath
      exact ⟨_, List.mem_map_of_mem hchange, rfl⟩
  have hpaths := hperm.map (·.1)
  rw [List.map_append, changes_fst] at hpaths
  have hnodup := h.committable.nodup
  rw [changes_fst] at hnodup
  have hapart := (List.nodup_append.1 (hpaths.nodup_iff.2 hnodup)).2.2
  refine ⟨lost.map (·.1), fun path => ?_, fun path hlost => ?_, ?_⟩
  · rw [← hpaths.mem_iff, List.mem_append, hwrote]
  · rw [hwrote]
    exact fun hkept => hapart path hkept path hlost rfl
  · rw [Ne, List.map_eq_nil_iff]
    exact haccount

theorem blames_iff (path : Json) :
    h.Blames path ↔ path ∈ h.tally.processed ∧ ∃ other ∈ h.tally.processed, ¬ h.Wrote other := by
  obtain ⟨lost, hprocessed, hlost, haccount⟩ := h.wrote_or_lost
  rcases haccount with ⟨rfl, haccount⟩ | ⟨hne, -, hfailed⟩
  · constructor
    · intro hblames
      rw [Blames, haccount] at hblames
      exact absurd hblames (h.not_blamed_in_tally path)
    · rintro ⟨-, other, hother, hnot⟩
      rcases (hprocessed other).1 hother with hwrote | hmem
      · exact absurd hwrote hnot
      · cases hmem
  · obtain ⟨other, hother⟩ := List.exists_mem_of_ne_nil _ hne
    rw [Blames, hfailed, List.mem_append, List.mem_map]
    constructor
    · rintro (htally | ⟨path', hpath, heq⟩)
      · exact absurd htally (h.not_blamed_in_tally path)
      · injection heq with heq
        exact ⟨heq ▸ hpath, other, (hprocessed other).2 (Or.inr hother), hlost other hother⟩
    · rintro ⟨hpath, -⟩
      exact Or.inr ⟨path, hpath, rfl⟩

theorem wrote_of_processed : ∀ path ∈ h.account.processed, h.Wrote path := by
  intro path hpath
  obtain ⟨lost, hprocessed, -, haccount⟩ := h.wrote_or_lost
  rcases haccount with ⟨rfl, haccount⟩ | ⟨-, hnone, -⟩
  · rw [haccount] at hpath
    rcases (hprocessed path).1 hpath with hwrote | hmem
    · exact hwrote
    · cases hmem
  · rw [hnone] at hpath
    cases hpath

end Course

section

variable {c : PullContext} {w w₀ w' : World} {comments : List Comment} {answer : Bool}

/-- What a run writes goes to the new branch and stays there, and a file that the account
names as processed was written.  The account blames the commit for the files that were
processed as soon as one of them was not written.  So it is right about those exactly if
all of them were written or none. -/
theorem account_against_branch (hcomments : Pull.unresolved c w = .ok comments w₀) (hsome : comments ≠ [])
    (hrun : runOn c comments w₀ = .ok answer w') :
    ∃ h : Course c w, h.comments = comments ∧ h.answer = answer ∧ h.final = w' ∧
      (∀ x ∈ writes w w', refinementBranch w.forge = .ok x.branch ∧ (x.path, x.content) ∈ h.tally.changes ∧
        ∃ t, x.content = .ofText t ∧ w'.forge.entryAt x.path (.str x.branch) = some (.text t)) ∧
      (∀ path ∈ h.account.processed, h.Wrote path) ∧
      (∀ path, h.Blames path ↔ path ∈ h.tally.processed ∧ ∃ other ∈ h.tally.processed, ¬ h.Wrote other) ∧
      ((∀ path, h.Blames path → ¬ h.Wrote path) ↔
        (∀ path ∈ h.tally.processed, h.Wrote path) ∨ ∀ path ∈ h.tally.processed, ¬ h.Wrote path) := by
  obtain ⟨h, rfl, rfl, rfl⟩ := Course.exists_of_runOn hcomments hsome hrun
  refine ⟨h, rfl, rfl, rfl, h.written_there, h.wrote_of_processed, h.blames_iff, ?_⟩
  constructor
  · intro hright
    by_cases hall : ∀ path ∈ h.tally.processed, h.Wrote path
    · exact Or.inl hall
    · refine Or.inr fun path hpath => hright path ((h.blames_iff path).2 ⟨hpath, ?_⟩)
      simpa using hall
  · rintro (hall | hnone) path hblames
    · obtain ⟨-, other, hother, hnot⟩ := (h.blames_iff path).1 hblames
      exact absurd (hall other hother) hnot
    · exact hnone path ((h.blames_iff path).1 hblames).1

end

/-- A world with a comment on each of two files, of which the second cannot be written. -/
def halfWritten : World :=
  { declining with
    forge := { declining.forge with
      branches := [("head", ["a.py", "b.py"].map (·, .text "def f():\n    a\n    b\n".toList))]
      remarks := [{ id := .int 5, body := .str "rename a", path := .str "a.py", line := .int 2 },
        { id := .int 6, body := .str "rename a", path := .str "b.py", line := .int 2 }]
      outage := fun _ r => match r.write? with
        | some x => if x.path.str? == some "b.py" then some "down" else none
        | none => none } }

theorem halfWritten_course :
    (ending firstPull halfWritten).map (fun e => (e.1.isEmpty, e.2)) = some (false, false) ∧
      (tallyOf firstPull halfWritten).map (fun t => t.processed.map (·.str?)) = some [some "a.py", some "b.py"] ∧
      (writes halfWritten (after (run firstPull) halfWritten)).map (·.path.str?) = [some "a.py"] := by
  decide +kernel

theorem halfWritten_runs : ∃ comments w₀ w', Pull.unresolved firstPull halfWritten = .ok comments w₀ ∧ comments ≠ [] ∧
    runOn firstPull comments w₀ = .ok false w' := by
  obtain ⟨⟨comments, answer⟩, hending, hpair⟩ := Option.map_eq_some_iff.1 halfWritten_course.1
  rw [Prod.mk.injEq] at hpair
  obtain ⟨hsome, rfl⟩ := hpair
  obtain ⟨w₀, w', hcomments, hrun⟩ := ending_eq_some hending
  exact ⟨comments, w₀, w', hcomments, List.isEmpty_eq_false_iff.1 hsome, hrun⟩

theorem halfWritten_processed (h : Course firstPull halfWritten) :
    h.tally.processed = [.str "a.py", .str "b.py"] := by
  have htally : tallyOf firstPull halfWritten = some h.tally := by
    have hsome : h.comments.isEmpty = false := List.isEmpty_eq_false_iff.2 h.comments_ne
    simp only [tallyOf, h.unresolved_ok, hsome, h.byFile_ok, h.refineFiles_ok]
  have hpaths := halfWritten_course.2.1
  rw [htally] at hpaths
  obtain ⟨a, as, heq, ha, has⟩ := List.map_eq_cons_iff.1 (Option.some.inj hpaths)
  obtain ⟨b, bs, rfl, hb, hbs⟩ := List.map_eq_cons_iff.1 has
  rw [heq, Json.str?_eq_some.1 ha, Json.str?_eq_some.1 hb, List.map_eq_nil_iff.1 hbs]

theorem halfWritten_wrote (h : Course firstPull halfWritten) (name : String) :
    h.Wrote (.str name) ↔ name = "a.py" := by
  have hwrites := halfWritten_course.2.2
  rw [after_of_ok h.run_ok] at hwrites
  obtain ⟨x, xs, heq, hx, hxs⟩ := List.map_eq_cons_iff.1 hwrites
  rw [Course.Wrote, heq, List.map_eq_nil_iff.1 hxs]
  simp [Json.str?_eq_some.1 hx, eq_comm]

theorem account_against_halfWritten : ∃ h : Course firstPull halfWritten, h.answer = false ∧
    h.Blames (.str "b.py") ∧ ¬ ∀ path, h.Blames path → ¬ h.Wrote path := by
  obtain ⟨comments, w₀, w', hcomments, hsome, hrun⟩ := halfWritten_runs
  obtain ⟨h, -, hanswer, -, -, -, hblames, hright⟩ := account_against_branch hcomments hsome hrun
  have ha : Json.str "a.py" ∈ h.tally.processed := by simp [halfWritten_processed]
  have hb : Json.str "b.py" ∈ h.tally.processed := by simp [halfWritten_processed]
  have hnot : ¬ h.Wrote (.str "b.py") := by simp [halfWritten_wrote]
  refine ⟨h, hanswer, (hblames _).2 ⟨hb, _, hb, hnot⟩, fun hall => ?_⟩
  rcases hright.1 hall with hevery | hnone
  · exact hnot (hevery _ hb)
  · exact hnone _ ha ((halfWritten_wrote h "a.py").2 rfl)

/-- The account names a file as failed that was written and that is on the branch. -/
theorem written_file_blamed : ∃ h : Course firstPull halfWritten, h.Blames (.str "a.py") ∧ h.Wrote (.str "a.py") ∧
    ∃ t, h.final.forge.entryAt (.str "a.py") (.str "head-refinement-1700000000") = some (.text t) := by
  obtain ⟨comments, w₀, w', hcomments, hsome, hrun⟩ := halfWritten_runs
  obtain ⟨h, -, -, -⟩ := Course.exists_of_runOn hcomments hsome hrun
  have hwrote := (halfWritten_wrote h "a.py").2 rfl
  have hblames : h.Blames (.str "a.py") := by
    refine (h.blames_iff _).2 ⟨by simp [halfWritten_processed], .str "b.py", by simp [halfWritten_processed], ?_⟩
    simp [halfWritten_wrote]
  refine ⟨h, hblames, hwrote, ?_⟩
  obtain ⟨x, hx, hpath⟩ := hwrote
  obtain ⟨hbranch, -, t, -, hentry⟩ := h.written_there x hx
  have hname : (refinementBranch halfWritten.forge).toOption = some "head-refinement-1700000000" := by
    decide +kernel
  rw [toOption_eq_some.1 hname] at hbranch
  injection hbranch with hbranch
  rw [hpath, ← hbranch] at hentry
  exact ⟨t, hentry⟩

end Redline.Refine
