import Mathlib.Data.List.Flatten
import Mathlib.Data.List.Perm.Basic
import Redline.Proofs.Grouping
import Redline.Proofs.Forge.Accounted
import Redline.Proofs.Refine.Completion

/-!
# What a run commits and marks

A run commits at most once, and it marks suggestions at most once and only after a commit
that succeeded.  What it commits are the texts of files that were processed to their end,
each of a file with an unresolved comment, and what it marks are suggestions of comments
on these files (`run_commits_once`).  A journal tells which commits and marks are made.
That none is missing in it is seen from the requests: all those that write or that mark
are made by what the journal tells of.
-/

namespace Redline.Refine

open Session

/-! ## A run with a journal -/

/-- What settles the tally of a run: it commits new texts, and marks suggestions that are
given with their files. -/
structure Hands (σ : Type) where
  commit : List (Json × Json) → EStateM Fault σ Bool
  mark : List (String × Json) → EStateM Fault σ Unit

def hands (c : PullContext) : Hands World where
  commit changes := Pull.commitChanges c changes (.str commitMessage)
  mark suggestions := Pull.resolve c (suggestions.map fun s => .str s.1)

/-- A commit or a marking, with where it starts and how it ends. -/
inductive Call where
  | commit (changes : List (Json × Json)) (start : World) (result : EStateM.Result Fault World Bool)
  | mark (suggestions : List (String × Json)) (start : World) (result : EStateM.Result Fault World Unit)

/-- What is committed by the commits among some calls, in their order. -/
def committedBy (calls : List Call) : List (List (Json × Json)) :=
  calls.filterMap fun call => match call with
    | .commit changes _ _ => some changes
    | .mark .. => none

theorem committedBy_cons (changes : List (Json × Json)) (start : World) (result : EStateM.Result Fault World Bool)
    (calls : List Call) : committedBy (.commit changes start result :: calls) = changes :: committedBy calls := rfl

/-- Hands that keep a journal of what they do. -/
def Hands.journaled (h : Hands World) : Hands (World × List Call) where
  commit changes := noted (.commit changes) (h.commit changes)
  mark suggestions := noted (.mark suggestions) (h.mark suggestions)

def settleBy {σ : Type} (h : Hands σ) (t : Tally) : EStateM Fault σ (Tally × Bool) := do
  if t.changes.isEmpty then return (t, false)
  else if ← h.commit t.changes then
    if !t.implemented.isEmpty then h.mark t.implemented
    return (t, true)
  else return (t.withdraw, false)

/-- Reports a settled tally, and tells whether the run succeeded. -/
def conclude (c : PullContext) (files : List (Json × List Comment)) (settled : Tally × Bool) : Session Bool := do
  postReport c settled.1.processed settled.1.failed settled.1.skipped
  return verdict files settled.1 settled.2

/-- `runOn` with a journal of what is committed and marked. -/
def journaledRunOn (c : PullContext) (comments : List Comment) : EStateM Fault (World × List Call) Bool := do
  let files ← silent (lift (Comment.byFile comments))
  let t ← silent (refineFiles c files {})
  let settled ← settleBy (hands c).journaled t
  silent (conclude c files settled)

/-- A run with a journal of what it commits and marks. -/
def journaledRun (c : PullContext) : EStateM Fault (World × List Call) Bool :=
  recover false do
    let comments ← silent (Pull.unresolved c)
    if comments.isEmpty then return true else journaledRunOn c comments

theorem runOn_eq (c : PullContext) (comments : List Comment) : runOn c comments = (do
    let files ← lift (Comment.byFile comments)
    let t ← refineFiles c files {}
    let settled ← settleBy (hands c) t
    conclude c files settled) := rfl

/-! ## The requests of a run -/

def since (w w' : World) : List Forge.Request := w'.forge.log.drop w.forge.log.length

/-- Whether a request writes branches, files or pull requests, or looks a comment up in
order to mark it, or marks it. -/
def isWeighty (r : Forge.Request) : Bool := [.edit, .lookup, .mark].contains r.kind

def leftBy {α : Type} : EStateM.Result Fault World α → World
  | .ok _ w => w
  | .error _ w => w

theorem leftBy_eq {α : Type} (x : Session α) (w : World) : leftBy (x w) = after x w := by
  unfold leftBy after
  cases x w <;> rfl

theorem since_leftBy {α : Type} {x : Session α} {w : World} {new : List Forge.Request}
    (hlog : (after x w).forge.log = w.forge.log ++ new) : since w (leftBy (x w)) = new := by
  rw [since, leftBy_eq, hlog, List.drop_left]

/-- The requests of a commit or of a marking. -/
def Call.requests : Call → List Forge.Request
  | commit _ start result => since start (leftBy result)
  | mark _ start result => since start (leftBy result)

/-- The weighty requests of a commit or of a marking. -/
def Call.weight (call : Call) : List Forge.Request := call.requests.filter isWeighty

/-- An operation with a journal does what another one does, and the weighty requests are
those of the calls that it enters. -/
abbrev Accounts {α : Type} (y : EStateM Fault (World × List Call) α) (x : Session α) (w : World)
    (calls : List Call) : Prop :=
  Accounted isWeighty Call.weight y x w calls

section

variable {α : Type} {x : Session α}

/-- Operations that only look and talk need not be entered. -/
theorem silent_accounts (hx : Within [.look, .word] x) (w : World) : Accounts (silent x) x w [] := by
  refine .silent (fun w => ?_) w
  obtain ⟨new, hlog, hkinds⟩ := hx.makes w
  refine ⟨new, hlog, fun r hr hweighty => ?_⟩
  have hkind := hkinds r hr
  simp only [isWeighty, List.contains_iff_mem] at hweighty
  rcases List.mem_cons.1 hkind with hlook | hword
  · rw [hlook] at hweighty
    revert hweighty
    decide
  · rw [List.mem_singleton.1 hword] at hweighty
    revert hweighty
    decide

theorem call_accounts {ks : List Forge.Request.Kind} {entry : World → EStateM.Result Fault World α → Call}
    (hx : Within ks x) (hentry : ∀ start result, (entry start result).requests = since start (leftBy result))
    (w : World) : Accounts (noted entry x) x w [entry w (x w)] := by
  obtain ⟨new, hlog, -⟩ := hx.makes w
  refine .noted hlog ?_
  rw [Call.weight, hentry, since_leftBy hlog]

end

/-! ## What settles a tally -/

section

variable (c : PullContext)

/-- The marking of suggestions, which only follows a commit that succeeded. -/
def markings (suggestions : List (String × Json)) (committed : Bool) (w : World) : List Call :=
  if committed && !suggestions.isEmpty then [.mark suggestions w ((hands c).mark suggestions w)] else []

theorem commit_ok (changes : List (Json × Json)) (w : World) :
    ∃ committed w', (hands c).commit changes w = .ok committed w' :=
  recover_ok _ _ _

theorem commit_accounts (changes : List (Json × Json)) (w : World) :
    Accounts ((hands c).journaled.commit changes) ((hands c).commit changes) w
      [.commit changes w ((hands c).commit changes w)] := by
  have hwithin : Within kinds ((hands c).commit changes) :=
    Pull.commitChanges_within (by decide) (by decide) c (by decide) changes _
  exact call_accounts hwithin (fun _ _ => rfl) w

theorem mark_accounts (suggestions : List (String × Json)) (w : World) :
    Accounts ((hands c).journaled.mark suggestions) ((hands c).mark suggestions) w
      [.mark suggestions w ((hands c).mark suggestions w)] := by
  have hwithin : Within kinds ((hands c).mark suggestions) :=
    Pull.resolve_within (by decide) (by decide) (by decide) c _
  exact call_accounts hwithin (fun _ _ => rfl) w

variable {c} {t : Tally} {w w' : World} {committed : Bool}

theorem settleBy_of_none (h : t.changes = []) :
    Accounts (settleBy (hands c).journaled t) (settleBy (hands c) t) w [] := by
  unfold settleBy
  rw [h]
  exact .pure (t, false) w

/-- Changes are committed once, and then the suggestions are marked once if that
succeeded. -/
theorem settleBy_of_some (h : t.changes ≠ []) (hcommit : (hands c).commit t.changes w = .ok committed w') :
    Accounts (settleBy (hands c).journaled t) (settleBy (hands c) t) w
      (.commit t.changes w (.ok committed w') :: markings c t.implemented committed w') := by
  have hfirst := commit_accounts c t.changes w
  rw [hcommit] at hfirst
  have hsome : ¬ t.changes.isEmpty = true := fun hempty => h (List.isEmpty_iff.1 hempty)
  unfold settleBy
  rw [if_neg hsome, if_neg hsome, ← List.singleton_append]
  refine hfirst.bind hcommit ?_
  cases committed with
  | false => exact .pure (t.withdraw, false) w'
  | true =>
      unfold markings
      cases t.implemented.isEmpty with
      | true => exact .pure (t, true) w'
      | false => exact (mark_accounts c t.implemented w').bind_quiet fun _ w₁ => .pure (t, true) w₁

end

/-! ## What files are committed -/

namespace FileStep

def changes (f : FileStep) : List (Json × Json) := (f.result.map fun r => (f.path, .ofText r.content)).toList

theorem mem_changes {f : FileStep} {path content : Json} :
    (path, content) ∈ f.changes ↔ ∃ r, f.result = some r ∧ path = f.path ∧ content = .ofText r.content := by
  unfold changes
  cases f.result with
  | none => simp
  | some r => simp

/-- A file has at most one new text. -/
theorem changes_paths (fs : List FileStep) :
    ((fs.flatMap changes).map (·.1)).Sublist (fs.map (·.path)) := by
  induction fs with
  | nil => exact List.Sublist.refl _
  | cons f fs ih =>
      rw [List.flatMap_cons, List.map_append, List.map_cons]
      unfold changes
      cases f.result with
      | none => exact ih.cons f.path
      | some r => exact ih.cons_cons f.path

theorem foldl_add_changes (fs : List FileStep) (t : Tally) :
    (fs.foldl (fun t f => t.add f.path f.result) t).changes = t.changes ++ fs.flatMap changes := by
  refine foldl_add_part (fun t f => ?_) fs t
  unfold changes
  cases f.result <;> simp [Tally.add]

end FileStep

section

variable {c : PullContext} {files : List (Json × List Comment)} {comments : List Comment} {w : World}

theorem fileSteps_files (c : PullContext) (files : List (Json × List Comment)) (w : World) :
    ((fileSteps c files w).map fun f => (f.path, f.comments)).Sublist files := by
  induction files generalizing w with
  | nil => exact List.Sublist.refl _
  | cons file rest ih =>
      rw [fileSteps]
      split
      next r w' _ => exact (ih w').cons_cons file
      next => exact List.nil_sublist _

theorem byFile_eq (h : Comment.byFile comments = .ok files) : files = groupBy (·.path) comments := by
  unfold Comment.byFile at h
  split at h
  next => cases h
  next =>
    cases h
    rfl

theorem byFile_gathered (h : Comment.byFile comments = .ok files) : Gathered Comment.path comments files := by
  rw [byFile_eq h]
  exact groupBy_gathered _ comments

/-- A file is named by a text, and the comments that are gathered for it are those with
this name. -/
theorem comments_of_file (h : Comment.byFile comments = .ok files) {name : String} {on : List Comment}
    (hfile : (Json.str name, on) ∈ files) :
    (∃ k, k ∈ on) ∧ ∀ k ∈ on, k ∈ comments ∧ k.path = .str name := by
  have hgathered := byFile_gathered h
  obtain ⟨first, hfirst, -⟩ := hgathered.led _ hfile
  refine ⟨⟨first, hfirst⟩, fun k hk => ⟨hgathered.mem _ hfile k hk, ?_⟩⟩
  rcases hgathered.same _ hfile k hk with hpath | hsame
  · exact hpath
  · exact Json.eq_str_of_beq (.inr hsame)

/-- The steps of a file treat comments on it, and none twice. -/
theorem textSteps_subperm (name : String) (content : Text) (on : List Comment) (w : World) :
    ((textSteps name content on w).flatMap (·.group)).Subperm on := by
  unfold textSteps stepsAfter
  cases hprepare : prepare name content on w with
  | error e w₁ => exact List.nil_subperm
  | ok prepared w₁ =>
      obtain ⟨patcher, groups⟩ := prepared
      obtain ⟨tree, q, r, -, -, hunits⟩ := prepare_eq_ok hprepare
      rw [List.flatMap_def]
      exact (groupSteps_groups _ _ _ _ _).flatten.subperm.trans (Comment.byUnit_perm hunits).subperm

theorem mem_of_textSteps {name : String} {content : Text} {on : List Comment} {s : GroupStep}
    (hs : s ∈ textSteps name content on w) : ∀ k ∈ s.group, k ∈ on := fun _ hk =>
  (textSteps_subperm name content on w).subset (List.mem_flatMap.2 ⟨s, hs, hk⟩)

/-- New texts of files that may be committed: no file has two of them, and each is what
came of a file with unresolved comments that was processed to its end. -/
structure Committable (c : PullContext) (comments : List Comment) (fs : List FileStep)
    (changes : List (Json × Json)) : Prop where
  nodup : (changes.map (·.1)).Nodup
  processed : ∀ path content, (path, content) ∈ changes → ∃ f ∈ fs, ∃ r, f.path = path ∧
    (∃ k, k ∈ f.comments) ∧ (∀ k ∈ f.comments, k ∈ comments ∧ k.path = path) ∧
    f.result = some r ∧ Processes c path f.comments f.start r ∧ content = .ofText r.content

/-- Suggestions that may be marked after a commit: each is that of an unresolved comment
on a file that is committed. -/
def Markable (comments : List Comment) (changes : List (Json × Json)) (suggestions : List (String × Json)) : Prop :=
  ∀ id path, (id, path) ∈ suggestions → path ∈ changes.map (·.1) ∧
    ∃ k ∈ comments, k.path = path ∧ id = k.id.displayed

section

variable (hfiles : Comment.byFile comments = .ok files)

include hfiles

theorem comments_of_step {f : FileStep} (hf : f ∈ fileSteps c files w) {r : FileResult} (hr : f.result = some r) :
    (∃ k, k ∈ f.comments) ∧ ∀ k ∈ f.comments, k ∈ comments ∧ k.path = f.path := by
  obtain ⟨name, content, w₁, hpath, -⟩ := processed_file hf hr
  have hfile : (f.path, f.comments) ∈ files := (fileSteps_files c files w).subset (List.mem_map_of_mem hf)
  rw [hpath] at hfile ⊢
  exact comments_of_file hfiles hfile

theorem fileSteps_committable :
    Committable c comments (fileSteps c files w) ((fileSteps c files w).flatMap (·.changes)) := by
  have hprocessed : ∀ path content, (path, content) ∈ (fileSteps c files w).flatMap (·.changes) →
      ∃ f ∈ fileSteps c files w, ∃ r, f.path = path ∧ (∃ k, k ∈ f.comments) ∧
        (∀ k ∈ f.comments, k ∈ comments ∧ k.path = path) ∧
        f.result = some r ∧ Processes c path f.comments f.start r ∧ content = .ofText r.content := by
    intro path content hmem
    obtain ⟨f, hf, hchange⟩ := List.mem_flatMap.1 hmem
    obtain ⟨r, hr, rfl, rfl⟩ := FileStep.mem_changes.1 hchange
    obtain ⟨hsome, hall⟩ := comments_of_step hfiles hf hr
    have hrun := refineFile_of_mem hf
    rw [hr] at hrun
    exact ⟨f, hf, r, rfl, hsome, hall, hr, refineFile_processes hrun, rfl⟩
  refine ⟨?_, hprocessed⟩
  have hpaths : (((fileSteps c files w).flatMap (·.changes)).map (·.1)).Sublist (files.map (·.1)) := by
    have hsteps := (fileSteps_files c files w).map Prod.fst
    rw [List.map_map] at hsteps
    exact (FileStep.changes_paths _).trans hsteps
  have hapart : (files.map (·.1)).Pairwise fun path path' => (path == path') = false :=
    List.pairwise_map.2 (byFile_gathered hfiles).apart
  refine (hapart.sublist hpaths).imp_of_mem fun {path path'} hmem _ hne heq => ?_
  -- Not every value is the same as itself, but the name of a file that was processed is.
  obtain ⟨change, hchange, rfl⟩ := List.mem_map.1 hmem
  obtain ⟨f, -, r, -, -, -, -, ⟨name, content, w₁, d, w₂, hname, -⟩, -⟩ := hprocessed change.1 change.2 hchange
  rw [← heq, hname, Json.str_beq_self] at hne
  cases hne

theorem fileSteps_markable :
    Markable comments ((fileSteps c files w).flatMap (·.changes)) ((fileSteps c files w).flatMap (·.implemented)) := by
  intro id path hmem
  obtain ⟨name, content, s, rfl, ⟨f, hf, hsome, w₁, htext, hs⟩, -, hid⟩ := mem_implemented_iff.1 hmem
  obtain ⟨r, hr⟩ := Option.isSome_iff_exists.1 hsome
  have hpath := textAt_name htext
  obtain ⟨k, hk, rfl⟩ := List.mem_map.1 hid
  obtain ⟨hcomment, hon⟩ := (comments_of_step hfiles hf hr).2 k (mem_of_textSteps hs k hk)
  refine ⟨List.mem_map.2 ⟨(f.path, .ofText r.content), ?_, hpath⟩, k, hcomment, hon.trans hpath, rfl⟩
  exact List.mem_flatMap.2 ⟨f, hf, FileStep.mem_changes.2 ⟨r, hr, rfl, rfl⟩⟩

end

end

/-! ## A run -/

theorem conclude_within (c : PullContext) (files : List (Json × List Comment)) (settled : Tally × Bool) :
    Within [.look, .word] (conclude c files settled) :=
  (postReport_within (by decide) c (by decide) _ _ _).bind fun _ => Within.pure _

/-- The tally of some files. -/
theorem refineFiles_eq_ok (c : PullContext) (files : List (Json × List Comment)) (w : World) :
    ∃ t w', refineFiles c files {} w = .ok t w' ∧ t.changes = (fileSteps c files w).flatMap (·.changes) ∧
      t.implemented = (fileSteps c files w).flatMap (·.implemented) := by
  obtain ⟨w', hrefine⟩ := refineFiles_eq c files {} w
  refine ⟨_, w', hrefine, ?_, ?_⟩
  · exact FileStep.foldl_add_changes _ _
  · exact (FileStep.foldl_add _ _).1

section

variable {c : PullContext} {comments : List Comment} {files : List (Json × List Comment)} {w w₀ w₁ : World}
  {t : Tally} {calls : List Call}

theorem runOn_accounts (hfiles : Comment.byFile comments = .ok files) (hrefine : refineFiles c files {} w = .ok t w₁)
    (hsettle : Accounts (settleBy (hands c).journaled t) (settleBy (hands c) t) w₁ calls) :
    Accounts (journaledRunOn c comments) (runOn c comments) w calls := by
  rw [runOn_eq]
  refine (silent_accounts (Within.lift _) w).bind (lift_eq_ok.2 ⟨hfiles, rfl⟩) ?_
  refine (silent_accounts (refineFiles_within (by decide) c files {}) w).bind hrefine ?_
  exact hsettle.bind_quiet fun settled w' => silent_accounts (conclude_within c files settled) w'

theorem runOn_accounts_of_error {e : Fault} (hfiles : Comment.byFile comments = .error e) :
    Accounts (journaledRunOn c comments) (runOn c comments) w [] := by
  rw [runOn_eq]
  exact (silent_accounts (Within.lift _) w).bind_error (lift_eq_error.2 ⟨hfiles, rfl⟩)

/-- A run enters what is entered for the unresolved comments, if there are any. -/
theorem run_accounts (hcomments : Pull.unresolved c w = .ok comments w₀)
    (hnone : comments = [] → calls = [])
    (hrest : Accounts (journaledRunOn c comments) (runOn c comments) w₀ calls) :
    Accounts (journaledRun c) (run c) w calls := by
  have hfetch := silent_accounts (Pull.unresolved_within (by decide) c) w
  refine (hfetch.bind hcomments ?_).recover false
  cases comments with
  | nil =>
      rw [hnone rfl]
      exact .pure true w₀
  | cons k rest => exact hrest

end

/-- In a run changes are committed at most once, and suggestions are marked at most once
and only after a commit that succeeded.  Nothing is committed only if there is nothing to
commit, and all the requests that write or mark are made by what the journal tells of. -/
theorem run_commits_once (c : PullContext) (w : World) :
    ∃ calls, Accounts (journaledRun c) (run c) w calls ∧
      ((calls = [] ∧ ∀ comments w₀ files, Pull.unresolved c w = .ok comments w₀ →
          Comment.byFile comments = .ok files → (fileSteps c files w₀).flatMap (·.changes) = []) ∨
        ∃ comments w₀ files changes suggestions w₁ committed w₂,
          Pull.unresolved c w = .ok comments w₀ ∧ Comment.byFile comments = .ok files ∧
          changes = (fileSteps c files w₀).flatMap (·.changes) ∧
          suggestions = (fileSteps c files w₀).flatMap (·.implemented) ∧ changes ≠ [] ∧
          (hands c).commit changes w₁ = .ok committed w₂ ∧
          calls = .commit changes w₁ (.ok committed w₂) :: markings c suggestions committed w₂ ∧
          Committable c comments (fileSteps c files w₀) changes ∧ Markable comments changes suggestions) := by
  cases hcomments : Pull.unresolved c w with
  | error e w₀ =>
      have hfetch := silent_accounts (Pull.unresolved_within (by decide) c) w
      exact ⟨[], (hfetch.bind_error hcomments).recover false, Or.inl ⟨rfl, fun comments w₀ files h => by cases h⟩⟩
  | ok comments w₀ =>
      cases hfiles : Comment.byFile comments with
      | error e =>
          refine ⟨[], run_accounts hcomments (fun _ => rfl) (runOn_accounts_of_error hfiles), Or.inl ⟨rfl, ?_⟩⟩
          intro comments' w₀' files h hfiles'
          cases h
          rw [hfiles] at hfiles'
          cases hfiles'
      | ok files =>
          obtain ⟨t, w₁, hrefine, hchanges, himplemented⟩ := refineFiles_eq_ok c files w₀
          by_cases hnone : t.changes = []
          · refine ⟨[], run_accounts hcomments (fun _ => rfl)
              (runOn_accounts hfiles hrefine (settleBy_of_none hnone)), Or.inl ⟨rfl, ?_⟩⟩
            intro comments' w₀' files' h hfiles'
            cases h
            rw [hfiles] at hfiles'
            cases hfiles'
            rw [← hchanges, hnone]
          · obtain ⟨committed, w₂, hcommit⟩ := commit_ok c t.changes w₁
            have hsettle := settleBy_of_some hnone hcommit
            have hsome : comments ≠ [] := by
              rintro rfl
              cases hfiles
              exact hnone hchanges
            refine ⟨_, run_accounts hcomments (fun h => absurd h hsome) (runOn_accounts hfiles hrefine hsettle),
              Or.inr ?_⟩
            refine ⟨comments, w₀, files, t.changes, t.implemented, w₁, committed, w₂, rfl, hfiles, hchanges,
              himplemented, hnone, hcommit, rfl, ?_, ?_⟩
            · rw [hchanges]
              exact fileSteps_committable hfiles
            · rw [hchanges, himplemented]
              exact fileSteps_markable hfiles

end Redline.Refine
