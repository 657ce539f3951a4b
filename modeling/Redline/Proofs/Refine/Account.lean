import Redline.Proofs.Refine.Commits
import Redline.Proofs.Refine.Lookups

/-!
# The account that a run gives

A run over unresolved comments that meets no fault of its own has a *course*: the comments
are gathered by file, the files are refined, what came of them is settled, and the account
of it is reported (`Course`).  A file that was processed counts as failed after all if the
changes could not be committed, and they are committed for all files at once.  So the
account names every file with a comment exactly once, as processed or as failed, and a file
is named as processed only if the commit succeeded (`account_covers_files`).
-/

namespace Redline

namespace Json

/-- Among values of which no two are the same, a text is found once. -/
theorem count_str_of_apart {vs : List Json} {s : String} (h : vs.Pairwise fun v v' => (v == v') = false)
    (hmem : .str s ∈ vs) : vs.count (.str s) = 1 := by
  induction vs with
  | nil => cases hmem
  | cons v vs ih =>
      obtain ⟨hfirst, hrest⟩ := List.pairwise_cons.1 h
      by_cases hv : (v == .str s) = true
      · have hnone : ∀ v' ∈ vs, ¬ (v' == .str s) = true := by
          intro v' hv' hsame
          have hdiffer := hfirst v' hv'
          rw [eq_str_of_beq (.inl hv), eq_str_of_beq (.inl hsame), str_beq_self] at hdiffer
          cases hdiffer
        rw [List.count_cons, if_pos hv, List.count, List.countP_eq_zero.2 hnone]
      · have hlater : .str s ∈ vs := by
          rcases List.mem_cons.1 hmem with heq | hmem
          · exact absurd (heq ▸ str_beq_self s) hv
          · exact hmem
        rw [List.count_cons, if_neg hv, ih hrest hlater]

end Json

namespace Refine

open Session

/-! ## The tally of files -/

namespace FileStep

def processed (f : FileStep) : List Json := (f.result.map fun _ => f.path).toList

def failed (f : FileStep) : List Failure :=
  if f.result.isSome then [] else [⟨f.path, .str "Failed to process file"⟩]

theorem foldl_add_processed (fs : List FileStep) (t : Tally) :
    (fs.foldl (fun t f => t.add f.path f.result) t).processed = t.processed ++ fs.flatMap processed := by
  refine foldl_add_part (fun t f => ?_) fs t
  unfold processed
  cases f.result <;> simp [Tally.add]

theorem foldl_add_failed (fs : List FileStep) (t : Tally) :
    (fs.foldl (fun t f => t.add f.path f.result) t).failed = t.failed ++ fs.flatMap failed := by
  refine foldl_add_part (fun t f => ?_) fs t
  unfold failed
  cases f.result <;> simp [Tally.add]

/-- What is to be committed are the texts of the files that were processed. -/
theorem changes_fst (fs : List FileStep) : (fs.flatMap changes).map (·.1) = fs.flatMap processed := by
  rw [List.map_flatMap]
  refine congrArg (fs.flatMap ·) (funext fun f => ?_)
  unfold changes processed
  cases f.result <;> rfl

theorem mem_processed {fs : List FileStep} {path : Json} :
    path ∈ fs.flatMap processed ↔ ∃ f ∈ fs, f.result.isSome = true ∧ f.path = path := by
  simp only [List.mem_flatMap, processed, Option.mem_toList, Option.map_eq_some_iff, Option.isSome_iff_exists]
  grind

/-- A file is processed or it fails. -/
theorem paths_perm (fs : List FileStep) :
    (fs.flatMap processed ++ (fs.flatMap failed).map (·.path)).Perm (fs.map (·.path)) := by
  induction fs with
  | nil => exact List.Perm.refl _
  | cons f fs ih =>
      simp only [List.flatMap_cons, List.map_append, List.map_cons]
      cases hr : f.result with
      | some r => simpa [processed, failed, hr] using ih
      | none =>
          simp only [processed, failed, hr, Option.map_none, Option.toList_none, List.nil_append]
          exact List.perm_middle.trans (ih.cons f.path)

end FileStep

/-- Every file is treated, since none ends in a fault. -/
theorem fileSteps_all (c : PullContext) (files : List (Json × List Comment)) (w : World) :
    (fileSteps c files w).map (fun f => (f.path, f.comments)) = files := by
  induction files generalizing w with
  | nil => rfl
  | cons file rest ih =>
      rw [fileSteps]
      split
      next r w' _ => rw [List.map_cons, ih]
      next e w' hrun => exact absurd hrun (recover_ne_error _ _ _ _ _)

/-! ## What is settled -/

theorem settle_cases {c : PullContext} {t t' : Tally} {committed : Bool} {w w' : World}
    (h : settle c t w = .ok (t', committed) w') :
    (t.changes = [] ∧ t' = t ∧ committed = false ∧ w' = w) ∨
      (t.changes ≠ [] ∧ ∃ w₁, Pull.commitChanges c t.changes (.str commitMessage) w = .ok true w₁ ∧
        t' = t ∧ committed = true ∧
        (w' = w₁ ∨ Pull.resolve c (t.implemented.map fun s => .str s.1) w₁ = .ok () w')) ∨
      (t.changes ≠ [] ∧ Pull.commitChanges c t.changes (.str commitMessage) w = .ok false w' ∧
        t' = t.withdraw ∧ committed = false) := by
  unfold settle at h
  split at h
  next hnone =>
    cases h
    exact Or.inl ⟨List.isEmpty_iff.1 hnone, rfl, rfl, rfl⟩
  next hsome =>
    have hne : t.changes ≠ [] := fun hnone => hsome (List.isEmpty_iff.2 hnone)
    obtain ⟨made, w₁, hcommit, h⟩ := bind_eq_ok.1 h
    cases made with
    | false =>
        cases h
        exact Or.inr (Or.inr ⟨hne, hcommit, rfl, rfl⟩)
    | true =>
        refine Or.inr (Or.inl ⟨hne, w₁, hcommit, ?_⟩)
        cases himplemented : t.implemented.isEmpty with
        | true =>
            rw [himplemented] at h
            cases h
            exact ⟨rfl, rfl, Or.inl rfl⟩
        | false =>
            rw [himplemented] at h
            obtain ⟨_, w₂, hresolve, h⟩ := bind_eq_ok.1 h
            cases h
            exact ⟨rfl, rfl, Or.inr hresolve⟩

namespace Tally

/-- The first of the processed files is the first to fail. -/
theorem withdrawFile_cons {t : Tally} {name : String} {paths : List Json} (h : t.processed = .str name :: paths) :
    (t.withdrawFile (.str name)).processed = paths ∧
      (t.withdrawFile (.str name)).failed = t.failed ++ [⟨.str name, .str "Failed to commit changes"⟩] := by
  have hthere : t.processed.contains (.str name) = true := by simp [h]
  rw [withdrawFile, if_pos hthere, h, List.erase_cons, Json.str_beq_self, if_pos rfl]
  exact ⟨rfl, rfl⟩

theorem foldl_withdrawFile {paths : List Json} {t : Tally} (hprocessed : t.processed = paths)
    (hnames : ∀ path ∈ paths, ∃ name, path = .str name) :
    (paths.foldl withdrawFile t).processed = [] ∧
      (paths.foldl withdrawFile t).failed = t.failed ++ paths.map (⟨·, .str "Failed to commit changes"⟩) := by
  induction paths generalizing t with
  | nil => exact ⟨hprocessed, (List.append_nil _).symm⟩
  | cons path paths ih =>
      obtain ⟨⟨name, rfl⟩, hothers⟩ := List.forall_mem_cons.1 hnames
      obtain ⟨hrest, hfailed⟩ := withdrawFile_cons hprocessed
      obtain ⟨hnone, hall⟩ := ih hrest hothers
      refine ⟨hnone, ?_⟩
      rw [List.foldl_cons, hall, hfailed, List.append_assoc, List.singleton_append, List.map_cons]

/-- If the changes are not committed, all files that were processed fail. -/
theorem withdraw_eq {t : Tally} (hchanges : t.changes.map (·.1) = t.processed)
    (hnames : ∀ path ∈ t.processed, ∃ name, path = .str name) :
    t.withdraw.processed = [] ∧
      t.withdraw.failed = t.failed ++ t.processed.map (⟨·, .str "Failed to commit changes"⟩) := by
  rw [withdraw, hchanges]
  exact foldl_withdrawFile rfl hnames

end Tally

/-! ## The course of a run -/

/-- The course of a run over unresolved comments that meets no fault of its own. -/
structure Course (c : PullContext) (w : World) where
  /-- The unresolved comments, of which there are some. -/
  comments : List Comment
  found : World
  unresolved_ok : Pull.unresolved c w = .ok comments found
  comments_ne : comments ≠ []
  files : List (Json × List Comment)
  byFile_ok : Comment.byFile comments = .ok files
  tally : Tally
  treated : World
  refineFiles_ok : refineFiles c files {} found = .ok tally treated
  account : Tally
  committed : Bool
  settled : World
  settle_ok : settle c tally treated = .ok (account, committed) settled
  final : World
  report_ok : postReport c account.processed account.failed account.skipped settled = .ok () final
  answer : Bool
  run_ok : run c w = .ok answer final
  answer_eq : answer = verdict files account committed

namespace Course

variable {c : PullContext} {w w₀ w' : World}

theorem exists_of_runOn {comments : List Comment} {answer : Bool} (hcomments : Pull.unresolved c w = .ok comments w₀)
    (hsome : comments ≠ []) (hrun : runOn c comments w₀ = .ok answer w') :
    ∃ h : Course c w, h.comments = comments ∧ h.answer = answer ∧ h.final = w' := by
  have hwhole : run c w = .ok answer w' := by
    refine recover_of_ok ((bind_of_ok hcomments).trans ?_)
    rw [if_neg fun hempty => hsome (List.isEmpty_iff.1 hempty)]
    exact hrun
  obtain ⟨files, w₁, hlift, hrun⟩ := bind_eq_ok.1 hrun
  obtain ⟨hfiles, rfl⟩ := lift_eq_ok.1 hlift
  obtain ⟨t, w₁, hrefine, hrun⟩ := bind_eq_ok.1 hrun
  obtain ⟨⟨t', committed⟩, w₂, hsettle, hrun⟩ := bind_eq_ok.1 hrun
  obtain ⟨_, w₃, hreport, hrun⟩ := bind_eq_ok.1 hrun
  cases hrun
  exact ⟨⟨comments, w₀, hcomments, hsome, files, hfiles, t, w₁, hrefine, t', committed, w₂, hsettle, _, hreport, _,
    hwhole, rfl⟩, rfl, rfl, rfl⟩

variable (h : Course c w)

def steps : List FileStep := fileSteps c h.files h.found

theorem tally_eq : h.tally = h.steps.foldl (fun t f => t.add f.path f.result) {} := by
  obtain ⟨w₁, hrefine⟩ := refineFiles_eq c h.files {} h.found
  rw [h.refineFiles_ok] at hrefine
  injection hrefine

theorem tally_processed : h.tally.processed = h.steps.flatMap (·.processed) := by
  rw [tally_eq, FileStep.foldl_add_processed]
  rfl

theorem tally_failed : h.tally.failed = h.steps.flatMap (·.failed) := by
  rw [tally_eq, FileStep.foldl_add_failed]
  rfl

theorem tally_changes : h.tally.changes = h.steps.flatMap (·.changes) := by
  rw [tally_eq, FileStep.foldl_add_changes]
  rfl

theorem changes_fst : h.tally.changes.map (·.1) = h.tally.processed := by
  rw [tally_changes, tally_processed, FileStep.changes_fst]

/-- Only a file that is named by a text can be processed. -/
theorem processed_name : ∀ path ∈ h.tally.processed, ∃ name, path = .str name := by
  intro path hpath
  rw [tally_processed] at hpath
  obtain ⟨f, hf, hsome, rfl⟩ := FileStep.mem_processed.1 hpath
  obtain ⟨r, hr⟩ := Option.isSome_iff_exists.1 hsome
  obtain ⟨name, -, -, hname, -⟩ := processed_file hf hr
  exact ⟨name, hname⟩

/-- The account is the tally if the changes are committed, and otherwise no file counts as
processed. -/
theorem account_cases :
    (h.account = h.tally ∧
        (h.tally.processed = [] ∨
          ∃ w₁, Pull.commitChanges c h.tally.changes (.str commitMessage) h.treated = .ok true w₁)) ∨
      (h.account.processed = [] ∧
        h.account.failed = h.tally.failed ++ h.tally.processed.map (⟨·, .str "Failed to commit changes"⟩) ∧
        Pull.commitChanges c h.tally.changes (.str commitMessage) h.treated = .ok false h.settled) := by
  rcases settle_cases h.settle_ok with ⟨hnone, haccount, -⟩ | ⟨-, w₁, hcommit, haccount, -⟩ |
    ⟨-, hcommit, haccount, -⟩
  · refine Or.inl ⟨haccount, Or.inl ?_⟩
    rw [← changes_fst, hnone]
    rfl
  · exact Or.inl ⟨haccount, Or.inr ⟨w₁, hcommit⟩⟩
  · obtain ⟨hprocessed, hfailed⟩ := Tally.withdraw_eq h.changes_fst h.processed_name
    exact Or.inr ⟨haccount ▸ hprocessed, haccount ▸ hfailed, hcommit⟩

def named : List Json := h.account.processed ++ h.account.failed.map (·.path)

theorem named_perm : h.named.Perm (h.files.map (·.1)) := by
  have htally : (h.tally.processed ++ h.tally.failed.map (·.path)).Perm (h.files.map (·.1)) := by
    have hfiles : h.steps.map (·.path) = h.files.map (·.1) := by
      have hall := congrArg (List.map Prod.fst) (fileSteps_all c h.files h.found)
      rwa [List.map_map] at hall
    rw [tally_processed, tally_failed, ← hfiles]
    exact FileStep.paths_perm h.steps
  rcases h.account_cases with ⟨haccount, -⟩ | ⟨hprocessed, hfailed, -⟩
  · rw [named, haccount]
    exact htally
  · rw [named, hprocessed, hfailed, List.nil_append, List.map_append, List.map_map]
    have hpaths : h.tally.processed.map ((·.path) ∘ fun path => Failure.mk path (.str "Failed to commit changes")) =
        h.tally.processed := List.map_id _
    rw [hpaths]
    exact List.perm_append_comm.trans htally

theorem comments_gathered : Gathered Comment.path h.comments h.files := byFile_gathered h.byFile_ok

theorem comments_covered : ∀ k ∈ h.comments, ∃ file ∈ h.files, k ∈ file.2 := by
  intro k hk
  rw [byFile_eq h.byFile_ok]
  exact List.mem_flatMap.1 ((groupBy_perm _ h.comments).mem_iff.2 hk)

theorem named_once {k : Comment} (hk : k ∈ h.comments) {name : String} (hname : k.path = .str name) :
    h.named.count (.str name) = 1 := by
  rw [h.named_perm.count_eq]
  obtain ⟨file, hfile, hmem⟩ := h.comments_covered k hk
  have hkey : file.1 = .str name := by
    rcases h.comments_gathered.same file hfile k hmem with hpath | hsame
    · rw [← hpath, hname]
    · rw [hname] at hsame
      exact Json.eq_str_of_beq (.inl hsame)
  exact Json.count_str_of_apart (List.pairwise_map.2 h.comments_gathered.apart)
    (List.mem_map.2 ⟨file, hfile, hkey⟩)

/-- The last file has comments, since every file has. -/
theorem lastComments_ne : lastComments h.files ≠ [] := by
  obtain ⟨k, hk⟩ := List.exists_mem_of_ne_nil _ h.comments_ne
  obtain ⟨file, hfile, -⟩ := h.comments_covered k hk
  have hlast := List.getLast?_eq_some_getLast (List.ne_nil_of_mem hfile)
  obtain ⟨first, hfirst, -⟩ := h.comments_gathered.led _ (List.getLast_mem (List.ne_nil_of_mem hfile))
  rw [lastComments, hlast]
  exact List.ne_nil_of_mem hfirst

/-- The three tests at the end of a run come to one: whether the account names a file as
processed. -/
theorem answer_eq_processed : h.answer = !h.account.processed.isEmpty := by
  have hlast : (lastComments h.files).isEmpty = false := List.isEmpty_eq_false_iff.2 h.lastComments_ne
  rw [h.answer_eq, verdict, hlast]
  cases hprocessed : h.account.processed.isEmpty with
  | true => rfl
  | false =>
      -- A file that counts as processed was to be committed, and was committed.
      have hne : h.account.processed ≠ [] := List.isEmpty_eq_false_iff.1 hprocessed
      rcases settle_cases h.settle_ok with ⟨hnone, haccount, -⟩ | ⟨-, -, -, -, hcommitted, -⟩ | ⟨-, -, haccount, -⟩
      · rw [haccount, ← changes_fst, hnone] at hne
        exact absurd rfl hne
      · rw [hcommitted, Bool.or_true]
        rfl
      · rw [haccount] at hne
        exact absurd (Tally.withdraw_eq h.changes_fst h.processed_name).1 hne

/-- A file counts as processed exactly if one was and the changes were committed. -/
theorem account_processed_iff : h.account.processed ≠ [] ↔
    (∃ f ∈ h.steps, f.result.isSome = true) ∧
      ∃ w₁, Pull.commitChanges c h.tally.changes (.str commitMessage) h.treated = .ok true w₁ := by
  have htally : h.tally.processed ≠ [] ↔ ∃ f ∈ h.steps, f.result.isSome = true := by
    rw [tally_processed]
    constructor
    · intro hne
      obtain ⟨path, hpath⟩ := List.exists_mem_of_ne_nil _ hne
      obtain ⟨f, hf, hsome, -⟩ := FileStep.mem_processed.1 hpath
      exact ⟨f, hf, hsome⟩
    · rintro ⟨f, hf, hsome⟩
      exact List.ne_nil_of_mem (FileStep.mem_processed.2 ⟨f, hf, hsome, rfl⟩)
  rcases h.account_cases with ⟨haccount, hcommit⟩ | ⟨hprocessed, -, hcommit⟩
  · rw [haccount, htally]
    refine ⟨fun hsome => ⟨hsome, hcommit.resolve_left (htally.2 hsome)⟩, And.left⟩
  · rw [hprocessed, hcommit]
    simp

end Course

section

variable {c : PullContext} {w w₀ w' : World} {comments : List Comment} {answer : Bool}

/-- The account of a run names every file with a comment once, as processed or as failed.
The run tells of success exactly if the account names a file as processed, and that is so
exactly if a file was processed and the changes were committed. -/
theorem account_covers_files (hcomments : Pull.unresolved c w = .ok comments w₀) (hsome : comments ≠ [])
    (hrun : runOn c comments w₀ = .ok answer w') :
    ∃ h : Course c w, h.comments = comments ∧ h.answer = answer ∧ h.final = w' ∧
      h.named.Perm (h.files.map (·.1)) ∧ Gathered Comment.path comments h.files ∧
      (∀ k ∈ comments, ∃ file ∈ h.files, k ∈ file.2) ∧
      (∀ k ∈ comments, ∀ name, k.path = .str name → h.named.count (.str name) = 1) ∧
      (answer = true ↔ h.account.processed ≠ []) ∧
      (h.account.processed ≠ [] ↔ (∃ f ∈ h.steps, f.result.isSome = true) ∧
        ∃ w₁, Pull.commitChanges c h.tally.changes (.str commitMessage) h.treated = .ok true w₁) := by
  obtain ⟨h, rfl, rfl, rfl⟩ := Course.exists_of_runOn hcomments hsome hrun
  refine ⟨h, rfl, rfl, rfl, h.named_perm, h.comments_gathered, h.comments_covered,
    fun k hk name => h.named_once hk, ?_, h.account_processed_iff⟩
  rw [h.answer_eq_processed]
  simp

/-- The unresolved comments of a run that comes to its end, and what it tells. -/
def ending (c : PullContext) (w : World) : Option (List Comment × Bool) :=
  match Pull.unresolved c w with
  | .ok comments w₀ =>
      match runOn c comments w₀ with
      | .ok answer _ => some (comments, answer)
      | .error _ _ => none
  | .error _ _ => none

theorem ending_eq_some (h : ending c w = some (comments, answer)) :
    ∃ w₀ w', Pull.unresolved c w = .ok comments w₀ ∧ runOn c comments w₀ = .ok answer w' := by
  unfold ending at h
  split at h
  next found w₀ hcomments =>
    split at h
    next told w' hrun =>
      cases h
      exact ⟨w₀, w', hcomments, hrun⟩
    next => cases h
  next => cases h

end

/-- A world with a comment on a file that is there and one on a file that is not. -/
def uneven : World :=
  { declining with
    forge := { declining.forge with
      remarks := [{ id := .int 5, body := .str "rename a", path := .str "a.py", line := .int 2 },
        { id := .int 6, body := .str "rename a", path := .str "b.py", line := .int 2 }] } }

theorem uneven_ending : (ending firstPull uneven).map (fun e => (e.1.map (·.path.str?), e.2)) =
    some ([some "a.py", some "b.py"], true) := by
  decide +kernel

theorem account_covers_uneven : ∃ h : Course firstPull uneven, h.answer = true ∧ h.account.processed ≠ [] ∧
    h.named.count (.str "a.py") = 1 ∧ h.named.count (.str "b.py") = 1 := by
  obtain ⟨⟨comments, answer⟩, hending, hpair⟩ := Option.map_eq_some_iff.1 uneven_ending
  rw [Prod.mk.injEq] at hpair
  obtain ⟨hpaths, rfl⟩ := hpair
  obtain ⟨k, ks, rfl, hk, hks⟩ := List.map_eq_cons_iff.1 hpaths
  obtain ⟨k', ks', rfl, hk', -⟩ := List.map_eq_cons_iff.1 hks
  obtain ⟨w₀, w', hcomments, hrun⟩ := ending_eq_some hending
  obtain ⟨h, -, hanswer, -, -, -, -, honce, htold, -⟩ := account_covers_files hcomments (List.cons_ne_nil _ _) hrun
  exact ⟨h, hanswer, htold.1 rfl, honce k (by simp) _ (Json.str?_eq_some.1 hk),
    honce k' (by simp) _ (Json.str?_eq_some.1 hk')⟩

end Refine

end Redline
