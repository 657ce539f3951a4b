import Redline.Proofs.Forge.Sight
import Redline.Proofs.Review.Answers
import Redline.Proofs.Refine.Commits
import Redline.Proofs.Desk.Supervision

/-!
# What a review attempts to post

A review looks for the changed units of every file that was not removed, and then posts
findings.  A journal tells of both.  What is attempted follows from the units that were
found and from the answers of the reviewer, whichever of the attempts fail, and that on one
file does not depend on the other files (`review_attempts_comments`).
-/

namespace Redline.Desk

open Session
open Forge (Request)
open Refine (since leftBy since_leftBy firstPull)

/-! ## A review with a journal -/

/-- Who does the work of a review. -/
structure Crew (σ : Type) where
  units : ChangedFile → EStateM Fault σ (List ChangedUnit)
  post : Json → Finding → EStateM Fault σ Unit

def crew (c : PullContext) : Crew World where
  units := Pull.changedUnits c
  post path f := Pull.postLineComment c path (.int f.line) (.str (findingText f)) (.str f.side)

/-- Something that the crew did, with where it started and how it ended. -/
inductive Deed where
  | units (file : ChangedFile) (start : World) (result : EStateM.Result Fault World (List ChangedUnit))
  | post (path : Json) (finding : Finding) (start : World) (result : EStateM.Result Fault World Unit)

def Crew.journaled (h : Crew World) : Crew (World × List Deed) where
  units f := noted (.units f) (h.units f)
  post path finding := noted (.post path finding) (h.post path finding)

section

variable {σ : Type} (h : Crew σ)

def prepareBy (f : ChangedFile) : EStateM Fault σ (Option FileToReview) := do
  if f.status == .str "removed" then return none
  else return toReview f (← h.units f)

def prepareAllBy : List ChangedFile → EStateM Fault σ (List FileToReview)
  | [] => pure []
  | f :: fs => do
      let first ← prepareBy h f
      let rest ← prepareAllBy fs
      return first.toList ++ rest

def postFindingsBy (path : Json) : List Finding → EStateM Fault σ Unit
  | [] => pure ()
  | f :: fs => do
      recover () (h.post path f)
      postFindingsBy path fs

def postResultsBy : List (Json × List Finding) → EStateM Fault σ Unit
  | [] => pure ()
  | (path, findings) :: rest => do
      postFindingsBy h path findings
      postResultsBy rest

end

section

variable (c : PullContext)

theorem prepareAll_eq (files : List ChangedFile) : prepareAll c files = prepareAllBy (crew c) files := by
  induction files with
  | nil => rfl
  | cons f fs ih =>
      rw [prepareAll, prepareAllBy, ih]
      rfl

theorem postFindings_eq (path : Json) (findings : List Finding) :
    postFindings c path findings = postFindingsBy (crew c) path findings := by
  induction findings with
  | nil => rfl
  | cons f fs ih =>
      rw [postFindings, postFindingsBy, ih]
      rfl

theorem postResults_eq (results : List (Json × List Finding)) :
    postResults c results = postResultsBy (crew c) results := by
  induction results with
  | nil => rfl
  | cons r rs ih => rw [postResults, postResultsBy, postFindings_eq, ih]

theorem reviewPull_eq : reviewPull c = (do
    let files ← Pull.changedFiles c
    let prepared ← prepareAllBy (crew c) files
    let results ← reviewing (Review.reviewFiles prepared)
    postResultsBy (crew c) results) := by
  simp only [reviewPull, prepareAll_eq, postResults_eq]

/-- A review of a pull request with a journal. -/
def journaledPull : EStateM Fault (World × List Deed) Unit := do
  let files ← silent (Pull.changedFiles c)
  let prepared ← prepareAllBy (crew c).journaled files
  let results ← silent (reviewing (Review.reviewFiles prepared))
  postResultsBy (crew c).journaled results

/-- The office for a pull request beside a journal in which it enters nothing. -/
def quietOffice : Office (World × List Deed) where
  manageLabels add remove := silent (Pull.manageLabels c add remove)
  postComment body := silent (Pull.postComment c body)

def journaledReview : EStateM Fault (World × List Deed) Unit :=
  supervise (quietOffice c) review (journaledPull c)

end

namespace Deed

/-- The requests by which a comment is posted on a line. -/
def lineComments : Deed → List Request
  | units .. => []
  | post _ _ start result => (since start (leftBy result)).filter (·.isLineComment)

def units? : Deed → Option (ChangedFile × List ChangedUnit)
  | units f _ (.ok us _) => some (f, us)
  | _ => none

def post? : Deed → Option (Json × Finding)
  | post path finding _ _ => some (path, finding)
  | units .. => none

/-- The deed is what the operations of a pull request do.  A post makes at most one request
for a comment, and it makes one unless it fails: on the file, at the line of the finding and
on its side, with the text that tells the finding. -/
def Genuine (c : PullContext) : Deed → Prop
  | units f start result => result = Pull.changedUnits c f start
  | post path finding start result =>
      let body : Json := .str (findingText finding)
      result = Pull.postLineComment c path (.int finding.line) body (.str finding.side) start ∧
        (((post path finding start result).lineComments = [] ∧ ∃ e w, result = .error e w) ∨
          ∃ commit, (post path finding start result).lineComments =
            [.lineComment body commit path (.int finding.line) (Pull.sideOf (.str finding.side))])

end Deed

def deeds (c : PullContext) (w : World) : List Deed :=
  match journaledReview c (w, []) with
  | .ok _ s => s.2
  | .error _ s => s.2

/-- The files whose changed units a review looks for, with the units that it finds. -/
def gathered (c : PullContext) (w : World) : List (ChangedFile × List ChangedUnit) :=
  (deeds c w).filterMap Deed.units?

/-- The findings that a review attempts to post, with the files. -/
def attempted (c : PullContext) (w : World) : List (Json × Finding) := (deeds c w).filterMap Deed.post?

/-! ## The requests of a post -/

/-- Opens a pull request and asks for its commits. -/
def reachCommits (c : PullContext) : Session Unit := do
  Pull.open c
  send .commits

def commentBy (body : Json) (r : Request) : Session Unit := do
  match ← attempt (send r) with
  | .ok _ => return
  | .error e => throw (if Pull.canShorten body then e else .wrongSort)

theorem postLineComment_eq (c : PullContext) (path line body side : Json) :
    Pull.postLineComment c path line body side = (do
      reachCommits c
      match (← forge).commits.getLast? with
      | none => throw (.refused "No commits found in the PR")
      | some commit => commentBy body (.lineComment body commit path line (Pull.sideOf side))) := by
  rw [reachCommits, bind_assoc]
  rfl

theorem commentBy_log (body : Json) (r : Request) (w : World) :
    (after (commentBy body r) w).forge.log = w.forge.log ++ [r] := by
  have hlog : (after (send r) w).forge.log = w.forge.log ++ [r] := after_send_log fun _ => rfl
  obtain ⟨o, hsend⟩ := attempt_ok (send r) w
  rw [← hlog, commentBy, after_bind_of_ok hsend]
  cases o <;> rfl

/-! ## What is entered -/

abbrev Accounts {α : Type} (y : EStateM Fault (World × List Deed) α) (x : Session α) (w : World)
    (entries : List Deed) : Prop :=
  Accounted Request.isLineComment Deed.lineComments y x w entries

/-- Operations that only move the world onward need not be entered. -/
theorem silent_accounts {α : Type} {x : Session α} (hx : World.passage.Moves x) (w : World) :
    Accounts (silent x) x w [] := by
  refine .silent (fun w => ?_) w
  obtain ⟨o, hrun⟩ := attempt_ok x w
  exact (hx w o _ hrun).log

section

variable (c : PullContext)

theorem units_ok (f : ChangedFile) (w : World) : ∃ us w', (crew c).units f w = .ok us w' := by
  change ∃ us w', Pull.changedUnits c f w = .ok us w'
  unfold Pull.changedUnits
  split
  next => exact recover_ok _ _ _
  next => exact ⟨[], w, rfl⟩

theorem units_accounts (f : ChangedFile) (w : World) :
    Accounts ((crew c).journaled.units f) ((crew c).units f) w [.units f w ((crew c).units f w)] := by
  obtain ⟨o, hrun⟩ := attempt_ok (Pull.changedUnits c f) w
  obtain ⟨new, hlog, hnew⟩ := (Pull.changedUnits_moves c f w o _ hrun).log
  exact .noted hlog (List.filter_eq_nil_iff.2 hnew)

/-- A post makes at most one request for a comment on a line, and one if it succeeds. -/
theorem postLineComment_requests (path line body side : Json) (w : World) :
    ∃ new, (after (Pull.postLineComment c path line body side) w).forge.log = w.forge.log ++ new ∧
      ((new.filter (·.isLineComment) = [] ∧
          ∃ e w', Pull.postLineComment c path line body side w = .error e w') ∨
        ∃ commit, new.filter (·.isLineComment) = [.lineComment body commit path line (Pull.sideOf side)]) := by
  have hreach : World.passage.Moves (reachCommits c) :=
    (Pull.open_moves c).bind fun _ => send_id_moves .commits Bool.false_ne_true
  rw [postLineComment_eq]
  cases hrun : reachCommits c w with
  | error e w₁ =>
      obtain ⟨new, hlog, hnew⟩ := (hreach.of_error hrun).log
      refine ⟨new, ?_, Or.inl ⟨List.filter_eq_nil_iff.2 hnew, e, w₁, bind_of_error hrun⟩⟩
      rw [after_bind_of_error hrun, hlog]
  | ok u w₁ =>
      obtain ⟨new, hlog, hnew⟩ := (hreach.of_ok hrun).log
      have hquiet := List.filter_eq_nil_iff.2 hnew
      have hforge : forge w₁ = .ok w₁.forge w₁ := rfl
      rw [after_bind_of_ok hrun, bind_of_ok hrun, after_bind_of_ok hforge, bind_of_ok hforge]
      cases w₁.forge.commits.getLast? with
      | none => exact ⟨new, hlog, Or.inl ⟨hquiet, _, w₁, rfl⟩⟩
      | some commit =>
          refine ⟨new ++ [.lineComment body commit path line (Pull.sideOf side)], ?_, Or.inr ⟨commit, ?_⟩⟩
          · rw [commentBy_log, hlog, List.append_assoc]
          · rw [List.filter_append, hquiet]
            rfl

theorem post_genuine (path : Json) (finding : Finding) (w : World) :
    Deed.Genuine c (.post path finding w ((crew c).post path finding w)) := by
  obtain ⟨new, hlog, hnew⟩ := postLineComment_requests c path (.int finding.line) (.str (findingText finding))
    (.str finding.side) w
  refine ⟨rfl, ?_⟩
  have hsince : (Deed.post path finding w ((crew c).post path finding w)).lineComments =
      new.filter (·.isLineComment) := by
    unfold Deed.lineComments
    exact congrArg _ (since_leftBy hlog)
  rw [hsince]
  exact hnew

theorem post_accounts (path : Json) (finding : Finding) (w : World) :
    Accounts ((crew c).journaled.post path finding) ((crew c).post path finding) w
      [.post path finding w ((crew c).post path finding w)] := by
  obtain ⟨new, hlog, -⟩ := postLineComment_requests c path (.int finding.line) (.str (findingText finding))
    (.str finding.side) w
  refine .noted hlog ?_
  unfold Deed.lineComments
  exact congrArg _ (since_leftBy hlog).symm

/-! ## The run of a review -/

/-- Deeds tell which units were found and what was to be posted. -/
structure Tells (ds : List Deed) (found : List (ChangedFile × List ChangedUnit)) (attempts : List (Json × Finding)) :
    Prop where
  genuine : ∀ d ∈ ds, d.Genuine c
  units : ds.filterMap Deed.units? = found
  posts : ds.filterMap Deed.post? = attempts

namespace Tells

theorem nil : Tells c [] [] [] := ⟨List.forall_mem_nil _, rfl, rfl⟩

variable {c}

theorem append {ds ds' : List Deed} {found found' : List (ChangedFile × List ChangedUnit)}
    {attempts attempts' : List (Json × Finding)} (h : Tells c ds found attempts) (h' : Tells c ds' found' attempts') :
    Tells c (ds ++ ds') (found ++ found') (attempts ++ attempts') where
  genuine := List.forall_mem_append.2 ⟨h.genuine, h'.genuine⟩
  units := by rw [List.filterMap_append, h.units, h'.units]
  posts := by rw [List.filterMap_append, h.posts, h'.posts]

theorem of_post (path : Json) (finding : Finding) (w : World) :
    Tells c [.post path finding w ((crew c).post path finding w)] [] [(path, finding)] :=
  ⟨List.forall_mem_singleton.2 (post_genuine c path finding w), rfl, rfl⟩

theorem of_units {f : ChangedFile} {us : List ChangedUnit} {w w' : World}
    (hrun : Pull.changedUnits c f w = .ok us w') : Tells c [.units f w (.ok us w')] [(f, us)] [] :=
  ⟨List.forall_mem_singleton.2 hrun.symm, rfl, rfl⟩

end Tells

theorem postFindingsBy_accounts (path : Json) (findings : List Finding) (w : World) :
    ∃ ds w', postFindingsBy (crew c) path findings w = .ok () w' ∧
      Accounts (postFindingsBy (crew c).journaled path findings) (postFindingsBy (crew c) path findings) w ds ∧
      Tells c ds [] (findings.map (path, ·)) := by
  induction findings generalizing w with
  | nil => exact ⟨[], w, rfl, .pure () w, .nil c⟩
  | cons f fs ih =>
      obtain ⟨_, w₁, hrun⟩ := recover_ok () ((crew c).post path f) w
      obtain ⟨ds, w', hrest, haccounts, htells⟩ := ih w₁
      refine ⟨_, w', ?_, ((post_accounts c path f w).recover ()).bind hrun haccounts, ?_⟩
      · rw [postFindingsBy, bind_of_ok hrun, hrest]
      · exact (Tells.of_post path f w).append htells

theorem postResultsBy_accounts (results : List (Json × List Finding)) (w : World) :
    ∃ ds w', postResultsBy (crew c) results w = .ok () w' ∧
      Accounts (postResultsBy (crew c).journaled results) (postResultsBy (crew c) results) w ds ∧
      Tells c ds [] (results.flatMap fun r => r.2.map (r.1, ·)) := by
  induction results generalizing w with
  | nil => exact ⟨[], w, rfl, .pure () w, .nil c⟩
  | cons r rs ih =>
      obtain ⟨ds, w₁, hrun, haccounts, htells⟩ := postFindingsBy_accounts c r.1 r.2 w
      obtain ⟨more, w', hrest, haccounts', htells'⟩ := ih w₁
      refine ⟨ds ++ more, w', ?_, haccounts.bind hrun haccounts', ?_⟩
      · rw [postResultsBy, bind_of_ok hrun, hrest]
      · rw [List.flatMap_cons]
        exact htells.append htells'

/-- Some time after a moment the units of a file are found. -/
def Seen (w : World) (g : ChangedFile × List ChangedUnit) : Prop :=
  ∃ start w', w.Onward start ∧ Pull.changedUnits c g.1 start = .ok g.2 w'

theorem Seen.earlier {c : PullContext} {w w₁ : World} {g : ChangedFile × List ChangedUnit} (hw : w.Onward w₁)
    (h : Seen c w₁ g) : Seen c w g := by
  obtain ⟨start, w', hstart, hrun⟩ := h
  exact ⟨start, w', hw.trans hstart, hrun⟩

theorem prepareBy_of_removed {σ : Type} (h : Crew σ) {f : ChangedFile} (hf : (f.status == .str "removed") = true) :
    prepareBy h f = pure none := by
  rw [prepareBy, if_pos hf]

theorem prepareBy_of_kept {σ : Type} (h : Crew σ) {f : ChangedFile} (hf : (f.status == .str "removed") = false) :
    prepareBy h f = (do return toReview f (← h.units f)) := by
  rw [prepareBy, hf, if_neg Bool.false_ne_true]

/-- Every file that was not removed is prepared with the units that are found of it. -/
theorem prepareAllBy_accounts (files : List ChangedFile) (w : World) :
    ∃ ds found w', prepareAllBy (crew c) files w = .ok (found.filterMap fun g => toReview g.1 g.2) w' ∧
      Accounts (prepareAllBy (crew c).journaled files) (prepareAllBy (crew c) files) w ds ∧
      Tells c ds found [] ∧ found.map (·.1) = files.filter (fun f => !(f.status == .str "removed")) ∧
      (∀ g ∈ found, Seen c w g) ∧ w.Onward w' := by
  induction files generalizing w with
  | nil => exact ⟨[], [], w, rfl, .pure [] w, .nil c, rfl, List.forall_mem_nil _, .refl w⟩
  | cons f fs ih =>
      rw [prepareAllBy, prepareAllBy]
      cases hremoved : f.status == .str "removed" with
      | true =>
          rw [prepareBy_of_removed _ hremoved, prepareBy_of_removed _ hremoved]
          obtain ⟨ds, found, w', hrun, haccounts, htells, hfiles, hseen, honward⟩ := ih w
          refine ⟨ds, found, w', bind_of_ok hrun, ?_, htells, ?_, hseen, honward⟩
          · exact haccounts.bind_quiet fun _ w₁ => .pure _ w₁
          · rw [List.filter_cons, hremoved]
            exact hfiles
      | false =>
          rw [prepareBy_of_kept _ hremoved, prepareBy_of_kept _ hremoved]
          obtain ⟨us, w₁, hunits⟩ := units_ok c f w
          obtain ⟨ds, found, w', hrun, haccounts, htells, hfiles, hseen, honward⟩ := ih w₁
          have hfirst : w.Onward w₁ := (Pull.changedUnits_moves c f).of_ok hunits
          have hprepare : (do return toReview f (← (crew c).units f) : Session _) w = .ok (toReview f us) w₁ :=
            bind_of_ok hunits
          have hnoted : Accounts (do return toReview f (← (crew c).journaled.units f))
              (do return toReview f (← (crew c).units f)) w [.units f w (.ok us w₁)] := by
            rw [← hunits]
            exact (units_accounts c f w).bind_quiet fun _ w₂ => .pure _ w₂
          refine ⟨[.units f w (.ok us w₁)] ++ ds, (f, us) :: found, w', ?_, ?_, ?_, ?_, ?_, hfirst.trans honward⟩
          · rw [bind_of_ok hprepare, bind_of_ok hrun, pure_apply, List.filterMap_cons]
            cases toReview f us <;> rfl
          · exact hnoted.bind hprepare (haccounts.bind_quiet fun _ w₂ => .pure _ w₂)
          · exact (Tells.of_units hunits).append htells
          · rw [List.map_cons, hfiles, List.filter_cons, hremoved]
            rfl
          · exact List.forall_mem_cons.2 ⟨⟨w, w₁, .refl w, hunits⟩, fun g hg => (hseen g hg).earlier hfirst⟩

end

/-! ## The comments on a file -/

/-- Whether there is something to review in the units of a file: there are some, and one of
them has code after the change unless the file was added. -/
def reviewable (f : ChangedFile) (us : List ChangedUnit) : Bool :=
  !us.isEmpty && (us.any (·.afterCode.truthy) || f.status == .str "added")

/-- The comments on a file with some units: all findings on its units, if there is something
to review and every unit was reviewed. -/
def comments (answer : Text → Except Fault (Option (List Finding))) (f : ChangedFile) (us : List ChangedUnit) :
    List Finding :=
  if reviewable f us then Review.fileFindings answer { file := f, units := us } else []

section

variable {answer answer' : Text → Except Fault (Option (List Finding))} {f : ChangedFile} {us : List ChangedUnit}

theorem toReview_eq (f : ChangedFile) (us : List ChangedUnit) : toReview f us =
    if reviewable f us then some { file := f, content := (afterCode? us).getD .null, units := us } else none := by
  have hcode : (afterCode? us).isNone = !us.any (·.afterCode.truthy) := by
    rw [afterCode?, ← Option.not_isSome, List.isSome_find?, List.any_map]
    rfl
  have hcond : (us.isEmpty || (afterCode? us).isNone && f.status != .str "added") = !reviewable f us := by
    rw [hcode, reviewable, bne]
    cases us.isEmpty <;> cases us.any (·.afterCode.truthy) <;> cases f.status == .str "added" <;> rfl
  simp only [toReview, hcond]
  cases reviewable f us <;> rfl

theorem toReview_eq_some {p : FileToReview} (h : toReview f us = some p) : us ≠ [] ∧ f = p.file := by
  rw [toReview_eq] at h
  split at h
  next hreview =>
    cases h
    refine ⟨?_, rfl⟩
    rintro rfl
    cases hreview
  next => cases h

theorem ne_nil_of_comments (h : comments answer f us ≠ []) : us ≠ [] := by
  rintro rfl
  exact h rfl

/-- Only the answers to the prompts for the units of a file matter. -/
theorem comments_congr (h : ∀ u ∈ us, ∀ prompt, Review.unitPrompt f.name u false .null = .ok prompt →
    answer prompt = answer' prompt) : comments answer f us = comments answer' f us := by
  have hunit : ∀ u ∈ us, Review.unitFindings? answer { file := f, units := us } u =
      Review.unitFindings? answer' { file := f, units := us } u := by
    intro u hu
    unfold Review.unitFindings?
    cases hprompt : Review.unitPrompt f.name u false .null with
    | error e => rfl
    | ok prompt =>
        exact congrArg (fun r : Except Fault (Option (List Finding)) => r.toOption.bind id) (h u hu prompt hprompt)
  unfold comments Review.fileFindings
  rw [Review.mapM_congr hunit]

/-- What is found on the files that are reviewed, file by file. -/
theorem attempts_eq (found : List (ChangedFile × List ChangedUnit)) :
    ((found.filterMap fun g => toReview g.1 g.2).map fun p => (p.file.name, Review.fileFindings answer p)).flatMap
        (fun r => r.2.map (r.1, ·)) =
      found.flatMap fun g => (comments answer g.1 g.2).map (g.1.name, ·) := by
  induction found with
  | nil => rfl
  | cons g gs ih =>
      rw [List.filterMap_cons, List.flatMap_cons, toReview_eq, comments]
      cases reviewable g.1 g.2 with
      | false => exact ih
      | true =>
          rw [← ih]
          rfl

/-- The files that are reviewed are among those whose units were found. -/
theorem prepared_names (found : List (ChangedFile × List ChangedUnit)) :
    ((found.filterMap fun g => toReview g.1 g.2).map (·.file.name)).Sublist (found.map (·.1.name)) := by
  induction found with
  | nil => exact .slnil
  | cons g gs ih =>
      rw [List.filterMap_cons, List.map_cons, toReview_eq]
      cases reviewable g.1 g.2 with
      | false => exact ih.cons _
      | true => exact ih.cons_cons _

end

/-! ## A whole review -/

section

variable {c : PullContext} {answer : Text → Except Fault (Option (List Finding))} {w : World}
  {files : List ChangedFile}

theorem reviewing_of_gives {α : Type} {x : Review.Asking α} {r : α} (hx : Review.Gives answer x (some r))
    (hw : w.reviewer.Consults answer) : ∃ w', reviewing x w = .ok r w' := by
  obtain ⟨o, a, hrun, -, ho⟩ := hx w.reviewer hw
  cases o with
  | error e => cases ho
  | ok r' =>
      cases ho
      refine ⟨{ w with reviewer := a }, ?_⟩
      rw [reviewing, attempt_eq_ok.1 hrun]

theorem reviewing_accounts {α : Type} (x : Review.Asking α) (w : World) :
    Accounts (silent (reviewing x)) (reviewing x) w [] := by
  have hwithin : Within [] (reviewing x) := Within.reviewing x
  refine .silent (fun w => ?_) w
  obtain ⟨new, hlog, hnew⟩ := hwithin.makes w
  exact ⟨new, hlog, fun r hr => absurd (hnew r hr) List.not_mem_nil⟩

theorem Seen.named {g : ChangedFile × List ChangedUnit} (h : Seen c w g) (hsome : g.2 ≠ []) :
    ∃ name, g.1.name = .str name := by
  obtain ⟨start, w', -, hrun⟩ := h
  exact Pull.changedUnits_named c g.1 start g.2 w' hrun hsome

/-- When the files are known, a review looks for their units and attempts to post the
comments on them. -/
theorem journaledPull_accounts {w' : World} (hw : w.reviewer.Consults answer)
    (hfiles : Pull.changedFiles c w = .ok files w') (hnames : (files.map (·.name)).Nodup) :
    ∃ ds found, Accounts (journaledPull c) (reviewPull c) w ds ∧
      Tells c ds found (found.flatMap fun g => (comments answer g.1 g.2).map (g.1.name, ·)) ∧
      found.map (·.1) = files.filter (fun f => !(f.status == .str "removed")) ∧ ∀ g ∈ found, Seen c w g := by
  have hlisted : w.Onward w' := (Pull.changedFiles_moves c).of_ok hfiles
  obtain ⟨ds, found, w₁, hprepare, haccounts, htells, hkept, hseen, honward⟩ := prepareAllBy_accounts c files w'
  have hnamed : ∀ p ∈ found.filterMap fun g => toReview g.1 g.2, ∃ name, p.file.name = .str name := by
    intro p hp
    obtain ⟨g, hg, hprepared⟩ := List.mem_filterMap.1 hp
    obtain ⟨hsome, hfile⟩ := toReview_eq_some hprepared
    exact hfile ▸ (hseen g hg).named hsome
  have hnodup : ((found.filterMap fun g => toReview g.1 g.2).map (·.file.name)).Nodup := by
    have hsub : (found.map (·.1.name)).Sublist (files.map (·.name)) := by
      have hmap : found.map (·.1.name) = (found.map (·.1)).map (·.name) := List.map_map.symm
      rw [hmap, hkept]
      exact List.filter_sublist.map _
    exact ((prepared_names found).trans hsub).nodup hnames
  have hconsults : w₁.reviewer.Consults answer := by
    rw [honward.reviewer_eq, hlisted.reviewer_eq]
    exact hw
  obtain ⟨w₂, hreview⟩ := reviewing_of_gives (Review.reviewFiles_gives hnamed hnodup) hconsults
  obtain ⟨posts, w₃, -, haccounts', htells'⟩ := postResultsBy_accounts c _ w₂
  rw [attempts_eq] at htells'
  refine ⟨ds ++ posts, found, ?_, ?_, hkept, fun g hg => (hseen g hg).earlier hlisted⟩
  · rw [reviewPull_eq]
    exact (silent_accounts (Pull.changedFiles_moves c) w).bind hfiles (haccounts.bind hprepare
      ((reviewing_accounts _ w₁).bind hreview haccounts'))
  · have h := htells.append htells'
    rwa [List.append_nil, List.nil_append] at h

end

/-- The world in which a review begins, with its label put on as far as possible. -/
def labelled (c : PullContext) (w : World) : World := after (Pull.manageLabels c opening (.arr [review.label])) w

section

variable {c : PullContext} {w : World} {y : EStateM Fault (World × List Deed) Unit} {body : Session Unit}
  {entries : List Deed}

theorem labels_accounts (add remove : Json) (w : World) :
    Accounts ((quietOffice c).manageLabels add remove) ((office c).manageLabels add remove) w [] :=
  silent_accounts (Pull.manageLabels_moves c add remove) w

theorem comment_accounts (text : Json) (w : World) :
    Accounts ((quietOffice c).postComment text) ((office c).postComment text) w [] :=
  silent_accounts (Pull.postComment_moves c text) w

theorem labelled_run (c : PullContext) (w : World) :
    ∃ opened, Pull.manageLabels c opening (.arr [review.label]) w = .ok opened (labelled c w) := by
  obtain ⟨opened, w', hrun⟩ : ∃ opened w', Pull.manageLabels c opening (.arr [review.label]) w = .ok opened w' :=
    recover_ok _ _ w
  exact ⟨opened, by rw [labelled, after_of_ok hrun, hrun]⟩

theorem supervise_accounts (hbody : Accounts y body (labelled c w) entries) :
    Accounts (supervise (quietOffice c) review y) (supervise (office c) review body) w entries := by
  obtain ⟨opened, hopen⟩ := labelled_run c w
  have hperform : Accounts (perform (quietOffice c) review y) (perform (office c) review body) w entries :=
    (labels_accounts _ _ w).discard.bind (discard_of_ok hopen) hbody
  have hclose : ∀ w, Accounts (close (quietOffice c)) (close (office c)) w [] := fun w =>
    (labels_accounts _ _ w).discard
  refine hperform.attempt.bind_quiet fun outcome w₁ => ?_
  cases outcome with
  | ok a =>
      exact (hclose w₁).bind_quiet fun _ w₂ => (comment_accounts _ w₂).bind_quiet fun _ w₃ => .pure a w₃
  | error e =>
      refine (comment_accounts _ w₁).attempt.bind_quiet fun told w₂ => (hclose w₂).bind_quiet fun _ w₃ => ?_
      cases told with
      | ok _ => exact .throw e w₃
      | error e' => exact .throw e' w₃

theorem deeds_eq (h : Accounts (journaledReview c) (handleReview c) w entries) : deeds c w = entries := by
  unfold deeds
  rw [h.enters []]
  cases handleReview c w <;> rfl

end

/-! ## What is attempted on a file -/

/-- A review of files with different names can begin, and its reviewer answers every prompt
in one way. -/
structure Listed (c : PullContext) (answer : Text → Except Fault (Option (List Finding))) (w : World) : Prop where
  consults : w.reviewer.Consults answer
  listed : ∃ files w', Pull.changedFiles c (labelled c w) = .ok files w'
  nodup : (w.forge.files.map (·.name)).Nodup

section

variable {c : PullContext} {answer answer' : Text → Except Fault (Option (List Finding))} {w w' : World}
  {f : ChangedFile}

theorem labelled_onward (c : PullContext) (w : World) : w.Onward (labelled c w) := by
  obtain ⟨opened, hrun⟩ := labelled_run c w
  exact (Pull.manageLabels_moves c _ _).of_ok hrun

theorem deeds_tell (h : Listed c answer w) :
    Accounts (journaledReview c) (handleReview c) w (deeds c w) ∧
      Tells c (deeds c w) (gathered c w)
        ((gathered c w).flatMap fun g => (comments answer g.1 g.2).map (g.1.name, ·)) ∧
      (gathered c w).map (·.1) = w.forge.files.filter (fun f => !(f.status == .str "removed")) ∧
      ∀ g ∈ gathered c w, Seen c w g := by
  have honward := labelled_onward c w
  obtain ⟨files, w', hfiles⟩ := h.listed
  obtain rfl : files = w.forge.files := (Pull.changedFiles_eq_ok c hfiles).trans honward.forge.files_eq
  have hconsults : (labelled c w).reviewer.Consults answer := by
    rw [honward.reviewer_eq]
    exact h.consults
  obtain ⟨ds, found, hbody, htells, hkept, hseen⟩ := journaledPull_accounts hconsults hfiles h.nodup
  have haccounts : Accounts (journaledReview c) (handleReview c) w ds := supervise_accounts hbody
  have hgathered : gathered c w = found := by rw [gathered, deeds_eq haccounts, htells.units]
  rw [deeds_eq haccounts, hgathered]
  exact ⟨haccounts, htells, hkept, fun g hg => (hseen g hg).earlier honward⟩

/-- A list whose members give nothing but for one. -/
theorem flatMap_of_mem {α β : Type} {l : List α} {F : α → List β} {a : α} (hl : l.Nodup) (ha : a ∈ l)
    (h : ∀ b ∈ l, b ≠ a → F b = []) : l.flatMap F = F a := by
  obtain ⟨l₁, l₂, rfl⟩ := List.append_of_mem ha
  have hne : ∀ b ∈ l₁ ++ l₂, b ≠ a := by
    rintro b hb rfl
    exact (List.nodup_middle.1 hl).notMem hb
  have h₁ : l₁.flatMap F = [] := List.flatMap_eq_nil_iff.2 fun b hb =>
    h b (List.mem_append_left _ hb) (hne b (List.mem_append_left _ hb))
  have h₂ : l₂.flatMap F = [] := List.flatMap_eq_nil_iff.2 fun b hb =>
    h b (List.mem_append_right _ (List.mem_cons_of_mem a hb)) (hne b (List.mem_append_right _ hb))
  rw [List.flatMap_append, List.flatMap_cons, h₁, h₂, List.nil_append, List.append_nil]

theorem gathered_names (h : Listed c answer w) : ((gathered c w).map (·.1.name)).Nodup := by
  obtain ⟨-, -, hkept, -⟩ := deeds_tell h
  have hmap : (gathered c w).map (·.1.name) = ((gathered c w).map (·.1)).map (·.name) := List.map_map.symm
  rw [hmap, hkept]
  exact (List.filter_sublist.map _).nodup h.nodup

theorem mem_gathered_iff (h : Listed c answer w) (hf : f ∈ w.forge.files) :
    (∃ us, (f, us) ∈ gathered c w) ↔ (f.status == .str "removed") = false := by
  obtain ⟨-, -, hkept, -⟩ := deeds_tell h
  have hmem : f ∈ (gathered c w).map (·.1) ↔ (f.status == .str "removed") = false := by
    rw [hkept, List.mem_filter, Bool.not_eq_true']
    exact and_iff_right hf
  rw [← hmem, List.mem_map]
  exact ⟨fun ⟨us, hus⟩ => ⟨(f, us), hus, rfl⟩, fun ⟨g, hg, heq⟩ => ⟨g.2, heq ▸ hg⟩⟩

theorem eq_of_name_eq (h : Listed c answer w) (hf : f ∈ w.forge.files) {g : ChangedFile × List ChangedUnit}
    (hg : g ∈ gathered c w) (hname : g.1.name = f.name) : g.1 = f := by
  obtain ⟨-, -, hkept, -⟩ := deeds_tell h
  have hfile : g.1 ∈ w.forge.files := by
    have hmem : g.1 ∈ (gathered c w).map (·.1) := List.mem_map_of_mem hg
    rw [hkept] at hmem
    exact (List.mem_filter.1 hmem).1
  exact List.inj_on_of_nodup_map h.nodup hfile hf hname

/-- Comments on a file are not posted under the name of another. -/
theorem filter_comments_of_ne {g : ChangedFile × List ChangedUnit} (hseen : Seen c w g) (hne : g.1.name ≠ f.name) :
    ((comments answer g.1 g.2).map (g.1.name, ·)).filter (·.1 == f.name) = [] := by
  rw [List.filter_eq_nil_iff]
  intro a ha hsame
  obtain ⟨x, hx, rfl⟩ := List.mem_map.1 ha
  obtain ⟨name, hname⟩ := hseen.named (ne_nil_of_comments (List.ne_nil_of_mem hx))
  rw [hname] at hne hsame
  exact hne (Json.eq_str_of_beq (.inr hsame)).symm

theorem filter_comments_self {us : List ChangedUnit} (hseen : Seen c w (f, us)) :
    ((comments answer f us).map (f.name, ·)).filter (·.1 == f.name) = (comments answer f us).map (f.name, ·) := by
  rw [List.filter_eq_self]
  intro a ha
  obtain ⟨x, hx, rfl⟩ := List.mem_map.1 ha
  obtain ⟨name, hname⟩ : ∃ name, f.name = .str name := hseen.named (ne_nil_of_comments (List.ne_nil_of_mem hx))
  rw [hname, Json.str_beq_self]

/-- What is attempted on a file are the comments on it. -/
theorem attempted_on (h : Listed c answer w) {us : List ChangedUnit} (hus : (f, us) ∈ gathered c w) :
    (attempted c w).filter (·.1 == f.name) = (comments answer f us).map (f.name, ·) := by
  obtain ⟨-, htells, -, hseen⟩ := deeds_tell h
  rw [attempted, htells.posts, List.filter_flatMap, ← filter_comments_self (hseen _ hus)]
  refine flatMap_of_mem (a := (f, us)) (gathered_names h).of_map hus fun g hg hne => ?_
  refine filter_comments_of_ne (hseen g hg) fun hname => hne ?_
  exact List.inj_on_of_nodup_map (gathered_names h) hg hus hname

theorem attempted_on_removed (h : Listed c answer w) (hf : f ∈ w.forge.files)
    (hremoved : (f.status == .str "removed") = true) : (attempted c w).filter (·.1 == f.name) = [] := by
  obtain ⟨-, htells, -, hseen⟩ := deeds_tell h
  rw [attempted, htells.posts, List.filter_flatMap, List.flatMap_eq_nil_iff]
  intro g hg
  refine filter_comments_of_ne (hseen g hg) fun hname => ?_
  have hkept := (mem_gathered_iff h hf).1 ⟨g.2, eq_of_name_eq h hf hg hname ▸ hg⟩
  rw [hremoved] at hkept
  cases hkept

/-- Whoever sees the same of a file finds the same units in it. -/
theorem units_eq {us us' : List ChangedUnit} {T : Text → Prop} (hsame : World.SameFor f.name T w w')
    (h : Seen c w (f, us)) (h' : Seen c w' (f, us')) : us = us' := by
  obtain ⟨start, _, hstart, hrun⟩ := h
  obtain ⟨start', _, hstart', hrun'⟩ := h'
  exact (Pull.changedUnits_tracks c f).result_eq ((World.fileView f.name T).lasting hsame hstart hstart') hrun hrun'

/-- A review attempts to post exactly the comments on the files that were not removed, file
by file and unit by unit, each once, and no other comment is posted on a line.  Which of the
attempts fail makes no difference.  What is attempted on a file depends only on what can be
seen of the file and on the answers to the prompts for its units: it is the same in two
reviews that differ in other files. -/
theorem review_attempts_comments (h : Listed c answer w) :
    Accounts (journaledReview c) (handleReview c) w (deeds c w) ∧ (∀ d ∈ deeds c w, d.Genuine c) ∧
      (gathered c w).map (·.1) = w.forge.files.filter (fun f => !(f.status == .str "removed")) ∧
      attempted c w = ((gathered c w).flatMap fun g => (comments answer g.1 g.2).map (g.1.name, ·)) ∧
      ∀ answer' w', Listed c answer' w' → ∀ f ∈ w.forge.files, f ∈ w'.forge.files → ∀ T,
        World.SameFor f.name T w w' →
        (∀ us, (f, us) ∈ gathered c w → ∀ u ∈ us, ∀ prompt,
          Review.unitPrompt f.name u false .null = .ok prompt → answer prompt = answer' prompt) →
        (attempted c w).filter (·.1 == f.name) = (attempted c w').filter (·.1 == f.name) := by
  obtain ⟨haccounts, htells, hkept, hseen⟩ := deeds_tell h
  refine ⟨haccounts, htells.genuine, hkept, htells.posts, ?_⟩
  intro answer' w' h' f hf hf' T hsame hanswers
  cases hremoved : f.status == .str "removed" with
  | true => rw [attempted_on_removed h hf hremoved, attempted_on_removed h' hf' hremoved]
  | false =>
      obtain ⟨us, hus⟩ := (mem_gathered_iff h hf).2 hremoved
      obtain ⟨us', hus'⟩ := (mem_gathered_iff h' hf').2 hremoved
      obtain ⟨-, -, -, hseen'⟩ := deeds_tell h'
      obtain rfl := units_eq hsame (hseen _ hus) (hseen' _ hus')
      rw [attempted_on h hus, attempted_on h' hus', comments_congr (hanswers us hus)]

end

/-- What the reviewer of the following files always says. -/
def wrongSign : Finding where
  path := "a.py"
  line := 2
  category := "Bug"
  severity := "High"
  description := "The sign is wrong."
  suggestion := "Negate it."
  side := "RIGHT"

def changedSign (name : String) : ChangedFile where
  name := .str name
  patch := .str "@@ -1,2 +1,2 @@\n def f():\n-    a\n+    b"

/-- A pull request that changes one line in each of some files.  Two of them are there. -/
def signs (names : List String) (outage : Nat → Request → Option String) : World where
  forge :=
    { files := names.map changedSign
      branches := ["base", "head"].map fun branch =>
        (branch, ["a.py", "b.py"].map fun name => (name, .text "def f():\n    b\n".toList))
      outage := outage }
  reviewer := Advisor.constant (.ok (some [wrongSign]))
  refiner := Advisor.constant (.ok (.json .null))
  parsers := Outline.Parsers.sound
  formatter := Formatter.absent

/-- Every second comment on a line is refused. -/
def refusing (count : Nat) : Request → Option String
  | .lineComment .. => if count % 2 = 0 then some "down" else none
  | _ => none

def losing (_ : Nat) : Request → Option String
  | .contents path _ => if path == .str "b.py" then some "gone" else none
  | _ => none

theorem signs_listed {names : List String} {outage : Nat → Request → Option String} (hnames : names.Nodup)
    (hrun : (match Pull.changedFiles firstPull (labelled firstPull (signs names outage)) with
      | .ok _ _ => true
      | .error _ _ => false) = true) :
    Listed firstPull (fun _ => .ok (some [wrongSign])) (signs names outage) := by
  refine ⟨fun _ _ => rfl, ?_, ?_⟩
  · cases h : Pull.changedFiles firstPull (labelled firstPull (signs names outage)) with
    | ok files w => exact ⟨files, w, rfl⟩
    | error e w =>
        rw [h] at hrun
        cases hrun
  · rw [signs, List.map_map]
    exact hnames.map fun _ _ heq => Json.str.inj heq

theorem signs_same : World.SameFor (.str "a.py") (fun _ => True) (signs ["a.py", "b.py"] refusing)
    (signs ["c.py", "a.py", "b.py"] losing) where
  head := rfl
  base := rfl
  entry _ := rfl
  outage m n r hr := by
    cases r with
    | contents p branch =>
        obtain rfl : p = .str "a.py" := hr
        rfl
    | lineComment => exact hr.elim
    | _ => rfl
  text _ _ _ _ _ := trivial
  parsers := ⟨fun _ _ _ => rfl, fun _ _ _ _ _ => rfl⟩

/-- On a file that is there the same is attempted whether comments are refused, or another
file is lost and one is added. -/
theorem review_attempts_comments_signs :
    (attempted firstPull (signs ["a.py", "b.py"] refusing)).map (fun a => (a.1.str?, a.2)) =
        [(some "a.py", wrongSign), (some "b.py", wrongSign)] ∧
      (attempted firstPull (signs ["a.py", "b.py"] refusing)).filter (·.1 == .str "a.py") =
        (attempted firstPull (signs ["c.py", "a.py", "b.py"] losing)).filter (·.1 == .str "a.py") := by
  have hfirst : Listed firstPull _ (signs ["a.py", "b.py"] refusing) :=
    signs_listed (by decide) (by decide +kernel)
  have hsecond : Listed firstPull _ (signs ["c.py", "a.py", "b.py"] losing) :=
    signs_listed (by decide) (by decide +kernel)
  have hmem : ∀ {names : List String} {outage}, "a.py" ∈ names →
      changedSign "a.py" ∈ (signs names outage).forge.files := List.mem_map_of_mem
  refine ⟨by decide +kernel, ?_⟩
  obtain ⟨-, -, -, -, hsame⟩ := review_attempts_comments hfirst
  exact hsame _ _ hsecond (changedSign "a.py") (hmem (by decide)) (hmem (by decide)) _ signs_same
    fun _ _ _ _ _ _ => rfl

end Redline.Desk
