import Redline.Proofs.Forge.Requests
import Redline.Proofs.Refine.Steps
import Redline.Desk.Handlers

/-!
# What operations leave alone

Apart from those that manage labels, all operations on a pull request change the
site in one way: requests are logged, and the branches may be others afterwards if
there are edits among the requests.  The labels, the comments and the outages stay
as they are.  `Within` says so of an operation and names the kinds of requests that
it makes.  It is shown here for every operation, one after the other, by the parts
that the operation is put together from.
-/

namespace Redline

namespace Forge

/-- The kinds of requests. -/
inductive Request.Kind where
  | look
  | lookup
  | word
  /-- Branches, files or pull requests are written. -/
  | edit
  /-- A label is put on or taken off. -/
  | label
  | mark
deriving DecidableEq, Repr

def Request.kind : Request → Request.Kind
  | .installation _ | .repository _ | .pull .. | .contents .. | .labels | .remarks | .reactions _
  | .files | .commits => .look
  | .remark _ => .lookup
  | .comment _ | .lineComment .. => .word
  | .createRef .. | .updateFile .. | .createFile .. | .createPull .. => .edit
  | .addLabel _ | .removeLabel _ => .label
  | .mark .. => .mark

/-- The site with more requests logged and other branches. -/
def grown (f : Forge) (new : List Request) (branches : List (String × Branch)) : Forge :=
  { f with log := f.log ++ new, branches := branches }

theorem grown_grown (f : Forge) (new more : List Request) (branches branches' : List (String × Branch)) :
    (f.grown new branches).grown more branches' = f.grown (new ++ more) branches' := by
  simp only [grown, List.append_assoc]

/-- A change by a request of a kind, which concerns the branches only, and not even
them if the request is no edit. -/
def InBranches (kind : Request.Kind) (change : Forge → Forge) : Prop :=
  ∀ f, ∃ branches, change f = { f with branches := branches } ∧ (kind ≠ .edit → branches = f.branches)

theorem inBranches_id {kind : Request.Kind} : InBranches kind id := fun f => ⟨f.branches, rfl, fun _ => rfl⟩

theorem inBranches_addBranch (name : String) (source : Json) : InBranches .edit (·.addBranch name source) :=
  fun _ => ⟨_, rfl, fun hne => absurd rfl hne⟩

theorem inBranches_setText (path : Json) (branch : String) (content : Json) :
    InBranches .edit (·.setText path branch content) := by
  intro f
  simp only [setText]
  split
  next => exact ⟨_, rfl, fun hne => absurd rfl hne⟩
  next => exact ⟨f.branches, rfl, fun _ => rfl⟩

end Forge

open Forge (Request grown)

namespace Session

section

variable {α β : Type} {ks : List Request.Kind} {x : Session α} {f : α → Session β}

theorem after_attempt {w : World} : after (attempt x) w = after x w := by
  unfold after attempt
  cases x w <;> rfl

theorem attempt_ok (x : Session α) (w : World) : ∃ outcome, attempt x w = .ok outcome (after x w) := by
  unfold attempt after
  cases x w with
  | ok a w' => exact ⟨.ok a, rfl⟩
  | error e w' => exact ⟨.error e, rfl⟩

/-- An operation makes only requests of some kinds, and changes nothing at the site
but the branches, and these only by edits. -/
def Within (ks : List Request.Kind) (x : Session α) : Prop :=
  ∀ w, ∃ new branches, (∀ r ∈ new, r.kind ∈ ks) ∧ (after x w).forge = w.forge.grown new branches ∧
    ((∀ r ∈ new, r.kind ≠ .edit) → branches = w.forge.branches)

namespace Within

/-- An operation that has nothing to do with the site. -/
theorem of_forge_eq (h : ∀ w, (after x w).forge = w.forge) : Within ks x := fun w =>
  ⟨[], w.forge.branches, fun r hr => absurd hr List.not_mem_nil, by rw [h, grown, List.append_nil], fun _ => rfl⟩

theorem pure (a : α) : Within ks (Pure.pure a : Session α) := of_forge_eq fun _ => rfl

theorem throw (e : Fault) : Within ks (MonadExcept.throw e : Session α) := of_forge_eq fun _ => rfl

theorem forge : Within ks Session.forge := of_forge_eq fun _ => rfl

theorem lift (y : Except Fault α) : Within ks (Redline.lift y : Session α) :=
  of_forge_eq fun w => by cases y <;> rfl

theorem reading (y : Outline.Reading α) : Within ks (Session.reading y) := of_forge_eq fun w => by
  unfold after Session.reading
  cases y w.parsers <;> rfl

theorem reviewing (y : Review.Asking α) : Within ks (Session.reviewing y) := of_forge_eq fun w => by
  unfold after Session.reviewing
  cases y w.reviewer <;> rfl

theorem bind (hx : Within ks x) (hf : ∀ a, Within ks (f a)) : Within ks (x >>= f) := by
  intro w
  obtain ⟨new, branches, hnew, hforge, hsame⟩ := hx w
  cases hrun : x w with
  | error e w₁ =>
      rw [after_of_error hrun] at hforge
      rw [after_bind_of_error hrun]
      exact ⟨new, branches, hnew, hforge, hsame⟩
  | ok a w₁ =>
      obtain ⟨more, branches', hmore, hforge', hsame'⟩ := hf a w₁
      rw [after_of_ok hrun] at hforge
      rw [hforge] at hforge' hsame'
      rw [after_bind_of_ok hrun, hforge', Forge.grown_grown]
      refine ⟨new ++ more, branches', fun r hr => ?_, rfl, fun hnone => ?_⟩
      · rcases List.mem_append.1 hr with hr | hr
        · exact hnew r hr
        · exact hmore r hr
      · have hfirst := hsame fun r hr => hnone r (List.mem_append_left more hr)
        have hsecond := hsame' fun r hr => hnone r (List.mem_append_right new hr)
        exact hsecond.trans hfirst

theorem recover (hx : Within ks x) (fallback : α) : Within ks (Redline.recover fallback x) := by
  intro w
  rw [after_recover]
  exact hx w

theorem attempt (hx : Within ks x) : Within ks (Redline.attempt x) := by
  intro w
  rw [after_attempt]
  exact hx w

theorem send {r : Request} (hr : r.kind ∈ ks) {change : Forge → Forge} (hchange : Forge.InBranches r.kind change) :
    Within ks (Session.send r change) := by
  intro w
  have hsingle : ∀ q ∈ [r], q.kind ∈ ks := fun q hq => List.mem_singleton.1 hq ▸ hr
  cases h : w.forge.outage w.forge.log.length r with
  | some reason =>
      rw [after_of_error (send_of_some h)]
      exact ⟨[r], w.forge.branches, hsingle, rfl, fun _ => rfl⟩
  | none =>
      obtain ⟨branches, hbranches, hsame⟩ := hchange { w.forge with log := w.forge.log ++ [r] }
      rw [after_of_ok (send_of_none h)]
      exact ⟨[r], branches, hsingle, hbranches, fun hnone => hsame (hnone r List.mem_cons_self)⟩

/-- An operation within some kinds makes requests of these kinds only. -/
theorem makes (hx : Within ks x) : Makes (fun r => r.kind ∈ ks) x := by
  intro w
  obtain ⟨new, branches, hnew, hforge, -⟩ := hx w
  exact ⟨new, by rw [hforge, grown], hnew⟩

end Within

end

end Session

open Session

/-! ## Operations on a pull request -/

namespace Pull

variable {ks : List Request.Kind}

section

variable (hlook : Request.Kind.look ∈ ks) (c : PullContext)

include hlook

theorem open_within : Within ks (Pull.open c) :=
  (Within.send hlook Forge.inBranches_id).bind fun _ => (Within.lift _).bind fun _ =>
    (Within.send hlook Forge.inBranches_id).bind fun _ => Within.send hlook Forge.inBranches_id

theorem labels_within : Within ks labels :=
  (Within.send hlook Forge.inBranches_id).bind fun _ => Within.forge.bind fun _ => Within.lift _

theorem entry_within (path branch : Json) : Within ks (entry path branch) := by
  refine (Within.send hlook Forge.inBranches_id).bind fun _ => Within.forge.bind fun f => ?_
  cases f.entryAt path branch with
  | none => exact Within.throw _
  | some e => exact Within.pure e

theorem fileContent_within (path branch : Json) : Within ks (fileContent path branch) :=
  ((entry_within hlook path branch).bind fun _ => Within.pure _).recover none

theorem remarks_within : Within ks remarks :=
  (Within.send hlook Forge.inBranches_id).bind fun _ => Within.forge.bind fun _ => Within.pure _

theorem isSettled_within (r : Forge.Remark) : Within ks (isSettled r) := by
  refine Within.recover (Within.bind ?_ fun reactions => ?_) false
  · refine (Within.send hlook Forge.inBranches_id).bind fun _ => ?_
    cases r.reactions with
    | none => exact Within.throw _
    | some reactions => exact Within.pure reactions
  · split
    next => exact Within.pure true
    next => exact (remarks_within hlook).bind fun _ => Within.pure _

theorem unsettled_within (rs : List Forge.Remark) : Within ks (unsettled rs) := by
  induction rs with
  | nil => exact Within.pure []
  | cons r rs ih =>
      refine (isSettled_within hlook r).bind fun settled => ?_
      cases settled with
      | true => exact ih
      | false => exact (Within.lift _).bind fun _ => ih.bind fun _ => Within.pure _

theorem unresolved_within : Within ks (unresolved c) :=
  (open_within hlook c).bind fun _ => (remarks_within hlook).bind fun rs => unsettled_within hlook rs

theorem changedFiles_within : Within ks (changedFiles c) :=
  (open_within hlook c).bind fun _ => (Within.send hlook Forge.inBranches_id).bind fun _ =>
    Within.forge.bind fun _ => Within.pure _

theorem contentsOf_within (f : ChangedFile) : Within ks (contentsOf f) := by
  have hfile := fun branch => fileContent_within hlook f.name branch
  refine Within.forge.bind fun site => ?_
  dsimp only
  split
  next =>
    refine (Within.pure none).bind fun before => ?_
    split
    next => exact (Within.pure none).bind fun after => Within.pure (before, after)
    next => exact (hfile _).bind fun after => Within.pure (before, after)
  next =>
    refine (hfile _).bind fun before => ?_
    split
    next => exact (Within.pure none).bind fun after => Within.pure (before, after)
    next => exact (hfile _).bind fun after => Within.pure (before, after)

theorem changedUnits_within (f : ChangedFile) : Within ks (changedUnits c f) := by
  unfold changedUnits
  split
  next =>
    refine Within.recover ((open_within hlook c).bind fun _ => (contentsOf_within hlook f).bind fun sides => ?_) []
    obtain ⟨before, after⟩ := sides
    dsimp only
    split
    next => exact Within.reading _
    next => exact Within.pure []
  next => exact Within.pure []

end

section

variable (hlook : Request.Kind.look ∈ ks) (hword : Request.Kind.word ∈ ks) (c : PullContext)

include hlook hword

theorem postComment_within (body : Json) : Within ks (postComment c body) :=
  (open_within hlook c).bind fun _ => Within.send hword Forge.inBranches_id

theorem postLineComment_within (path line body side : Json) :
    Within ks (postLineComment c path line body side) := by
  refine (open_within hlook c).bind fun _ => (Within.send hlook Forge.inBranches_id).bind fun _ =>
    Within.forge.bind fun f => ?_
  cases f.commits.getLast? with
  | none => exact Within.throw _
  | some commit =>
      refine (Within.attempt (Within.send hword Forge.inBranches_id)).bind fun outcome => ?_
      cases outcome with
      | ok _ => exact Within.pure ()
      | error e => exact Within.throw _

/-- A commit looks at files, writes branches and files, and tells of it. -/
theorem commitChanges_within (hedit : Request.Kind.edit ∈ ks) (changes : List (Json × Json)) (message : Json) :
    Within ks (commitChanges c changes message) := by
  have hcreate : ∀ branch, Within ks (createBranch branch) := by
    intro branch
    refine Within.forge.bind fun f => Within.bind ?_ fun _ => ?_
    · exact Within.send hedit (Forge.inBranches_addBranch branch f.head.ref)
    · split
      next => exact Within.throw _
      next => exact Within.pure ()
  have hwrite : ∀ branch path content, Within ks (writeFile branch message path content) := by
    intro branch path content
    have hupdate : Within ks (updateFile branch message path content) :=
      (entry_within hlook path (.str branch)).bind fun e =>
        Within.send hedit (Forge.inBranches_setText path branch content)
    refine hupdate.attempt.bind fun outcome => ?_
    cases outcome with
    | ok _ => exact Within.pure true
    | error e =>
        have hcreate : Within ks (createFile branch message path content) :=
          Within.send hedit (Forge.inBranches_setText path branch content)
        exact (hcreate.bind fun _ => Within.pure true).recover false
  have hfiles : ∀ branch, Within ks (writeFiles branch message changes) := by
    intro branch
    induction changes with
    | nil => exact Within.pure _
    | cons change rest ih => exact (hwrite branch change.1 change.2).bind fun _ => ih.bind fun _ => Within.pure _
  have hoffer : ∀ branch target paths, Within ks (offer c branch target paths) := fun branch target paths =>
    (Within.send hedit Forge.inBranches_id).bind fun _ => Within.forge.bind fun _ =>
      postComment_within hlook hword c _
  refine ((open_within hlook c).bind fun _ => Within.forge.bind fun f => Within.forge.bind fun _ =>
    (Within.lift _).bind fun branch => (hcreate branch).bind fun _ =>
    (hfiles branch).bind fun (done, failed) => ?_).recover false
  dsimp only
  split
  next =>
    exact (Within.lift _).bind fun paths => ((hoffer branch f.head.ref paths).recover ()).bind fun _ =>
      Within.pure failed.isEmpty
  next => exact Within.pure failed.isEmpty

end

theorem resolve_within (hlook : Request.Kind.look ∈ ks) (hlookup : Request.Kind.lookup ∈ ks)
    (hmark : Request.Kind.mark ∈ ks) (c : PullContext) (ids : List Json) : Within ks (resolve c ids) := by
  have hway : ∀ r way, Within ks (markBy r way) := by
    intro r way
    refine Within.forge.bind fun f => ?_
    cases offers f r way with
    | none => exact Within.pure false
    | some works =>
        refine ((Within.send hmark Forge.inBranches_id).bind fun _ => ?_).recover false
        cases works with
        | false => exact Within.throw _
        | true => exact Within.pure true
  have hfirst : ∀ r ways, Within ks (markFirst r ways) := by
    intro r ways
    induction ways with
    | nil => exact Within.pure ()
    | cons way rest ih =>
        refine (hway r way).bind fun marked => ?_
        cases marked with
        | false => exact ih
        | true => exact Within.pure ()
  have hremark : ∀ id, Within ks (remark id) := by
    intro id
    refine (Within.send hlookup Forge.inBranches_id).bind fun _ => Within.forge.bind fun f => ?_
    cases f.remarks.find? fun r => r.id == .int id with
    | none => exact Within.throw _
    | some r => exact Within.pure r
  have hone : ∀ id, Within ks (resolveOne id) := fun id =>
    ((Within.lift _).bind fun n => (hremark n).bind fun r => hfirst r ways).recover ()
  refine (open_within hlook c).bind fun _ => ?_
  induction ids with
  | nil => exact Within.pure ()
  | cons id ids ih => exact (hone id).bind fun _ => ih

end Pull

/-! ## Refinement -/

namespace Refine

variable {ks : List Request.Kind}

theorem changes_within (path : Json) (code : Text) (requests : List Refine.Request) :
    Within ks (changes path code requests) := by
  refine ((Within.lift _).bind fun suggestions =>
    Within.bind (Within.of_forge_eq fun w => ?_) fun answer => ?_).recover none
  · rw [after_of_ok (askFor_apply _ w)]
    rfl
  · split
    next => exact Within.pure none
    next => exact (Within.lift _).bind fun r => Within.pure (some r)

theorem refineGroup_within (path : String) (content : Text) (d : Draft) (g : List Comment) :
    Within ks (refineGroup path content d g) := by
  cases g with
  | nil => exact Within.pure d
  | cons first rest =>
      refine (Within.reading _).bind fun excerpt => ?_
      cases excerpt with
      | none => exact Within.pure d
      | some e =>
          refine (changes_within _ _ _).bind fun response => ?_
          cases response with
          | none => exact Within.pure d
          | some r => exact (Within.lift _).bind fun p => Within.pure _

theorem refineText_within (path : String) (content : Text) (comments : List Comment) :
    Within ks (refineText path content comments) := by
  have hgroups : ∀ gs d, Within ks (refineGroups path content gs d) := by
    intro gs
    induction gs with
    | nil => exact fun d => Within.pure d
    | cons g gs ih => exact fun d => (refineGroup_within path content d g).bind fun d' => ih d'
  have hfinish : ∀ d, Within ks (finish d) := by
    intro d
    refine Within.bind (Within.of_forge_eq fun _ => rfl) fun formatter =>
      (Within.reading _).bind fun (result, p) => ?_
    dsimp only
    split
    next => exact Within.pure none
    next =>
      refine (Within.reading _).bind fun verdict => ?_
      split
      next => exact Within.pure none
      next => exact Within.pure _
  exact (Within.reading _).bind fun p => (Within.reading _).bind fun gs => (hgroups gs _).bind fun d => hfinish d

section

variable (hlook : Request.Kind.look ∈ ks) (c : PullContext)

include hlook

theorem refineFile_within (path : Json) (comments : List Comment) : Within ks (refineFile c path comments) := by
  refine ((Pull.open_within hlook c).bind fun _ => Within.forge.bind fun f =>
    (Pull.fileContent_within hlook path f.head.ref).bind fun text => ?_).recover none
  split
  next => exact refineText_within _ _ comments
  next => exact Within.pure none

/-- To refine files the site is only looked at. -/
theorem refineFiles_within (files : List (Json × List Comment)) (t : Tally) :
    Within ks (refineFiles c files t) := by
  induction files generalizing t with
  | nil => exact Within.pure t
  | cons file rest ih =>
      exact (refineFile_within hlook c file.1 file.2).bind fun r => ih (t.add file.1 r)

theorem postReport_within (hword : Request.Kind.word ∈ ks) (processed : List Json) (failed : List Failure)
    (skipped : List SkippedIn) : Within ks (postReport c processed failed skipped) :=
  (Pull.postComment_within hlook hword c _).recover ()

end

def kinds : List Request.Kind := [.look, .lookup, .word, .edit, .mark]

end Refine

/-! ## Review -/

namespace Desk

/-- The kinds of requests that a review makes. -/
def reviewKinds : List Request.Kind := [.look, .word]

/-- A review leaves the labels alone. -/
theorem reviewPull_within (c : PullContext) : Within reviewKinds (reviewPull c) := by
  have hprepare : ∀ files, Within reviewKinds (prepareAll c files) := by
    intro files
    induction files with
    | nil => exact Within.pure []
    | cons f fs ih =>
        refine Within.bind ?_ fun first => ih.bind fun rest => Within.pure _
        unfold prepare
        split
        next => exact Within.pure none
        next => exact (Pull.changedUnits_within (by decide) c f).bind fun units => Within.pure _
  have hfindings : ∀ path findings, Within reviewKinds (postFindings c path findings) := by
    intro path findings
    induction findings with
    | nil => exact Within.pure ()
    | cons f fs ih =>
        exact ((Pull.postLineComment_within (by decide) (by decide) c path _ _ _).recover ()).bind fun _ => ih
  have hresults : ∀ results, Within reviewKinds (postResults c results) := by
    intro results
    induction results with
    | nil => exact Within.pure ()
    | cons result rest ih => exact (hfindings result.1 result.2).bind fun _ => ih
  exact (Pull.changedFiles_within (by decide) c).bind fun files => (hprepare files).bind fun prepared =>
    (Within.reviewing _).bind fun results => hresults results

end Desk

end Redline
