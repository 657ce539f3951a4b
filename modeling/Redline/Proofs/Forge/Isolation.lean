import Mathlib.Data.List.Forall2
import Redline.Proofs.Forge.Writes
import Redline.Proofs.Refine.Lookups

/-!
# Commits keep to their branch

An *edit* is a request that makes a branch, a file or a pull request.  Which edits
succeed is told by the outages, so the edits between two moments and what came of
them can be read off the log (`Session.edits`).  A commit first makes a branch of its
own.  It then tries to write every file there, in order, and offers the branch if
anything was written.  `CommitCourse` lists what it may try, and all that is said of
a commit is read off that.
-/

namespace Redline

namespace Forge

/-- A request and whether it succeeded. -/
structure Trial where
  request : Request
  ok : Bool

/-- The edits among some requests, the first of which is made after a number of
others. -/
def edits (outage : Nat → Request → Option String) : Nat → List Request → List Trial
  | _, [] => []
  | count, r :: rs =>
      (if r.kind = .edit then [⟨r, (outage count r).isNone⟩] else []) ++ edits outage (count + 1) rs

theorem edits_append (outage : Nat → Request → Option String) (count : Nat) (rs rs' : List Request) :
    edits outage count (rs ++ rs') = edits outage count rs ++ edits outage (count + rs.length) rs' := by
  induction rs generalizing count with
  | nil => rfl
  | cons r rs ih =>
      simp only [List.cons_append, edits, ih, List.append_assoc, List.length_cons]
      rw [Nat.add_right_comm, Nat.add_assoc]

theorem edits_eq_nil {outage : Nat → Request → Option String} {count : Nat} {rs : List Request}
    (h : ∀ r ∈ rs, r.kind ≠ .edit) : edits outage count rs = [] := by
  induction rs generalizing count with
  | nil => rfl
  | cons r rs ih =>
      rw [edits, if_neg (h r List.mem_cons_self), ih fun r' hr' => h r' (List.mem_cons_of_mem r hr')]
      rfl

theorem edits_singleton {outage : Nat → Request → Option String} {count : Nat} {r : Request} (h : r.kind = .edit) :
    edits outage count [r] = [⟨r, (outage count r).isNone⟩] := by
  simp only [edits, if_pos h, List.append_nil]

end Forge

open Forge (Request Trial grown)

namespace Session

def edits (w w' : World) : List Trial :=
  Forge.edits w.forge.outage w.forge.log.length (w'.forge.log.drop w.forge.log.length)

/-- One world comes from another by requests with some edits among them, and apart
from the branches the site is as it was. -/
def Takes (w w' : World) (ts : List Trial) : Prop :=
  ∃ new, w'.forge = w.forge.grown new w'.forge.branches ∧ Forge.edits w.forge.outage w.forge.log.length new = ts

namespace Takes

variable {w w' w'' : World} {ts ts' : List Trial}

theorem refl (w : World) : Takes w w [] := ⟨[], by rw [grown, List.append_nil], rfl⟩

theorem trans (h : Takes w w' ts) (h' : Takes w' w'' ts') : Takes w w'' (ts ++ ts') := by
  obtain ⟨new, hforge, hnew⟩ := h
  obtain ⟨more, hforge', hmore⟩ := h'
  refine ⟨new ++ more, ?_, ?_⟩
  · rw [hforge', hforge, Forge.grown_grown]
    rfl
  · rw [Forge.edits_append, hnew]
    rw [hforge] at hmore
    simp only [grown, List.length_append] at hmore
    rw [hmore]

theorem nil_trans (h : Takes w w' []) (h' : Takes w' w'' ts) : Takes w w'' ts := h.trans h'

theorem trans_nil (h : Takes w w' ts) (h' : Takes w' w'' []) : Takes w w'' ts := by
  rw [← List.append_nil ts]
  exact h.trans h'

theorem edits_eq (h : Takes w w' ts) : edits w w' = ts := by
  obtain ⟨new, hforge, hnew⟩ := h
  rw [edits, hforge]
  simp only [grown, List.drop_left]
  exact hnew

theorem head_eq (h : Takes w w' ts) : w'.forge.head = w.forge.head := by
  obtain ⟨new, hforge, -⟩ := h
  rw [hforge]
  rfl

theorem refinementBranch_eq (h : Takes w w' ts) :
    Pull.refinementBranch w'.forge = Pull.refinementBranch w.forge := by
  obtain ⟨new, hforge, -⟩ := h
  exact Edited.refinementBranch_eq ⟨new, hforge, rfl⟩

end Takes

section

variable {α : Type} {ks : List Request.Kind} {x : Session α} {w w' : World}

/-- An operation that makes no edits takes none. -/
theorem Within.takes (h : Within ks x) (hks : Request.Kind.edit ∉ ks) (w : World) : Takes w (after x w) [] := by
  obtain ⟨new, branches, hkinds, hforge, -⟩ := h w
  rw [Takes, hforge]
  exact ⟨new, rfl, Forge.edits_eq_nil fun r hr heq => hks (heq ▸ hkinds r hr)⟩

theorem Within.takes_of_ok (h : Within ks x) (hks : Request.Kind.edit ∉ ks) {a : α} (hrun : x w = .ok a w') :
    Takes w w' [] := after_of_ok hrun ▸ h.takes hks w

theorem Within.takes_of_error (h : Within ks x) (hks : Request.Kind.edit ∉ ks) {e : Fault}
    (hrun : x w = .error e w') : Takes w w' [] := after_of_error hrun ▸ h.takes hks w

end

/-- An edit succeeds or fails. -/
theorem send_takes {r : Request} {change : Forge → Forge} (hr : r.kind = .edit)
    (hchange : Forge.InBranches .edit change) (w : World) :
    (∃ w', send r change w = .ok () w' ∧ Takes w w' [⟨r, true⟩]) ∨
      ∃ e w', send r change w = .error e w' ∧ Takes w w' [⟨r, false⟩] := by
  cases h : w.forge.outage w.forge.log.length r with
  | none =>
      obtain ⟨branches, hbranches, -⟩ := hchange { w.forge with log := w.forge.log ++ [r] }
      refine Or.inl ⟨_, send_of_none h, [r], ?_, ?_⟩
      · rw [hbranches]
        rfl
      · rw [Forge.edits_singleton hr, h]
        rfl
  | some reason =>
      refine Or.inr ⟨_, _, send_of_some h, [r], rfl, ?_⟩
      rw [Forge.edits_singleton hr, h]
      rfl

end Session

namespace Pull

open Session

/-! ## Writing files -/

/-- What is tried to write a file. -/
inductive Attempt (branch : String) (message path content : Json) : List Trial → Prop where
  | updated (digest : String) : Attempt branch message path content
      [⟨.updateFile path (fileMessage message "Update" path) content digest branch, true⟩]
  /-- It cannot be written over and is tried as a new one. -/
  | retried (digest : String) (ok : Bool) : Attempt branch message path content
      [⟨.updateFile path (fileMessage message "Update" path) content digest branch, false⟩,
        ⟨.createFile path (fileMessage message "Create" path) content branch, ok⟩]
  /-- It is not found and is tried as a new one. -/
  | created (ok : Bool) : Attempt branch message path content
      [⟨.createFile path (fileMessage message "Create" path) content branch, ok⟩]

def landed (ts : List Trial) : Bool := ts.any (·.ok)

section

variable {branch : String} {message path content : Json}

theorem Attempt.write_eq {ts : List Trial} (h : Attempt branch message path content ts) {t : Trial} (ht : t ∈ ts) :
    t.request.write? = some ⟨path, content, branch⟩ := by
  cases h with
  | updated digest => rw [List.mem_singleton.1 ht]; rfl
  | created ok => rw [List.mem_singleton.1 ht]; rfl
  | retried digest ok =>
      rcases List.mem_cons.1 ht with rfl | ht
      · rfl
      · rw [List.mem_singleton.1 ht]; rfl

theorem createFile_takes (branch : String) (message path content : Json) (w : World) :
    ∃ ok w', recover false (do createFile branch message path content; return true) w = .ok ok w' ∧
      Takes w w' [⟨.createFile path (fileMessage message "Create" path) content branch, ok⟩] := by
  rcases send_takes (r := .createFile path (fileMessage message "Create" path) content branch) rfl
    (Forge.inBranches_setText path branch content) w with ⟨w', hsend, htakes⟩ | ⟨e, w', hsend, htakes⟩
  · exact ⟨true, w', recover_of_ok (bind_of_ok hsend), htakes⟩
  · exact ⟨false, w', recover_of_error (bind_of_error hsend), htakes⟩

/-- A file that is found is written over if the request succeeds.  One that is not
found is not tried. -/
theorem updateFile_takes (branch : String) (message path content : Json) (w : World) :
    (∃ digest w', updateFile branch message path content w = .ok () w' ∧
      Takes w w' [⟨.updateFile path (fileMessage message "Update" path) content digest branch, true⟩]) ∨
    (∃ digest e w', updateFile branch message path content w = .error e w' ∧
      Takes w w' [⟨.updateFile path (fileMessage message "Update" path) content digest branch, false⟩]) ∨
    ∃ e w', updateFile branch message path content w = .error e w' ∧ Takes w w' [] := by
  have hlook : Within [.look] (entry path (.str branch)) := entry_within (by decide) path (.str branch)
  cases hentry : entry path (.str branch) w with
  | error e w₁ =>
      exact Or.inr (Or.inr ⟨e, w₁, bind_of_error hentry, hlook.takes_of_error (by decide) hentry⟩)
  | ok found w₁ =>
      have hfound := hlook.takes_of_ok (by decide) hentry
      rw [updateFile, bind_of_ok hentry]
      rcases send_takes (r := .updateFile path (fileMessage message "Update" path) content
        (found.digest path.displayed) branch) rfl (Forge.inBranches_setText path branch content) w₁ with
        ⟨w', hsend, htakes⟩ | ⟨e, w', hsend, htakes⟩
      · exact Or.inl ⟨_, w', hsend, hfound.nil_trans htakes⟩
      · exact Or.inr (Or.inl ⟨_, e, w', hsend, hfound.nil_trans htakes⟩)

/-- A file is tried, and it is known whether it was written. -/
theorem writeFile_attempt (branch : String) (message path content : Json) (w : World) :
    ∃ ts w', writeFile branch message path content w = .ok (landed ts) w' ∧
      Attempt branch message path content ts ∧ Takes w w' ts := by
  have hretry : ∀ {e w₁}, updateFile branch message path content w = .error e w₁ →
      writeFile branch message path content w =
        recover false (do createFile branch message path content; return true) w₁ := by
    intro e w₁ hupdate
    have hrun : attempt (updateFile branch message path content) w = .ok (.error e) w₁ := by
      simp only [attempt, hupdate]
    exact bind_of_ok hrun
  rcases updateFile_takes branch message path content w with
    ⟨digest, w₁, hupdate, htakes⟩ | ⟨digest, e, w₁, hupdate, htakes⟩ | ⟨e, w₁, hupdate, htakes⟩
  · have hrun : attempt (updateFile branch message path content) w = .ok (.ok ()) w₁ := by
      simp only [attempt, hupdate]
    exact ⟨_, w₁, bind_of_ok hrun, .updated digest, htakes⟩
  · obtain ⟨ok, w', hcreate, htakes'⟩ := createFile_takes branch message path content w₁
    refine ⟨_, w', ?_, .retried digest ok, htakes.trans htakes'⟩
    rw [hretry hupdate, hcreate]
    cases ok <;> rfl
  · obtain ⟨ok, w', hcreate, htakes'⟩ := createFile_takes branch message path content w₁
    refine ⟨_, w', ?_, .created ok, htakes.nil_trans htakes'⟩
    rw [hretry hupdate, hcreate]
    cases ok <;> rfl

/-- Files are tried in order, each as if it were the only one. -/
theorem writeFiles_attempts (branch : String) (message : Json) (changes : List (Json × Json)) (w : World) :
    ∃ attempts done failed w', writeFiles branch message changes w = .ok (done, failed) w' ∧
      List.Forall₂ (fun change => Attempt branch message change.1 change.2) changes attempts ∧
      Takes w w' attempts.flatten ∧ done.isEmpty = !attempts.any landed ∧ failed.isEmpty = attempts.all landed ∧
      ∀ path ∈ done, path ∈ changes.map (·.1) := by
  induction changes generalizing w with
  | nil => exact ⟨[], [], [], w, rfl, .nil, Takes.refl w, rfl, rfl, fun path hpath => absurd hpath List.not_mem_nil⟩
  | cons change rest ih =>
      obtain ⟨ts, w₁, hfirst, hattempt, htakes⟩ := writeFile_attempt branch message change.1 change.2 w
      obtain ⟨attempts, done, failed, w', hrest, hattempts, htakes', hdone, hfailed, hpaths⟩ := ih w₁
      have hrun : writeFiles branch message (change :: rest) w =
          .ok (if landed ts then (change.1 :: done, failed) else (done, change.1 :: failed)) w' := by
        rw [writeFiles, bind_of_ok hfirst, bind_of_ok hrest]
        rfl
      cases hlanded : landed ts with
      | true =>
          rw [hlanded] at hrun
          refine ⟨ts :: attempts, _, _, w', hrun, .cons hattempt hattempts, htakes.trans htakes', ?_, ?_, ?_⟩
          · simp [hlanded]
          · simp [hlanded, hfailed]
          · intro path hpath
            rcases List.mem_cons.1 hpath with rfl | hpath
            · exact List.mem_cons_self
            · exact List.mem_cons_of_mem _ (hpaths path hpath)
      | false =>
          rw [hlanded] at hrun
          refine ⟨ts :: attempts, _, _, w', hrun, .cons hattempt hattempts, htakes.trans htakes', ?_, ?_, ?_⟩
          · simp [hlanded, hdone]
          · simp [hlanded]
          · exact fun path hpath => List.mem_cons_of_mem _ (hpaths path hpath)

end

/-! ## Making and offering the branch -/

def branching (branch : String) (commit : Json) : Request := .createRef ("refs/heads/" ++ branch) commit

theorem createBranch_takes {w : World} (hcommit : canShorten w.forge.head.commit = true) (branch : String) :
    (∃ w', createBranch branch w = .ok () w' ∧ Takes w w' [⟨branching branch w.forge.head.commit, true⟩]) ∨
      ∃ e w', createBranch branch w = .error e w' ∧ Takes w w' [⟨branching branch w.forge.head.commit, false⟩] := by
  have hforge : forge w = .ok w.forge w := rfl
  rw [createBranch, bind_of_ok hforge]
  rcases send_takes (r := branching branch w.forge.head.commit) rfl
    (Forge.inBranches_addBranch branch w.forge.head.ref) w with ⟨w', hsend, htakes⟩ | ⟨e, w', hsend, htakes⟩
  · refine Or.inl ⟨w', (bind_of_ok hsend).trans ?_, htakes⟩
    rw [hcommit]
    rfl
  · exact Or.inr ⟨e, w', bind_of_error hsend, htakes⟩

/-- What is tried to offer a branch, which is done only if something was written. -/
inductive Offer (c : PullContext) (branch : String) (target : Json) : Bool → List Trial → Prop where
  | nothing : Offer c branch target false []
  | tried (body : String) (ok : Bool) :
      Offer c branch target true [⟨.createPull (offerTitle c.number) body branch target, ok⟩]

/-- A pull request is tried once, and whatever comes of it or of the comment on it, the
commit goes on. -/
theorem offer_takes (c : PullContext) (branch : String) (target : Json) (paths : String) (w : World) :
    ∃ ok w', recover () (offer c branch target paths) w = .ok () w' ∧
      Takes w w' [⟨.createPull (offerTitle c.number) (offerBody c.number paths) branch target, ok⟩] := by
  obtain ⟨u, w', hoffer⟩ := recover_ok () (offer c branch target paths) w
  rcases send_takes (r := .createPull (offerTitle c.number) (offerBody c.number paths) branch target) rfl
    Forge.inBranches_id w with ⟨w₁, hsend, htakes⟩ | ⟨e, w₁, hsend, htakes⟩
  · refine ⟨true, w', hoffer, htakes.trans_nil ?_⟩
    have hafter := after_recover () (x := offer c branch target paths) (w := w)
    rw [after_of_ok hoffer, offer, after_bind_of_ok hsend] at hafter
    rw [hafter]
    exact (announce_within c).takes (by decide) w₁
  · exact ⟨false, w₁, recover_of_error (bind_of_error hsend), htakes⟩

theorem present_takes {done : List Json} (hnames : ∀ path ∈ done, ∃ name, path = .str name) (c : PullContext)
    (branch : String) (target : Json) (failed : List Json) (w : World) :
    ∃ ts w', present c branch target done failed w = .ok failed.isEmpty w' ∧
      Offer c branch target (!done.isEmpty) ts ∧ Takes w w' ts := by
  cases hdone : done.isEmpty with
  | true =>
      refine ⟨[], w, ?_, .nothing, Takes.refl w⟩
      rw [present, hdone]
      rfl
  | false =>
      have hrow : lift (pathRow done) w = .ok (String.intercalate ", " (done.map Json.displayed)) w := by
        rw [pathRow_eq hnames]
        rfl
      obtain ⟨ok, w', hoffer, htakes⟩ :=
        offer_takes c branch target (String.intercalate ", " (done.map Json.displayed)) w
      refine ⟨_, w', ?_, .tried _ ok, htakes⟩
      rw [present, hdone]
      exact (bind_of_ok hrow).trans (bind_of_ok hoffer)

/-! ## Committing -/

/-- What a commit may try, file by file and in all, and what it tells. -/
inductive CommitCourse (c : PullContext) (branch : String) (commit target message : Json)
    (changes : List (Json × Json)) : List (List Trial) → List Trial → Bool → Prop where
  | unopened : CommitCourse c branch commit target message changes [] [] false
  | unbranched : CommitCourse c branch commit target message changes [] [⟨branching branch commit, false⟩] false
  /-- The branch is made, every file is tried, and the branch is offered. -/
  | branched {attempts : List (List Trial)} {offers : List Trial}
      (hattempts : List.Forall₂ (fun change => Attempt branch message change.1 change.2) changes attempts)
      (hoffers : Offer c branch target (attempts.any landed) offers) :
      CommitCourse c branch commit target message changes attempts
        (⟨branching branch commit, true⟩ :: (attempts.flatten ++ offers)) (attempts.all landed)

theorem commitTo_course {changes : List (Json × Json)} (hnames : ∀ change ∈ changes, ∃ name, change.1 = .str name)
    {w : World} (hcommit : canShorten w.forge.head.commit = true) (c : PullContext) (message target : Json)
    (branch : String) : ∃ attempts ts committed w',
      recover false (commitTo c changes message target branch) w = .ok committed w' ∧
      CommitCourse c branch w.forge.head.commit target message changes attempts ts committed ∧ Takes w w' ts := by
  rcases createBranch_takes hcommit branch with ⟨w₁, hcreate, hmade⟩ | ⟨e, w₁, hcreate, hmade⟩
  · obtain ⟨attempts, done, failed, w₂, hwrite, hattempts, htakes, hdone, hfailed, hpaths⟩ :=
      writeFiles_attempts branch message changes w₁
    have hdonePaths : ∀ path ∈ done, ∃ name, path = .str name := by
      intro path hpath
      obtain ⟨change, hchange, rfl⟩ := List.mem_map.1 (hpaths path hpath)
      exact hnames change hchange
    obtain ⟨offers, w', hpresent, hoffers, htakes'⟩ := present_takes hdonePaths c branch target failed w₂
    rw [hdone, Bool.not_not] at hoffers
    refine ⟨attempts, _, _, w', recover_of_ok ?_, .branched hattempts hoffers, hmade.trans (htakes.trans htakes')⟩
    rw [← hfailed, ← hpresent]
    exact (bind_of_ok hcreate).trans (bind_of_ok hwrite)
  · exact ⟨[], _, false, w₁, recover_of_error (bind_of_error hcreate), .unbranched, hmade⟩

theorem commitChanges_course {changes : List (Json × Json)}
    (hnames : ∀ change ∈ changes, ∃ name, change.1 = .str name) {w : World}
    (hcommit : canShorten w.forge.head.commit = true) {branch : String}
    (hbranch : refinementBranch w.forge = .ok branch) (c : PullContext) (message : Json) :
    ∃ attempts committed w', commitChanges c changes message w = .ok committed w' ∧
      CommitCourse c branch w.forge.head.commit w.forge.head.ref message changes attempts (edits w w') committed := by
  have hlook : Within [.look] (Pull.open c) := open_within (by decide) c
  rw [commitChanges_eq]
  cases hopen : Pull.open c w with
  | error e w₁ =>
      refine ⟨[], false, w₁, recover_of_error (bind_of_error hopen), ?_⟩
      rw [(hlook.takes_of_error (by decide) hopen).edits_eq]
      exact .unopened
  | ok u w₁ =>
      have hopened := hlook.takes_of_ok (by decide) hopen
      have hforge : forge w₁ = .ok w₁.forge w₁ := rfl
      have hlift : lift (refinementBranch w₁.forge) w₁ = (.ok branch w₁ : EStateM.Result Fault World String) := by
        rw [hopened.refinementBranch_eq, hbranch]
        rfl
      have hcommit₁ : canShorten w₁.forge.head.commit = true := by rwa [hopened.head_eq]
      obtain ⟨attempts, ts, committed, w', hrun, hcourse, htakes⟩ :=
        commitTo_course hnames hcommit₁ c message w₁.forge.head.ref branch
      rw [hopened.head_eq] at hcourse
      refine ⟨attempts, committed, w', ?_, ?_⟩
      · rw [← hrun]
        unfold recover
        rw [bind_of_ok hopen, bind_of_ok hforge, bind_of_ok hforge, bind_of_ok hlift]
      · rw [(hopened.nil_trans htakes).edits_eq]
        exact hcourse

section

variable {c : PullContext} {branch : String} {commit target message : Json} {changes : List (Json × Json)}
  {attempts : List (List Trial)} {ts : List Trial} {committed : Bool}

theorem write_of_mem_flatten
    (h : List.Forall₂ (fun change => Attempt branch message change.1 change.2) changes attempts) {t : Trial}
    (ht : t ∈ attempts.flatten) : ∃ change ∈ changes, t.request.write? = some ⟨change.1, change.2, branch⟩ := by
  induction h with
  | nil => cases ht
  | @cons change first rest attempts hfirst hrest ih =>
      rcases List.mem_append.1 ht with ht | ht
      · exact ⟨change, List.mem_cons_self, hfirst.write_eq ht⟩
      · obtain ⟨change', hmem, hwrite⟩ := ih ht
        exact ⟨change', List.mem_cons_of_mem change hmem, hwrite⟩

namespace CommitCourse

/-- The files that are tried are those of the changes if the branch was made first, and
none otherwise. -/
theorem branch_cases (h : CommitCourse c branch commit target message changes attempts ts committed) :
    ts.head? = some ⟨branching branch commit, true⟩ ∧
        List.Forall₂ (fun change => Attempt branch message change.1 change.2) changes attempts ∨
      ts.head? ≠ some ⟨branching branch commit, true⟩ ∧ attempts = [] := by
  cases h with
  | unopened => exact Or.inr ⟨nofun, rfl⟩
  | unbranched => exact Or.inr ⟨by simp, rfl⟩
  | branched hattempts => exact Or.inl ⟨rfl, hattempts⟩

/-- The files are tried one after the other. -/
theorem filter_writes (h : CommitCourse c branch commit target message changes attempts ts committed) :
    ts.filter (·.request.write?.isSome) = attempts.flatten := by
  cases h with
  | unopened => rfl
  | unbranched => rfl
  | @branched attempts offers hattempts hoffers =>
      have hwrites : attempts.flatten.filter (·.request.write?.isSome) = attempts.flatten := by
        refine List.filter_eq_self.2 fun t ht => ?_
        obtain ⟨change, -, hwrite⟩ := write_of_mem_flatten hattempts ht
        rw [hwrite]
        rfl
      have hnone : offers.filter (·.request.write?.isSome) = [] := by
        generalize attempts.any landed = written at hoffers
        cases hoffers <;> rfl
      have hfirst : (branching branch commit).write?.isSome = false := rfl
      rw [List.filter_cons_of_neg (by simp [hfirst]), List.filter_append, hwrites, hnone, List.append_nil]

/-- Nothing is written to another branch. -/
theorem write_branch (h : CommitCourse c branch commit target message changes attempts ts committed) {t : Trial}
    (ht : t ∈ ts) {x : Forge.Write} (hx : t.request.write? = some x) : x.branch = branch := by
  have hmem : t ∈ attempts.flatten := by
    rw [← h.filter_writes]
    exact List.mem_filter.2 ⟨ht, by rw [hx]; rfl⟩
  rcases h.branch_cases with ⟨-, hattempts⟩ | ⟨-, rfl⟩
  · obtain ⟨change, -, hwrite⟩ := write_of_mem_flatten hattempts hmem
    rw [hx] at hwrite
    cases hwrite
    rfl
  · cases hmem

/-- A pull request is tried only from the branch to the target. -/
theorem createPull_eq (h : CommitCourse c branch commit target message changes attempts ts committed)
    {title body head : String} {base : Json} {ok : Bool} (ht : ⟨.createPull title body head base, ok⟩ ∈ ts) :
    head = branch ∧ base = target ∧ attempts.any landed = true := by
  cases h with
  | unopened => cases ht
  | unbranched => cases List.mem_singleton.1 ht
  | @branched attempts offers hattempts hoffers =>
      rcases List.mem_cons.1 ht with heq | ht
      · cases heq
      rcases List.mem_append.1 ht with ht | ht
      · obtain ⟨change, -, hwrite⟩ := write_of_mem_flatten hattempts ht
        cases hwrite
      · generalize hany : attempts.any landed = written at hoffers
        cases hoffers with
        | nothing => cases ht
        | tried body' ok' =>
            cases List.mem_singleton.1 ht
            exact ⟨rfl, rfl, rfl⟩

/-- The branch is offered if anything was written. -/
theorem exists_createPull (h : CommitCourse c branch commit target message changes attempts ts committed)
    (hany : attempts.any landed = true) : ∃ title body ok, ⟨.createPull title body branch target, ok⟩ ∈ ts := by
  cases h with
  | unopened => cases hany
  | unbranched => cases hany
  | @branched attempts offers hattempts hoffers =>
      rw [hany] at hoffers
      cases hoffers with
      | tried body ok =>
          refine ⟨offerTitle c.number, body, ok, List.mem_cons_of_mem _ (List.mem_append_right _ ?_)⟩
          exact List.mem_cons_self

/-- A commit tells of success exactly if the branch was made and every file was
written. -/
theorem committed_iff (h : CommitCourse c branch commit target message changes attempts ts committed) :
    committed = true ↔ ts.head? = some ⟨branching branch commit, true⟩ ∧ ∀ a ∈ attempts, landed a = true := by
  cases h with
  | unopened => simp
  | unbranched => simp
  | branched hattempts hoffers => simp

end CommitCourse

end

/-- A commit makes a branch that is named after the head and the time.  It writes to
this branch only, tries the files there in order, offers the branch to the head exactly
if a file was written, and tells of success exactly if the branch was made and every
file was written. -/
theorem commit_keeps_to_branch {ref sha : String} {stamp : Int} {w : World} (href : w.forge.head.ref = .str ref)
    (hsha : w.forge.head.commit = .str sha) (htime : w.forge.time.toInteger = .ok stamp) (c : PullContext)
    (changes : List (String × Text)) (message : Json) :
    ∃ branch attempts committed w',
      branch = ref ++ "-refinement-" ++ String.ofList (Number.intText stamp) ∧ branch ≠ ref ∧
      commitChanges c (changes.map fun x => (.str x.1, .ofText x.2)) message w = .ok committed w' ∧
      (∀ t ∈ edits w w', ∀ x, t.request.write? = some x → x.branch = branch) ∧
      (edits w w').filter (·.request.write?.isSome) = attempts.flatten ∧
      ((edits w w').head? = some ⟨.createRef ("refs/heads/" ++ branch) (.str sha), true⟩ ∧
          List.Forall₂ (fun x => Attempt branch message (.str x.1) (.ofText x.2)) changes attempts ∨
        (edits w w').head? ≠ some ⟨.createRef ("refs/heads/" ++ branch) (.str sha), true⟩ ∧ attempts = []) ∧
      (∀ title body head base ok, ⟨.createPull title body head base, ok⟩ ∈ edits w w' →
        head = branch ∧ base = .str ref) ∧
      ((∃ title body ok, ⟨.createPull title body branch (.str ref), ok⟩ ∈ edits w w') ↔
        ∃ a ∈ attempts, landed a = true) ∧
      (committed = true ↔
        (edits w w').head? = some ⟨.createRef ("refs/heads/" ++ branch) (.str sha), true⟩ ∧
          ∀ a ∈ attempts, landed a = true) := by
  have hbranch : refinementBranch w.forge = .ok (ref ++ "-refinement-" ++ String.ofList (Number.intText stamp)) := by
    have hname : (Json.str ref).displayed = ref := by simp only [Json.displayed, Json.display, String.ofList_toList]
    rw [refinementBranch, htime, href, hname]
    rfl
  have hcommit : canShorten w.forge.head.commit = true := by rw [hsha]; rfl
  have hnames : ∀ change ∈ changes.map fun x => (Json.str x.1, Json.ofText x.2), ∃ name, change.1 = .str name := by
    intro change hchange
    obtain ⟨x, -, rfl⟩ := List.mem_map.1 hchange
    exact ⟨x.1, rfl⟩
  obtain ⟨attempts, committed, w', hrun, hcourse⟩ := commitChanges_course hnames hcommit hbranch c message
  rw [href, hsha] at hcourse
  refine ⟨_, attempts, committed, w', rfl, ?_, hrun, fun t ht x hx => hcourse.write_branch ht hx,
    hcourse.filter_writes, ?_, fun title body head base ok ht => ?_, ⟨?_, ?_⟩, hcourse.committed_iff⟩
  · intro heq
    have hlength := congrArg String.length heq
    have hmiddle : "-refinement-".length = 12 := rfl
    rw [String.length_append, String.length_append, hmiddle] at hlength
    omega
  · rcases hcourse.branch_cases with ⟨hmade, hattempts⟩ | hunmade
    · exact Or.inl ⟨hmade, List.forall₂_map_left_iff.1 hattempts⟩
    · exact Or.inr hunmade
  · obtain ⟨hhead, hbase, -⟩ := hcourse.createPull_eq ht
    exact ⟨hhead, hbase⟩
  · rintro ⟨title, body, ok, ht⟩
    exact List.any_eq_true.1 (hcourse.createPull_eq ht).2.2
  · exact fun hsome => hcourse.exists_createPull (List.any_eq_true.2 hsome)

/-- A site where one file cannot be written over and no pull request can be made. -/
def grudging : World :=
  { Refine.declining with
    forge := { Refine.declining.forge with
      branches := [("head", ["a.py", "b.py"].map (·, .text "a\n".toList))]
      outage := fun _ r => match r with
        | .updateFile (.str "b.py") .. => some "down"
        | .createPull .. => some "down"
        | _ => none } }

def twoChanges : List (String × Text) := [("a.py", "b\n".toList), ("b.py", "c\n".toList)]

theorem commit_to_grudging : grudging.forge.head.ref = .str "head" ∧
    grudging.forge.head.commit = .str "abcdef0123456789" ∧ grudging.forge.time.toInteger = .ok 1700000000 ∧
    ∃ w', commitChanges Refine.firstPull (twoChanges.map fun x => (.str x.1, .ofText x.2)) (.str "refine") grudging =
        .ok true w' ∧
      (edits grudging w').head? =
        some ⟨.createRef "refs/heads/head-refinement-1700000000" (.str "abcdef0123456789"), true⟩ ∧
      ∀ t ∈ edits grudging w', ∀ x, t.request.write? = some x → x.branch = "head-refinement-1700000000" := by
  have htime : grudging.forge.time.toInteger = .ok 1700000000 := by decide +kernel
  have hname : "head" ++ "-refinement-" ++ String.ofList (Number.intText 1700000000) =
      "head-refinement-1700000000" := by
    decide +kernel
  have htrue : (match commitChanges Refine.firstPull (twoChanges.map fun x => (.str x.1, .ofText x.2)) (.str "refine")
      grudging with
      | .ok committed _ => committed
      | .error _ _ => false) = true := by
    decide +kernel
  refine ⟨rfl, rfl, htime, ?_⟩
  obtain ⟨branch, attempts, committed, w', hbranch, -, hrun, hwrites, -, -, -, -, hcommitted⟩ :=
    commit_keeps_to_branch rfl rfl htime Refine.firstPull twoChanges (.str "refine")
  rw [hrun] at htrue
  rw [hname] at hbranch
  rw [hbranch] at hwrites hcommitted
  exact ⟨w', by rw [hrun, ← htrue], (hcommitted.1 htrue).1, hwrites⟩

end Pull

end Redline
