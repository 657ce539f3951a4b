import Redline.Proofs.Forge.Frame
import Redline.Proofs.Grouping

/-!
# What is written to branches

A file is written by a request that does not fail.  Which requests fail is told by the
outages, so what was written between two moments can be read off the log (`Forge.written`).
A commit makes a branch and writes its files there one after the other.  Each is written or
not, whatever comes of the others, and nothing is taken back.  The commit tells of success
exactly if none is lost (`commitChanges_cases`).
-/

namespace Redline

namespace Forge

/-- A text for a file on a branch. -/
structure Write where
  path : Json
  content : Json
  branch : String

def Request.write? : Request → Option Write
  | .updateFile path _ content _ branch => some ⟨path, content, branch⟩
  | .createFile path _ content branch => some ⟨path, content, branch⟩
  | _ => none

theorem Request.kind_of_write {r : Request} {x : Write} (h : r.write? = some x) : r.kind = .edit := by
  cases r <;> first | rfl | cases h

/-- What is written by those of some requests that do not fail.  The first of them is made
after a number of others. -/
def written (outage : Nat → Request → Option String) : Nat → List Request → List Write
  | _, [] => []
  | count, r :: rs => (if (outage count r).isNone then r.write?.toList else []) ++ written outage (count + 1) rs

theorem written_append (outage : Nat → Request → Option String) (count : Nat) (rs rs' : List Request) :
    written outage count (rs ++ rs') = written outage count rs ++ written outage (count + rs.length) rs' := by
  induction rs generalizing count with
  | nil => rfl
  | cons r rs ih =>
      simp only [List.cons_append, written, ih, List.append_assoc, List.length_cons]
      rw [Nat.add_right_comm, Nat.add_assoc]

theorem written_eq_nil {outage : Nat → Request → Option String} {count : Nat} {rs : List Request}
    (h : ∀ r ∈ rs, r.write? = none) : written outage count rs = [] := by
  induction rs generalizing count with
  | nil => rfl
  | cons r rs ih =>
      rw [written, h r List.mem_cons_self, ih fun r' hr' => h r' (List.mem_cons_of_mem r hr')]
      simp

def Write.on (x : Write) (branches : List (String × Branch)) : List (String × Branch) :=
  match x.path, x.content with
  | .str path, .str t =>
      Table.set x.branch (Table.set path (.text t.toList) ((branches.lookup x.branch).getD [])) branches
  | _, _ => branches

theorem setText_eq (f : Forge) (path : Json) (branch : String) (content : Json) :
    f.setText path branch content = { f with branches := Write.on ⟨path, content, branch⟩ f.branches } := by
  simp only [setText]
  split
  next => rfl
  next hnot => simp only [Write.on]

/-- The branches with texts set one after the other. -/
def setAll (xs : List Write) (branches : List (String × Branch)) : List (String × Branch) :=
  xs.foldl (fun bs x => x.on bs) branches

def entryIn (branches : List (String × Branch)) (branch name : String) : Option Entry :=
  (branches.lookup branch).bind (·.lookup name)

theorem entryAt_str (f : Forge) (name branch : String) :
    f.entryAt (.str name) (.str branch) = entryIn f.branches branch name := rfl

theorem entryIn_on (branches : List (String × Branch)) (branch name other t : String) :
    entryIn (Write.on ⟨.str name, .str t, branch⟩ branches) branch other =
      if other = name then some (.text t.toList) else entryIn branches branch other := by
  simp only [entryIn, Write.on, Table.lookup_set_self, Option.bind_some]
  split
  next heq => rw [heq, Table.lookup_set_self]
  next hne =>
    rw [Table.lookup_set_of_ne hne]
    cases branches.lookup branch <;> rfl

end Forge

open Forge (Write Request grown)

namespace Session

def writes (w w' : World) : List Write :=
  Forge.written w.forge.outage w.forge.log.length (w'.forge.log.drop w.forge.log.length)

/-- One world comes from another by requests that write some texts, and apart from the
branches the site is as it was. -/
def Edited (w w' : World) (xs : List Write) : Prop :=
  ∃ new, w'.forge = w.forge.grown new w'.forge.branches ∧ Forge.written w.forge.outage w.forge.log.length new = xs

namespace Edited

variable {w w' w'' : World} {xs ys : List Write}

theorem refl (w : World) : Edited w w [] := ⟨[], by rw [grown, List.append_nil], rfl⟩

theorem trans (h : Edited w w' xs) (h' : Edited w' w'' ys) : Edited w w'' (xs ++ ys) := by
  obtain ⟨new, hforge, hnew⟩ := h
  obtain ⟨more, hforge', hmore⟩ := h'
  refine ⟨new ++ more, ?_, ?_⟩
  · rw [hforge', hforge, Forge.grown_grown]
    rfl
  · rw [Forge.written_append, hnew]
    rw [hforge] at hmore
    simp only [grown, List.length_append] at hmore
    rw [hmore]

theorem writes_eq (h : Edited w w' xs) : writes w w' = xs := by
  obtain ⟨new, hforge, hnew⟩ := h
  rw [writes, hforge]
  simp only [grown, List.drop_left]
  exact hnew

theorem refinementBranch_eq (h : Edited w w' xs) :
    Pull.refinementBranch w'.forge = Pull.refinementBranch w.forge := by
  obtain ⟨new, hforge, -⟩ := h
  rw [hforge]
  rfl

end Edited

theorem send_edited {r : Request} {change : Forge → Forge} (hr : r.write? = none)
    (hchange : Forge.InBranches r.kind change) (w : World) : Edited w (after (send r change) w) [] := by
  have hnone : ∀ r' ∈ [r], r'.write? = none := fun r' hr' => List.mem_singleton.1 hr' ▸ hr
  cases h : w.forge.outage w.forge.log.length r with
  | none =>
      obtain ⟨branches, hbranches, -⟩ := hchange { w.forge with log := w.forge.log ++ [r] }
      rw [after_of_ok (send_of_none h), Edited, hbranches]
      exact ⟨[r], rfl, Forge.written_eq_nil hnone⟩
  | some reason =>
      rw [after_of_error (send_of_some h)]
      exact ⟨[r], rfl, Forge.written_eq_nil hnone⟩

/-- One world comes from another by requests that write some texts, which are on their
branches then, and apart from that the site is as it was. -/
structure Puts (w w' : World) (xs : List Write) : Prop where
  edited : Edited w w' xs
  branches_eq : w'.forge.branches = Forge.setAll xs w.forge.branches

namespace Puts

variable {w w' w'' : World} {xs ys : List Write}

theorem refl (w : World) : Puts w w [] := ⟨Edited.refl w, rfl⟩

theorem trans (h : Puts w w' xs) (h' : Puts w' w'' ys) : Puts w w'' (xs ++ ys) := by
  refine ⟨h.edited.trans h'.edited, ?_⟩
  rw [h'.branches_eq, h.branches_eq]
  exact List.foldl_append.symm

theorem trans_nil (h : Puts w w' xs) (h' : Puts w' w'' []) : Puts w w'' xs := by
  rw [← List.append_nil xs]
  exact h.trans h'

end Puts

/-! ## Operations that write nothing -/

/-- An operation writes no file and leaves the branches alone. -/
def Spares {α : Type} (x : Session α) : Prop := ∀ w, Puts w (after x w) []

/-- An operation that makes no edits writes nothing. -/
theorem Within.spares {α : Type} {ks : List Request.Kind} {x : Session α} (h : Within ks x)
    (hks : Request.Kind.edit ∉ ks) : Spares x := by
  intro w
  obtain ⟨new, branches, hkinds, hforge, hsame⟩ := h w
  have hedit : ∀ r ∈ new, r.kind ≠ .edit := fun r hr heq => hks (heq ▸ hkinds r hr)
  have hwrite : ∀ r ∈ new, r.write? = none := by
    intro r hr
    cases hx : r.write? with
    | none => rfl
    | some x => exact absurd (Request.kind_of_write hx) (hedit r hr)
  constructor
  · rw [Edited, hforge]
    exact ⟨new, rfl, Forge.written_eq_nil hwrite⟩
  · rw [hforge]
    exact hsame hedit

namespace Spares

variable {α β : Type} {x : Session α} {f : α → Session β} {w w' : World}

theorem of_ok (hx : Spares x) {a : α} (h : x w = .ok a w') : Puts w w' [] := after_of_ok h ▸ hx w

theorem of_error (hx : Spares x) {e : Fault} (h : x w = .error e w') : Puts w w' [] := after_of_error h ▸ hx w

theorem bind (hx : Spares x) (hf : ∀ a, Spares (f a)) : Spares (x >>= f) := by
  intro w
  cases hrun : x w with
  | error e w₁ =>
      rw [after_bind_of_error hrun]
      exact hx.of_error hrun
  | ok a w₁ =>
      rw [after_bind_of_ok hrun]
      exact (hx.of_ok hrun).trans (hf a w₁)

theorem recover (hx : Spares x) (fallback : α) : Spares (Redline.recover fallback x) := by
  intro w
  rw [after_recover]
  exact hx w

theorem send {r : Request} (hr : r.write? = none) : Spares (Session.send r) := by
  intro w
  refine ⟨send_edited hr Forge.inBranches_id w, ?_⟩
  cases h : w.forge.outage w.forge.log.length r with
  | none =>
      rw [after_of_ok (send_of_none h)]
      rfl
  | some reason =>
      rw [after_of_error (send_of_some h)]
      rfl

end Spares

/-! ## Operations that write one text -/

/-- An operation writes a text if it succeeds, and nothing if it fails. -/
def Sets (x : Session Unit) (y : Write) : Prop :=
  ∀ w, (∃ w', x w = .ok () w' ∧ Puts w w' [y]) ∨ ∃ e w', x w = .error e w' ∧ Puts w w' []

theorem Sets.send {r : Request} {path content : Json} {branch : String}
    (hr : r.write? = some ⟨path, content, branch⟩) :
    Sets (Session.send r (·.setText path branch content)) ⟨path, content, branch⟩ := by
  intro w
  cases h : w.forge.outage w.forge.log.length r with
  | none =>
      refine Or.inl ⟨_, send_of_none h, ?_, ?_⟩
      · rw [Forge.setText_eq]
        exact ⟨[r], rfl, by simp [Forge.written, h, hr]⟩
      · rw [Forge.setText_eq]
        rfl
  | some reason =>
      refine Or.inr ⟨_, _, send_of_some h, ?_, rfl⟩
      exact ⟨[r], rfl, by simp [Forge.written, h]⟩

theorem Sets.after_spares {α : Type} {x : Session α} {f : α → Session Unit} {y : Write} (hx : Spares x)
    (hf : ∀ a, Sets (f a) y) : Sets (x >>= f) y := by
  intro w
  cases hrun : x w with
  | error e w₁ => exact Or.inr ⟨e, w₁, bind_of_error hrun, hx.of_error hrun⟩
  | ok a w₁ =>
      rw [bind_of_ok hrun]
      rcases hf a w₁ with ⟨w', hok, hputs⟩ | ⟨e, w', herror, hputs⟩
      · exact Or.inl ⟨w', hok, (hx.of_ok hrun).trans hputs⟩
      · exact Or.inr ⟨e, w', herror, (hx.of_ok hrun).trans hputs⟩

end Session

namespace Pull

open Session

/-- To mark comments no file is written. -/
theorem resolve_spares (c : PullContext) (ids : List Json) : Spares (resolve c ids) := by
  have hresolve : Within [.look, .lookup, .mark] (resolve c ids) :=
    resolve_within (by decide) (by decide) (by decide) c ids
  exact hresolve.spares (by decide)

/-! ## Writing files -/

theorem createFile_sets (branch : String) (message path content : Json) :
    Sets (createFile branch message path content) ⟨path, content, branch⟩ := Sets.send rfl

theorem updateFile_sets (branch : String) (message path content : Json) :
    Sets (updateFile branch message path content) ⟨path, content, branch⟩ := by
  have hlook : Within [.look] (entry path (.str branch)) := entry_within (by decide) path (.str branch)
  exact Sets.after_spares (hlook.spares (by decide)) fun e => Sets.send rfl

/-- A file is written, or nothing is. -/
theorem writeFile_cases (branch : String) (message path content : Json) (w : World) :
    ∃ done w', writeFile branch message path content w = .ok done w' ∧
      Puts w w' (if done then [⟨path, content, branch⟩] else []) := by
  rcases updateFile_sets branch message path content w with ⟨w₁, hupdate, hputs⟩ | ⟨e, w₁, hupdate, hputs⟩
  · have hrun : attempt (updateFile branch message path content) w = .ok (.ok ()) w₁ := by simp only [attempt, hupdate]
    exact ⟨true, w₁, bind_of_ok hrun, hputs⟩
  · have hrun : attempt (updateFile branch message path content) w = .ok (.error e) w₁ := by
      simp only [attempt, hupdate]
    -- The file could not be written over, so it is tried as a new one.
    rcases createFile_sets branch message path content w₁ with ⟨w', hcreate, hputs'⟩ | ⟨e', w', hcreate, hputs'⟩
    · refine ⟨true, w', (bind_of_ok hrun).trans ?_, hputs.trans hputs'⟩
      exact recover_of_ok (bind_of_ok hcreate)
    · refine ⟨false, w', (bind_of_ok hrun).trans ?_, hputs.trans hputs'⟩
      exact recover_of_error (bind_of_error hcreate)

def writesTo (branch : String) (changes : List (Json × Json)) : List Write :=
  changes.map fun change => ⟨change.1, change.2, branch⟩

/-- Each of some files is written or lost. -/
theorem writeFiles_cases (branch : String) (message : Json) (changes : List (Json × Json)) (w : World) :
    ∃ kept lost w', writeFiles branch message changes w = .ok (kept.map (·.1), lost.map (·.1)) w' ∧
      (kept ++ lost).Perm changes ∧ Puts w w' (writesTo branch kept) := by
  induction changes generalizing w with
  | nil => exact ⟨[], [], w, rfl, List.Perm.refl _, Puts.refl w⟩
  | cons change rest ih =>
      obtain ⟨done, w₁, hfirst, hputs⟩ := writeFile_cases branch message change.1 change.2 w
      obtain ⟨kept, lost, w', hrest, hperm, hputs'⟩ := ih w₁
      cases done with
      | true =>
          refine ⟨change :: kept, lost, w', ?_, hperm.cons change, hputs.trans hputs'⟩
          rw [writeFiles, bind_of_ok hfirst, bind_of_ok hrest]
          rfl
      | false =>
          refine ⟨kept, change :: lost, w', ?_, List.perm_middle.trans (hperm.cons change), hputs.trans hputs'⟩
          rw [writeFiles, bind_of_ok hfirst, bind_of_ok hrest]
          rfl

/-- Changes to files that are named by texts, and that are texts themselves. -/
def Plain (changes : List (Json × Json)) : Prop :=
  ∀ change ∈ changes, (∃ name, change.1 = .str name) ∧ ∃ t, change.2 = .ofText t

section

variable {branch name : String} {kept : List (Json × Json)} {branches : List (String × Forge.Branch)}

theorem entryIn_setAll_of_not_mem (hplain : Plain kept) (hnot : .str name ∉ kept.map (·.1)) :
    Forge.entryIn (Forge.setAll (writesTo branch kept) branches) branch name = Forge.entryIn branches branch name := by
  induction kept generalizing branches with
  | nil => rfl
  | cons change rest ih =>
      obtain ⟨⟨n, hn⟩, t, ht⟩ := hplain change List.mem_cons_self
      rw [List.map_cons, List.mem_cons, not_or, hn] at hnot
      have hne : name ≠ n := fun heq => hnot.1 (congrArg Json.str heq)
      refine (ih (fun c hc => hplain c (List.mem_cons_of_mem change hc)) hnot.2).trans ?_
      dsimp only
      rw [hn, ht, Json.ofText, Forge.entryIn_on, if_neg hne]

/-- A text that was set is there, if no file is written twice. -/
theorem entryIn_setAll {t : Text} (hplain : Plain kept) (hnodup : (kept.map (·.1)).Nodup)
    (hmem : (.str name, .ofText t) ∈ kept) :
    Forge.entryIn (Forge.setAll (writesTo branch kept) branches) branch name = some (.text t) := by
  induction kept generalizing branches with
  | nil => cases hmem
  | cons change rest ih =>
      have hrest : Plain rest := fun c hc => hplain c (List.mem_cons_of_mem change hc)
      obtain ⟨hfirst, hnodup⟩ := List.nodup_cons.1 hnodup
      rcases List.mem_cons.1 hmem with rfl | hmem
      · refine (entryIn_setAll_of_not_mem hrest hfirst).trans ?_
        rw [Json.ofText, Forge.entryIn_on, if_pos rfl, String.toList_ofList]
      · exact ih hrest hnodup hmem

end

/-! ## Committing -/

/-- To make a branch no file is written. -/
theorem createBranch_edited (branch : String) (w : World) : Edited w (after (createBranch branch) w) [] := by
  have hsend : Edited w (after (send (.createRef ("refs/heads/" ++ branch) w.forge.head.commit)
      (·.addBranch branch w.forge.head.ref)) w) [] := by
    refine send_edited rfl ?_ w
    exact Forge.inBranches_addBranch branch w.forge.head.ref
  have hforge : forge w = .ok w.forge w := rfl
  unfold createBranch
  rw [after_bind_of_ok hforge]
  cases hrun : send (.createRef ("refs/heads/" ++ branch) w.forge.head.commit)
      (·.addBranch branch w.forge.head.ref) w with
  | error e w₁ =>
      rw [after_bind_of_error hrun]
      exact after_of_error hrun ▸ hsend
  | ok a w₁ =>
      rw [after_bind_of_ok hrun]
      rw [after_of_ok hrun] at hsend
      cases canShorten w.forge.head.commit with
      | true => exact hsend
      | false => exact hsend

theorem pathRow_eq {paths : List Json} (h : ∀ path ∈ paths, ∃ name, path = .str name) :
    pathRow paths = .ok (String.intercalate ", " (paths.map Json.displayed)) := by
  unfold pathRow
  rw [mapM_eq_ok]
  · rfl
  · intro path hpath
    obtain ⟨name, rfl⟩ := h path hpath
    simp only [Json.displayed, Json.display, String.ofList_toList]

/-- To announce the new pull request no edit is made. -/
theorem announce_within (c : PullContext) : Within [.look, .word] (do
    let f ← forge
    postComment c (.str (announcement f.nextNumber f.nextAddress))) :=
  Within.forge.bind fun _ => postComment_within (by decide) (by decide) c _

/-- The new pull request and the comment on it write no file. -/
theorem offer_spares (c : PullContext) (branch : String) (target : Json) (paths : String) :
    Spares (offer c branch target paths) :=
  (Spares.send rfl).bind fun _ => (announce_within c).spares (by decide)

/-- The end of a commit: what was written is offered. -/
def present (c : PullContext) (branch : String) (target : Json) (done failed : List Json) : Session Bool := do
  if !done.isEmpty then
    let paths ← lift (pathRow done)
    recover () (offer c branch target paths)
  return failed.isEmpty

/-- A commit from where the name of the branch is known. -/
def commitTo (c : PullContext) (changes : List (Json × Json)) (message target : Json) (branch : String) :
    Session Bool := do
  createBranch branch
  let (done, failed) ← writeFiles branch message changes
  present c branch target done failed

theorem commitChanges_eq (c : PullContext) (changes : List (Json × Json)) (message : Json) :
    commitChanges c changes message = recover false (do
      Pull.open c
      let target := (← forge).head.ref
      let branch ← lift (refinementBranch (← forge))
      commitTo c changes message target branch) := rfl

/-- Whether it can be offered or not, what was written counts. -/
theorem present_ok {done : List Json} (hnames : ∀ path ∈ done, ∃ name, path = .str name) (c : PullContext)
    (branch : String) (target : Json) (failed : List Json) (w : World) :
    ∃ w', present c branch target done failed w = .ok failed.isEmpty w' ∧ Puts w w' [] := by
  cases hdone : done.isEmpty with
  | true =>
      refine ⟨w, ?_, Puts.refl w⟩
      rw [present, hdone]
      rfl
  | false =>
      have hrow : lift (pathRow done) w = .ok (String.intercalate ", " (done.map Json.displayed)) w := by
        rw [pathRow_eq hnames]
        rfl
      obtain ⟨u, w', hoffer⟩ :=
        recover_ok () (offer c branch target (String.intercalate ", " (done.map Json.displayed))) w
      refine ⟨w', ?_, ((offer_spares c branch target _).recover ()).of_ok hoffer⟩
      rw [present, hdone]
      exact (bind_of_ok hrow).trans (bind_of_ok hoffer)

/-- Each change is written or lost, once the branch is there. -/
theorem commitTo_cases {changes : List (Json × Json)} (hplain : Plain changes) (c : PullContext)
    (message target : Json) (branch : String) (w : World) :
    (∃ e w', commitTo c changes message target branch w = .error e w' ∧ Edited w w' []) ∨
      ∃ kept lost w₁ w', commitTo c changes message target branch w = .ok lost.isEmpty w' ∧
        (kept ++ lost).Perm changes ∧ Edited w w₁ [] ∧ Puts w₁ w' (writesTo branch kept) := by
  have hcreated := createBranch_edited branch w
  cases hcreate : createBranch branch w with
  | error e w₁ =>
      rw [after_of_error hcreate] at hcreated
      exact Or.inl ⟨e, w₁, bind_of_error hcreate, hcreated⟩
  | ok u w₁ =>
      rw [after_of_ok hcreate] at hcreated
      obtain ⟨kept, lost, w₂, hwrite, hperm, hkept⟩ := writeFiles_cases branch message changes w₁
      have hpaths : ∀ path ∈ kept.map (·.1), ∃ name, path = .str name := by
        intro path hpath
        obtain ⟨change, hchange, rfl⟩ := List.mem_map.1 hpath
        exact (hplain change (hperm.subset (List.mem_append_left lost hchange))).1
      obtain ⟨w', hpresent, hpresented⟩ := present_ok hpaths c branch target (lost.map (·.1)) w₂
      refine Or.inr ⟨kept, lost, w₁, w', ?_, hperm, hcreated, hkept.trans_nil hpresented⟩
      have hlost : (lost.map (·.1)).isEmpty = lost.isEmpty := by cases lost <;> rfl
      rw [← hlost, ← hpresent]
      exact (bind_of_ok hcreate).trans (bind_of_ok hwrite)

/-- What comes of a commit: it ends before anything is written, or each change is written
to the new branch or lost.  It tells of success exactly if none is lost. -/
theorem commitChanges_cases {changes : List (Json × Json)} (hplain : Plain changes) (c : PullContext)
    (message : Json) (w : World) :
    ∃ committed w', commitChanges c changes message w = .ok committed w' ∧
      (committed = false ∧ Edited w w' [] ∨
        ∃ branch kept lost w₁, refinementBranch w.forge = .ok branch ∧ (kept ++ lost).Perm changes ∧
          committed = lost.isEmpty ∧ Edited w w₁ [] ∧ Puts w₁ w' (writesTo branch kept)) := by
  have hspares : Spares (Pull.open c) := by
    have hlook : Within [.look] (Pull.open c) := open_within (by decide) c
    exact hlook.spares (by decide)
  rw [commitChanges_eq]
  cases hopen : Pull.open c w with
  | error e w₁ =>
      exact ⟨false, w₁, recover_of_error (bind_of_error hopen), Or.inl ⟨rfl, (hspares.of_error hopen).edited⟩⟩
  | ok u w₁ =>
      have hopened := (hspares.of_ok hopen).edited
      have hforge : forge w₁ = .ok w₁.forge w₁ := rfl
      cases hbranch : refinementBranch w.forge with
      | error e =>
          have hlift : lift (refinementBranch w₁.forge) w₁ = (.error e w₁ : EStateM.Result Fault World String) := by
            rw [hopened.refinementBranch_eq, hbranch]
            rfl
          refine ⟨false, w₁, recover_of_error (e := e) ?_, Or.inl ⟨rfl, hopened⟩⟩
          rw [bind_of_ok hopen, bind_of_ok hforge, bind_of_ok hforge, bind_of_error hlift]
      | ok branch =>
          have hlift : lift (refinementBranch w₁.forge) w₁ = (.ok branch w₁ : EStateM.Result Fault World String) := by
            rw [hopened.refinementBranch_eq, hbranch]
            rfl
          rcases commitTo_cases hplain c message w₁.forge.head.ref branch w₁ with
            ⟨e, w', hcommit, hedited⟩ | ⟨kept, lost, w₂, w', hcommit, hperm, hmade, hputs⟩
          · refine ⟨false, w', recover_of_error (e := e) ?_, Or.inl ⟨rfl, hopened.trans hedited⟩⟩
            rw [bind_of_ok hopen, bind_of_ok hforge, bind_of_ok hforge, bind_of_ok hlift, hcommit]
          · refine ⟨lost.isEmpty, w', recover_of_ok ?_, Or.inr ⟨branch, kept, lost, w₂, rfl, hperm, rfl,
              hopened.trans hmade, hputs⟩⟩
            rw [bind_of_ok hopen, bind_of_ok hforge, bind_of_ok hforge, bind_of_ok hlift, hcommit]

end Pull

end Redline
