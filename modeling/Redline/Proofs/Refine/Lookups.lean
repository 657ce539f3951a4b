import Redline.Proofs.Forge.Frame
import Redline.Proofs.Refine.Tally

/-!
# Which comments a run marks

A run asks the site for a comment only to mark it, so the comments that it marks
can be read off the log.  They are those of the groups for which a modification was
registered, in files that were processed, if the changes could be committed
(`marked_whatever_answered`).  That the refiner said to have passed over a
suggestion makes no difference: it is reported as passed over, and its comment is
marked as carried out all the same.
-/

namespace Redline

open Session

/-! ## Operations that ask for no comment -/

/-- A request that does not ask for a single comment. -/
def AsksForNone (r : Forge.Request) : Prop := ∀ n, r ≠ .remark n

theorem asksForNone_of_within {α : Type} {x : Session α} (hx : Within [.look, .word, .edit] x) :
    Makes AsksForNone x := by
  intro w
  obtain ⟨new, hlog, hkinds⟩ := hx.makes w
  refine ⟨new, hlog, fun r hr n heq => ?_⟩
  have hkind := hkinds r hr
  simp [heq, Forge.Request.kind] at hkind

theorem Pull.open_asks (c : PullContext) : Makes AsksForNone (Pull.open c) :=
  asksForNone_of_within (open_within (by decide) c)

/-! ## Operations that ask for comments -/

/-- An operation asks for the comments of some numbers, and for no others. -/
def LooksUp {α : Type} (x : Session α) (w : World) (S : Int → Prop) : Prop :=
  ∃ new, (after x w).forge.log = w.forge.log ++ new ∧ ∀ n, .remark n ∈ new ↔ S n

/-- The numbers of the comments that some requests ask for, in their order. -/
def asked (rs : List Forge.Request) : List Int :=
  rs.filterMap fun r => match r with
    | .remark n => some n
    | _ => none

theorem mem_asked {n : Int} {rs : List Forge.Request} : n ∈ asked rs ↔ .remark n ∈ rs := by
  unfold asked
  rw [List.mem_filterMap]
  constructor
  · rintro ⟨r, hr, h⟩
    split at h
    next m => exact Option.some.inj h ▸ hr
    next => cases h
  · exact fun h => ⟨_, h, rfl⟩

/-- An operation asks for the comments of some numbers one after the other. -/
def Asks {α : Type} (x : Session α) (w : World) (ns : List Int) : Prop :=
  ∃ new, (after x w).forge.log = w.forge.log ++ new ∧ asked new = ns

namespace Asks

variable {α β : Type} {x : Session α} {f : α → Session β} {w w₁ : World} {ns ms : List Int}

theorem of_makes (h : Makes AsksForNone x) (w : World) : Asks x w [] := by
  obtain ⟨new, hlog, hnew⟩ := h w
  exact ⟨new, hlog, List.eq_nil_iff_forall_not_mem.2 fun n hn => hnew _ (mem_asked.1 hn) n rfl⟩

theorem bind {a : α} (hx : Asks x w ns) (hrun : x w = .ok a w₁) (hf : Asks (f a) w₁ ms) :
    Asks (x >>= f) w (ns ++ ms) := by
  obtain ⟨new, hlog, rfl⟩ := hx
  obtain ⟨more, hlog', rfl⟩ := hf
  rw [after_of_ok hrun] at hlog
  refine ⟨new ++ more, ?_, List.filterMap_append⟩
  rw [after_bind_of_ok hrun, hlog', hlog, List.append_assoc]

theorem bind_error {e : Fault} (hx : Asks x w ns) (hrun : x w = .error e w₁) : Asks (x >>= f) w ns := by
  obtain ⟨new, hlog, hnew⟩ := hx
  rw [after_of_error hrun] at hlog
  exact ⟨new, by rw [after_bind_of_error hrun, hlog], hnew⟩

theorem bind_of_makes {a : α} (hx : Makes AsksForNone x) (hrun : x w = .ok a w₁) (hf : Asks (f a) w₁ ms) :
    Asks (x >>= f) w ms :=
  (of_makes hx w).bind hrun hf

theorem then_makes (hx : Asks x w ns) (hf : ∀ a, Makes AsksForNone (f a)) : Asks (x >>= f) w ns := by
  cases hrun : x w with
  | error e w₁ => exact hx.bind_error hrun
  | ok a w₁ =>
      have h := hx.bind hrun (of_makes (hf a) w₁)
      rwa [List.append_nil] at h

theorem recover (h : Asks x w ns) (fallback : α) : Asks (Redline.recover fallback x) w ns := by
  unfold Asks
  rw [after_recover]
  exact h

end Asks

namespace Pull

variable (c : PullContext) (w : World)

/-- The number that an id stands for, if it does. -/
def number? (id : Json) : Option Int := id.toInteger.toOption

/-- The comment of a number is asked for, whatever comes of that. -/
theorem resolveOne_asks (id : Json) : Asks (resolveOne id) w (number? id).toList := by
  refine Asks.recover ?_ ()
  unfold number?
  cases hid : id.toInteger with
  | error e => exact (Asks.of_makes (Makes.lift _) w).bind_error (lift_eq_error.2 ⟨rfl, rfl⟩)
  | ok k =>
      refine Asks.bind_of_makes (Makes.lift _) (lift_eq_ok.2 ⟨rfl, rfl⟩) ?_
      -- The request is logged also if it fails, and nothing after it asks for a comment.
      have hsend : Asks (send (.remark k)) w [k] := ⟨[.remark k], after_send_log fun _ => rfl, rfl⟩
      refine (hsend.then_makes fun _ => Makes.forge.bind fun f => ?_).then_makes fun r => ?_
      · cases f.remarks.find? fun r => r.id == .int k with
        | none => exact Makes.throw _
        | some r => exact Makes.pure r
      · exact markFirst_makes (fun _ _ => nofun) r ways

theorem resolveAll_asks (ids : List Json) : Asks (resolveAll ids) w (ids.filterMap number?) := by
  induction ids generalizing w with
  | nil => exact Asks.of_makes (Makes.pure ()) w
  | cons id ids ih =>
      cases hrun : resolveOne id w with
      | error e w₁ => exact absurd hrun (recover_ne_error _ _ _ _ _)
      | ok u w₁ =>
          have happend : (id :: ids).filterMap number? = (number? id).toList ++ ids.filterMap number? := by
            rw [List.filterMap_cons]
            cases number? id <;> rfl
          rw [happend]
          exact (resolveOne_asks w id).bind hrun (ih w₁)

theorem resolve_asks {w₁ : World} (hrun : Pull.open c w = .ok () w₁) (ids : List Json) :
    Asks (resolve c ids) w (ids.filterMap number?) :=
  Asks.bind_of_makes (open_asks c) hrun (resolveAll_asks w₁ ids)

theorem resolve_asks_error {e : Fault} {w₁ : World} (hrun : Pull.open c w = .error e w₁) (ids : List Json) :
    Asks (resolve c ids) w [] :=
  (Asks.of_makes (open_asks c) w).bind_error hrun

end Pull

namespace Refine

variable {c : PullContext} {t : Tally} {w w' : World}

/-- The changes of a tally are committed, and afterwards the pull request can be
opened. -/
def Commits (c : PullContext) (t : Tally) (w : World) : Prop :=
  t.changes.isEmpty = false ∧ ∃ w₁ w₂, Pull.commitChanges c t.changes (.str commitMessage) w = .ok true w₁ ∧
    Pull.open c w₁ = .ok () w₂

/-- The number of a suggestion that a tally counts as carried out. -/
def Tally.Marks (t : Tally) (n : Int) : Prop := ∃ s ∈ t.implemented, (Json.str s.1).toInteger = .ok n

/-- The numbers of the suggestions that a tally counts as carried out, in their order. -/
def Tally.numbers (t : Tally) : List Int := (t.implemented.map fun s => Json.str s.1).filterMap Pull.number?

theorem Tally.mem_numbers {n : Int} : n ∈ t.numbers ↔ t.Marks n := by
  unfold Tally.numbers Pull.number?
  simp only [List.mem_filterMap, List.mem_map]
  constructor
  · rintro ⟨id, ⟨s, hs, rfl⟩, h⟩
    exact ⟨s, hs, toOption_eq_some.1 h⟩
  · rintro ⟨s, hs, h⟩
    exact ⟨_, ⟨s, hs, rfl⟩, toOption_eq_some.2 h⟩

theorem commits_iff {committed : Bool} (hchanges : t.changes.isEmpty = false)
    (hrun : Pull.commitChanges c t.changes (.str commitMessage) w = .ok committed w') :
    Commits c t w ↔ committed = true ∧ ∃ w'', Pull.open c w' = .ok () w'' := by
  unfold Commits
  rw [hrun]
  constructor
  · rintro ⟨-, w₁, w₂, h, hopen⟩
    cases h
    exact ⟨rfl, w₂, hopen⟩
  · rintro ⟨rfl, w₂, hopen⟩
    exact ⟨hchanges, w', w₂, rfl, hopen⟩

/-- Comments are marked only after a commit, and then as often as the tally counts them. -/
theorem settle_asks (c : PullContext) (t : Tally) (w : World) :
    ∃ ns, Asks (settle c t) w ns ∧ (Commits c t w → ns = t.numbers) ∧ (¬Commits c t w → ns = []) := by
  unfold settle
  cases hchanges : t.changes.isEmpty with
  | true => exact ⟨[], Asks.of_makes (Makes.pure (t, false)) w, fun h => (nomatch hchanges.symm.trans h.1), fun _ => rfl⟩
  | false =>
      cases hrun : Pull.commitChanges c t.changes (.str commitMessage) w with
      | error e w₁ => exact absurd hrun (recover_ne_error _ _ _ _ _)
      | ok committed w₁ =>
          have hcommit : Makes AsksForNone (Pull.commitChanges c t.changes (.str commitMessage)) :=
            asksForNone_of_within (Pull.commitChanges_within (by decide) (by decide) c (by decide) _ _)
          simp only [commits_iff hchanges hrun]
          cases committed with
          | false =>
              refine ⟨[], Asks.bind_of_makes hcommit hrun ?_, fun h => (nomatch h.1), fun _ => rfl⟩
              exact Asks.of_makes (Makes.pure (t.withdraw, false)) w₁
          | true =>
              cases himplemented : t.implemented.isEmpty with
              | true =>
                  refine ⟨[], Asks.bind_of_makes hcommit hrun ?_, fun _ => ?_, fun _ => rfl⟩
                  · exact Asks.of_makes (Makes.pure (t, true)) w₁
                  · rw [Tally.numbers, List.isEmpty_iff.1 himplemented]
                    rfl
              | false =>
                  cases hopen : Pull.open c w₁ with
                  | error e w₂ =>
                      refine ⟨[], Asks.bind_of_makes hcommit hrun ?_, fun ⟨_, _, h⟩ => (nomatch h), fun _ => rfl⟩
                      exact (Pull.resolve_asks_error c w₁ hopen _).then_makes fun _ => Makes.pure (t, true)
                  | ok u w₂ =>
                      refine ⟨t.numbers, Asks.bind_of_makes hcommit hrun ?_, fun _ => rfl, fun h => ?_⟩
                      · exact (Pull.resolve_asks c w₁ hopen _).then_makes fun _ => Makes.pure (t, true)
                      · exact absurd ⟨rfl, w₂, rfl⟩ h

/-! ## A run -/

/-- A run finds comments that are not settled, and comes to a tally of their
files. -/
structure Tallied (c : PullContext) (w : World) (files : List (Json × List Comment)) (w₀ : World) (t : Tally)
    (w₁ : World) : Prop where
  /-- There are comments, and they are grouped by file. -/
  grouped : ∃ comments, Pull.unresolved c w = .ok comments w₀ ∧ comments.isEmpty = false ∧
    Comment.byFile comments = .ok files
  refined : refineFiles c files {} w₀ = .ok t w₁

section

variable {files : List (Json × List Comment)} {w₀ w₁ : World}

theorem Tallied.run_asks (h : Tallied c w files w₀ t w₁) :
    ∃ ns, Asks (run c) w ns ∧ (Commits c t w₁ → ns = t.numbers) ∧ (¬Commits c t w₁ → ns = []) := by
  obtain ⟨comments, hcomments, hsome, hfiles⟩ := h.grouped
  obtain ⟨ns, hsettle, hns⟩ := settle_asks c t w₁
  refine ⟨ns, ?_, hns⟩
  have hunresolved := asksForNone_of_within (Pull.unresolved_within (by decide) c)
  have hrefine := asksForNone_of_within (refineFiles_within (by decide) c files {})
  refine (Asks.bind_of_makes hunresolved hcomments ?_).recover false
  rw [hsome]
  refine Asks.bind_of_makes (Makes.lift _) (lift_eq_ok.2 ⟨hfiles, rfl⟩) ?_
  refine Asks.bind_of_makes hrefine h.refined ?_
  refine hsettle.then_makes fun (t', _) => Makes.bind ?_ fun _ => Makes.pure _
  exact asksForNone_of_within (postReport_within (by decide) c (by decide) t'.processed t'.failed t'.skipped)

theorem Tallied.run_looks (h : Tallied c w files w₀ t w₁) :
    LooksUp (run c) w fun n => Commits c t w₁ ∧ t.Marks n := by
  obtain ⟨_, ⟨new, hlog, rfl⟩, hcommits, hnot⟩ := h.run_asks
  refine ⟨new, hlog, fun n => ?_⟩
  rw [← mem_asked]
  by_cases hc : Commits c t w₁
  · rw [hcommits hc, Tally.mem_numbers]
    exact (and_iff_right hc).symm
  · rw [hnot hc]
    exact ⟨fun hn => absurd hn List.not_mem_nil, fun hn => absurd hn.1 hc⟩

theorem Tallied.tally_eq (h : Tallied c w files w₀ t w₁) :
    t.implemented = (fileSteps c files w₀).flatMap (·.implemented) ∧
      t.skipped = (fileSteps c files w₀).flatMap (·.skipped) := by
  obtain ⟨w₂, hrun⟩ := refineFiles_eq c files {} w₀
  rw [h.refined] at hrun
  cases hrun
  exact FileStep.foldl_add (fileSteps c files w₀) {}

/-- A run marks the suggestions of all groups for which a modification was
registered, whatever the responses say about them, and reports those as passed over
that the responses name.  So no suggestion is both marked and passed over exactly if
no response passes over one of a group for which a modification was registered. -/
theorem marked_whatever_answered (h : Tallied c w files w₀ t w₁) :
    (∀ id path, (id, path) ∈ t.implemented ↔ ∃ name content s, path = .str name ∧
        Treats c files w₀ name content s ∧ (∃ m, s.Registers m) ∧ id ∈ s.ids) ∧
      (∀ k, k ∈ t.skipped ↔ ∃ name content s, Treats c files w₀ name content s ∧
        ∃ skip ∈ s.passedOver name content, k = ⟨.str name, .str skip.id, .str skip.reason⟩) ∧
      ((∀ k ∈ t.skipped, ∀ i ∈ t.implemented, k.id ≠ .str i.1) ↔
        ∀ name content s name' content' s', Treats c files w₀ name content s → Treats c files w₀ name' content' s' →
          (∃ m, s'.Registers m) → ∀ skip ∈ s.passedOver name content, skip.id ∉ s'.ids) ∧
      ∀ n, .remark n ∈ (after (run c) w).forge.log.drop w.forge.log.length ↔ Commits c t w₁ ∧ t.Marks n := by
  obtain ⟨himplemented, hskipped⟩ := h.tally_eq
  have hcarried : ∀ id path, (id, path) ∈ t.implemented ↔ ∃ name content s, path = .str name ∧
      Treats c files w₀ name content s ∧ (∃ m, s.Registers m) ∧ id ∈ s.ids := by
    intro id path
    rw [himplemented]
    exact mem_implemented_iff
  have hpassed : ∀ k, k ∈ t.skipped ↔ ∃ name content s, Treats c files w₀ name content s ∧
      ∃ skip ∈ s.passedOver name content, k = ⟨.str name, .str skip.id, .str skip.reason⟩ := by
    intro k
    rw [hskipped]
    exact mem_skipped_iff
  refine ⟨hcarried, hpassed, ⟨?_, ?_⟩, fun n => ?_⟩
  · intro hapart name content s name' content' s' hs hs' hregisters skip hskip hid
    refine hapart _ ((hpassed _).2 ⟨name, content, s, hs, skip, hskip, rfl⟩) (skip.id, .str name') ?_ rfl
    exact (hcarried _ _).2 ⟨name', content', s', rfl, hs', hregisters, hid⟩
  · intro hno k hk i hi heq
    obtain ⟨name, content, s, hs, skip, hskip, rfl⟩ := (hpassed k).1 hk
    obtain ⟨name', content', s', -, hs', hregisters, hid⟩ := (hcarried i.1 i.2).1 hi
    injection heq with hsame
    exact hno name content s name' content' s' hs hs' hregisters skip hskip (hsame ▸ hid)
  · obtain ⟨new, hlog, hnew⟩ := h.run_looks
    rw [hlog, List.drop_left]
    exact hnew n

end

/-! ## A suggestion that is passed over and marked -/

def tallyOf (c : PullContext) (w : World) : Option Tally :=
  match Pull.unresolved c w with
  | .ok comments w₀ =>
      match comments.isEmpty, Comment.byFile comments with
      | false, .ok files =>
          match refineFiles c files {} w₀ with
          | .ok t _ => some t
          | .error _ _ => none
      | _, _ => none
  | .error _ _ => none

theorem tallied_of_tallyOf (h : tallyOf c w = some t) : ∃ files w₀ w₁, Tallied c w files w₀ t w₁ := by
  unfold tallyOf at h
  split at h
  next comments w₀ hcomments =>
    split at h
    next files hsome hfiles =>
      split at h
      next t' w₁ hrefined =>
        cases h
        exact ⟨files, w₀, w₁, ⟨comments, hcomments, hsome, hfiles⟩, hrefined⟩
      next => cases h
    next => cases h
  next => cases h

def firstPull : PullContext := ⟨.obj [("full_name", .str "o/r")], .int 1, .int 1⟩

/-- A world with one comment, on a function that the refiner changes while it passes
over the comment. -/
def declining : World where
  forge :=
    { branches := [("head", [("a.py", .text "def f():\n    a\n    b\n".toList)])]
      remarks := [{ id := .int 5, body := .str "rename a", path := .str "a.py", line := .int 2 }]
      threadReply := some true }
  reviewer := Advisor.constant (.ok none)
  refiner := Advisor.constant (.ok (.refinement
    { name := "f", path := "a.py", startLine := 1, endLine := 3, code := "def f():\n    a\n    c".toList,
      skipped := [⟨"5", "too risky"⟩] }))
  parsers := Outline.Parsers.sound
  formatter := Formatter.absent

theorem declining_tally : (tallyOf firstPull declining).map (fun t =>
    (t.implemented.map (·.1), t.skipped.map (·.id.str?))) = some (["5"], [some "5"]) := by
  decide +kernel

theorem marked_whatever_answered_declining : ∃ files w₀ t w₁, Tallied firstPull declining files w₀ t w₁ ∧
    (∃ name content s, Treats firstPull files w₀ name content s ∧ (∃ m, s.Registers m) ∧ "5" ∈ s.ids) ∧
    (∃ name content s, Treats firstPull files w₀ name content s ∧
      ∃ skip ∈ s.passedOver name content, skip.id = "5") := by
  obtain ⟨t, ht, hpair⟩ := Option.map_eq_some_iff.1 declining_tally
  rw [Prod.mk.injEq] at hpair
  obtain ⟨i, is, hi, hi5, -⟩ := List.map_eq_cons_iff.1 hpair.1
  obtain ⟨k, ks, hk, hk5, -⟩ := List.map_eq_cons_iff.1 hpair.2
  obtain ⟨files, w₀, w₁, htallied⟩ := tallied_of_tallyOf ht
  obtain ⟨hcarried, hpassed, -⟩ := marked_whatever_answered htallied
  refine ⟨files, w₀, t, w₁, htallied, ?_, ?_⟩
  · obtain ⟨name, content, s, -, hs, hregisters, hid⟩ := (hcarried i.1 i.2).1 (hi ▸ List.mem_cons_self)
    exact ⟨name, content, s, hs, hregisters, hi5 ▸ hid⟩
  · obtain ⟨name, content, s, hs, skip, hskip, rfl⟩ := (hpassed k).1 (hk ▸ List.mem_cons_self)
    exact ⟨name, content, s, hs, skip, hskip, Option.some.inj hk5⟩

/-- The comments that are marked by some requests. -/
def markedBy (rs : List Forge.Request) : List String :=
  rs.filterMap fun r => match r with
    | .mark _ id _ => some id.displayed
    | _ => none

/-- A suggestion that the refiner passed over is to be reported as passed over, and
its comment is marked as carried out. -/
theorem declined_suggestion_marked :
    (tallyOf firstPull declining).map (fun t => t.skipped.map fun k => (k.id.str?, k.reason.str?)) =
        some [(some "5", some "too risky")] ∧
      markedBy (after (run firstPull) declining).forge.log = ["5"] := by
  decide +kernel

end Refine

end Redline
