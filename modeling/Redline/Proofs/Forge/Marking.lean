import Redline.Proofs.Forge.Requests

/-!
# Marking a comment does not settle it

The reply that marks a comment as carried out has a full stop at its end, and the
reply that settles one has none.  So a comment that was marked by a reply is
returned as unresolved just as if the reply was not there, and the reply comes
back as a comment of its own (`unresolved_after_marking`).
-/

namespace Redline.Pull

open Session

/-! ## What is written -/

/-- A request that marks a comment has the text of the marking reply. -/
def MarksRightly (r : Forge.Request) : Prop := ∀ way id body, r = .mark way id body → body = markingReply

theorem resolveOne_makes (id : Json) : Makes MarksRightly (resolveOne id) := by
  have hmark : ∀ way id, MarksRightly (.mark way id markingReply) := by
    intro way id way' id' body h
    cases h
    rfl
  have hremark : ∀ n, MarksRightly (.remark n) := by
    intro n way id body h
    cases h
  exact ((Makes.lift _).bind fun n => (remark_makes (hremark n)).bind fun r =>
    markFirst_makes hmark r ways).recover ()

theorem resolveEach_makes (rows : List Json) : Makes MarksRightly (resolveEach rows) := by
  induction rows with
  | nil => exact Makes.pure ()
  | cons row rows ih =>
      exact (Makes.lift _).bind fun id => (resolveOne_makes id).bind fun _ => ih

/-- All that is written to mark comments is the marking reply. -/
theorem resolveGiven_makes (c : PullContext) (suggestions : Json) :
    Makes MarksRightly (resolveGiven c suggestions) := by
  have hopen : Makes MarksRightly (Pull.open c) := by
    refine open_makes (fun id => ?_) (fun name => ?_) (fun installation name number => ?_) c
    all_goals
      intro way id body h
      cases h
  exact hopen.bind fun _ => (Makes.lift _).bind fun rows => resolveEach_makes rows

/-- To mark the comments of some numbers is to mark the suggestions of these
numbers, whatever their files. -/
theorem resolve_eq_resolveGiven (c : PullContext) (ids : List Json) (path : Json) :
    resolve c ids = resolveGiven c (.arr (ids.map fun id => .arr [id, path])) := by
  have hrows : resolveAll ids = resolveEach (ids.map fun id => .arr [id, path]) := by
    induction ids with
    | nil => rfl
    | cons id ids ih =>
        rw [resolveAll, ih]
        rfl
  unfold resolve
  rw [hrows]
  rfl

/-! ## What is recognised -/

def remarked (rs : List Forge.Remark) (w : World) : World :=
  { w with forge := { w.forge with remarks := w.forge.remarks ++ rs } }

/-- The same outcome in a world with more comments. -/
def carried {α : Type} (rs : List Forge.Remark) :
    EStateM.Result Fault World α → EStateM.Result Fault World α
  | .ok a w => .ok a (remarked rs w)
  | .error e w => .error e (remarked rs w)

/-- An operation does not notice that there are more comments. -/
def Unaware {α : Type} (rs : List Forge.Remark) (x : Session α) : Prop :=
  ∀ w, x (remarked rs w) = carried rs (x w)

namespace Unaware

variable {α β : Type} {rs : List Forge.Remark} {x : Session α} {f : α → Session β}

theorem pure (a : α) : Unaware rs (Pure.pure a : Session α) := fun _ => rfl

theorem throw (e : Fault) : Unaware rs (MonadExcept.throw e : Session α) := fun _ => rfl

theorem lift (y : Except Fault α) : Unaware rs (Redline.lift y : Session α) := fun w => by
  cases y <;> rfl

theorem bind (hx : Unaware rs x) (hf : ∀ a, Unaware rs (f a)) : Unaware rs (x >>= f) := by
  intro w
  have hrun := hx w
  cases h : x w with
  | error e w₁ =>
      rw [h] at hrun
      rw [bind_of_error hrun, bind_of_error h]
      rfl
  | ok a w₁ =>
      rw [h] at hrun
      rw [bind_of_ok hrun, bind_of_ok h]
      exact hf a w₁

theorem recover (hx : Unaware rs x) (fallback : α) : Unaware rs (Redline.recover fallback x) := by
  intro w
  have hrun := hx w
  cases h : x w with
  | error e w₁ =>
      rw [h] at hrun
      rw [recover_of_error hrun, recover_of_error h]
      rfl
  | ok a w₁ =>
      rw [h] at hrun
      rw [recover_of_ok hrun, recover_of_ok h]
      rfl

theorem send (r : Forge.Request) : Unaware rs (Session.send r) := by
  intro w
  cases h : w.forge.outage w.forge.log.length r with
  | none =>
      have h' : (remarked rs w).forge.outage (remarked rs w).forge.log.length r = none := h
      rw [send_of_none h, send_of_none h']
      rfl
  | some reason =>
      have h' : (remarked rs w).forge.outage (remarked rs w).forge.log.length r = some reason := h
      rw [send_of_some h, send_of_some h']
      rfl

end Unaware

/-- A comment that settles no other. -/
def Unsettling (r : Forge.Remark) : Prop :=
  ∃ body, r.body = .str body ∧ (Text.strip body.toList == settlingReply) = false

/-- Comments that settle nothing make no difference. -/
theorem settledBy_append {rs : List Forge.Remark} (h : ∀ r ∈ rs, Unsettling r) (id : Json)
    (before : List Forge.Remark) : settledBy id (before ++ rs) = settledBy id before := by
  induction before with
  | cons r before ih => simp only [List.cons_append, settledBy, ih]
  | nil =>
      rw [List.nil_append]
      induction rs with
      | nil => rfl
      | cons r rs ih =>
          -- A reply that is no text would end the search, so that the bodies are texts matters.
          obtain ⟨body, hbody, hstrip⟩ := h r List.mem_cons_self
          have hrest : settledBy id rs = settledBy id [] := ih fun s hs => h s (List.mem_cons_of_mem r hs)
          simp only [settledBy, hbody, hstrip, Bool.false_eq_true, if_false, hrest, ite_self]

section

variable {rs : List Forge.Remark}

theorem settledBy_unaware (h : ∀ r ∈ rs, Unsettling r) (id : Json) :
    Unaware rs (do return settledBy id (← remarks) : Session Bool) := by
  have hread : Unaware rs (do return settledBy id (← forge).remarks : Session Bool) := fun w =>
    congrArg (EStateM.Result.ok · (remarked rs w)) (settledBy_append h id w.forge.remarks)
  have hremarks : (do return settledBy id (← remarks) : Session Bool) = (do
      send .remarks
      return settledBy id (← forge).remarks) := by
    simp only [remarks, bind_assoc, pure_bind]
  rw [hremarks]
  exact (Unaware.send _).bind fun _ => hread

/-- Whether a comment is settled does not depend on comments that settle nothing. -/
theorem isSettled_unaware (h : ∀ r ∈ rs, Unsettling r) (r : Forge.Remark) : Unaware rs (isSettled r) := by
  refine Unaware.recover (Unaware.bind ?_ fun reactions => ?_) false
  · refine (Unaware.send _).bind fun _ => ?_
    cases r.reactions with
    | none => exact Unaware.throw _
    | some reactions => exact Unaware.pure reactions
  · split
    · exact Unaware.pure true
    · exact settledBy_unaware h r.id

theorem unsettled_unaware (h : ∀ r ∈ rs, Unsettling r) (before : List Forge.Remark) :
    Unaware rs (unsettled before) := by
  induction before with
  | nil => exact Unaware.pure []
  | cons r before ih =>
      refine (isSettled_unaware h r).bind fun settled => ?_
      cases settled with
      | true => exact ih
      | false => exact (Unaware.lift _).bind fun c => ih.bind fun cs => Unaware.pure (c :: cs)

theorem open_unaware (c : PullContext) : Unaware rs (Pull.open c) :=
  (Unaware.send _).bind fun _ => (Unaware.lift _).bind fun _ => (Unaware.send _).bind fun _ => Unaware.send _

end

/-- Opens a pull request and asks for its comments. -/
def reach (c : PullContext) : Session Unit := do
  Pull.open c
  send .remarks

theorem unresolved_eq (c : PullContext) : unresolved c = (do
    reach c
    unsettled (← forge).remarks) := by
  simp only [unresolved, remarks, reach, bind_assoc, pure_bind]

/-- The comments that are not settled are found one after the other. -/
theorem unsettled_append (as bs : List Forge.Remark) :
    unsettled (as ++ bs) = (do
      let cs ← unsettled as
      let ds ← unsettled bs
      return cs ++ ds) := by
  induction as with
  | nil => simp [unsettled]
  | cons r as ih =>
      simp only [List.cons_append, unsettled, ih, bind_assoc]
      refine bind_congr fun settled => ?_
      cases settled with
      | true => rfl
      | false => simp

/-- Some unresolved comments, and then those of more comments that are not
settled. -/
def thenUnsettled (rs : List Forge.Remark) :
    EStateM.Result Fault World (List Comment) → EStateM.Result Fault World (List Comment)
  | .ok cs w => (do return cs ++ (← unsettled rs)) (remarked rs w)
  | .error e w => .error e (remarked rs w)

section

variable {rs : List Forge.Remark}

theorem unsettled_remarked (h : ∀ r ∈ rs, Unsettling r) (before : List Forge.Remark) (w : World) :
    unsettled (before ++ rs) (remarked rs w) = thenUnsettled rs (unsettled before w) := by
  have hbefore := unsettled_unaware h before w
  rw [unsettled_append]
  cases hfirst : unsettled before w with
  | error e w₁ =>
      rw [hfirst] at hbefore
      exact bind_of_error hbefore
  | ok cs w₁ =>
      rw [hfirst] at hbefore
      exact bind_of_ok hbefore

/-- Comments that settle nothing leave the unresolved ones as they are.  They only
add those of themselves that are not settled. -/
theorem unresolved_remarked (h : ∀ r ∈ rs, Unsettling r) (c : PullContext) (w : World) :
    unresolved c (remarked rs w) = thenUnsettled rs (unresolved c w) := by
  have hreach : Unaware rs (reach c) := (open_unaware c).bind fun _ => Unaware.send _
  have hrun := hreach w
  rw [unresolved_eq]
  cases hstart : reach c w with
  | error e w₁ =>
      rw [hstart] at hrun
      rw [bind_of_error hrun, bind_of_error hstart]
      rfl
  | ok u w₁ =>
      rw [hstart] at hrun
      rw [bind_of_ok hrun, bind_of_ok hstart]
      exact unsettled_remarked h w₁.forge.remarks w₁

end

/-! ## What is returned -/

/-- A comment is neither rejected nor outdated, and no reply settles it. -/
structure Pending (rs : List Forge.Remark) (r : Forge.Remark) : Prop where
  accepted : ∀ reactions, r.reactions = some reactions → reactions.contains rejection = false
  current : r.outdated = false
  /-- It is not settled. -/
  unsettled : settledBy r.id rs = false

theorem send_remarks (r : Forge.Request) (w : World) : ∃ w', w'.forge.remarks = w.forge.remarks ∧
    ((send r) w = .ok () w' ∨ ∃ e, (send r) w = .error e w') := by
  cases h : w.forge.outage w.forge.log.length r with
  | none =>
      refine ⟨_, ?_, Or.inl (send_of_none h)⟩
      rfl
  | some reason =>
      refine ⟨_, ?_, Or.inr ⟨_, send_of_some h⟩⟩
      rfl

theorem reach_remarks {c : PullContext} {w w' : World} (h : reach c w = .ok () w') :
    w'.forge.remarks = w.forge.remarks := by
  have hsend : ∀ {r : Forge.Request} {u v : World} {a : Unit}, (send r) u = .ok a v →
      v.forge.remarks = u.forge.remarks := by
    intro r u v a hrun
    obtain ⟨v', hsame, hok | ⟨e, herror⟩⟩ := send_remarks r u
    · rw [hok] at hrun
      cases hrun
      exact hsame
    · rw [herror] at hrun
      cases hrun
  unfold reach Pull.open at h
  obtain ⟨_, w₁, hopen, h⟩ := bind_eq_ok.1 h
  obtain ⟨_, w₂, h₂, hopen⟩ := bind_eq_ok.1 hopen
  obtain ⟨name, w₃, hname, hopen⟩ := bind_eq_ok.1 hopen
  obtain ⟨-, rfl⟩ := lift_eq_ok.1 hname
  obtain ⟨_, w₄, h₄, hopen⟩ := bind_eq_ok.1 hopen
  rw [hsend h, hsend hopen, hsend h₄, hsend h₂]

/-- Whether a comment is settled is always told, and it is not if it is pending. -/
theorem isSettled_spec (r : Forge.Remark) (w : World) :
    ∃ settled w', isSettled r w = .ok settled w' ∧ w'.forge.remarks = w.forge.remarks ∧
      (Pending w.forge.remarks r → settled = false) := by
  obtain ⟨w₁, hw₁, hsend | ⟨e, hsend⟩⟩ := send_remarks (.reactions r.id) w
  · cases hr : r.reactions with
    | none =>
        have hthrow : reactionsTo r w = .error (.outage "no reactions") w₁ := by
          rw [reactionsTo, bind_of_ok hsend, hr]
          rfl
        exact ⟨false, w₁, recover_of_error (bind_of_error hthrow), hw₁, fun _ => rfl⟩
    | some reactions =>
        have hread : reactionsTo r w = .ok reactions w₁ := by
          rw [reactionsTo, bind_of_ok hsend, hr]
          rfl
        unfold isSettled
        by_cases hgone : (reactions.contains rejection || r.outdated) = true
        · refine ⟨true, w₁, ?_, hw₁, fun hpending => ?_⟩
          · apply recover_of_ok
            rw [bind_of_ok hread, if_pos hgone]
            rfl
          · rw [hpending.accepted reactions hr, hpending.current] at hgone
            cases hgone
        · obtain ⟨w₂, hw₂, hsend₂ | ⟨e, hsend₂⟩⟩ := send_remarks .remarks w₁
          · refine ⟨settledBy r.id w₂.forge.remarks, w₂, ?_, hw₂.trans hw₁, fun hpending => ?_⟩
            · apply recover_of_ok
              rw [bind_of_ok hread, if_neg hgone]
              have hremarks : remarks w₁ = .ok w₂.forge.remarks w₂ := bind_of_ok hsend₂
              exact bind_of_ok hremarks
            · rw [hw₂, hw₁]
              exact hpending.unsettled
          · refine ⟨false, w₂, ?_, hw₂.trans hw₁, fun _ => rfl⟩
            apply recover_of_error
            rw [bind_of_ok hread, if_neg hgone]
            exact bind_of_error (bind_of_error hsend₂)
  · exact ⟨false, w₁, recover_of_error (bind_of_error (bind_of_error hsend)), hw₁, fun _ => rfl⟩

theorem mem_unsettled {l : List Forge.Remark} {w w' : World} {cs : List Comment}
    (h : unsettled l w = .ok cs w') {r : Forge.Remark} (hr : r ∈ l) (hpending : Pending w.forge.remarks r) :
    ∃ k ∈ cs, toComment r = .ok k := by
  induction l generalizing w cs with
  | nil => exact absurd hr List.not_mem_nil
  | cons r' l ih =>
      obtain ⟨settled, w₁, hsettled, hsame, hfalse⟩ := isSettled_spec r' w
      rw [unsettled, bind_of_ok hsettled] at h
      cases settled with
      | true =>
          rcases List.mem_cons.1 hr with rfl | hr
          · cases hfalse hpending
          · exact ih h hr (hsame ▸ hpending)
      | false =>
          obtain ⟨k, w₂, hlift, h⟩ := bind_eq_ok.1 h
          obtain ⟨hk, rfl⟩ := lift_eq_ok.1 hlift
          obtain ⟨ks, w₃, hks, h⟩ := bind_eq_ok.1 h
          cases h
          rcases List.mem_cons.1 hr with rfl | hr
          · exact ⟨k, List.mem_cons_self, hk⟩
          · obtain ⟨k', hmem, hk'⟩ := ih hks hr (hsame ▸ hpending)
            exact ⟨k', List.mem_cons_of_mem k hmem, hk'⟩

/-- Every pending comment of a pull request is unresolved. -/
theorem mem_unresolved {c : PullContext} {w w' : World} {cs : List Comment} (h : unresolved c w = .ok cs w')
    {r : Forge.Remark} (hr : r ∈ w.forge.remarks) (hpending : Pending w.forge.remarks r) :
    ∃ k ∈ cs, toComment r = .ok k := by
  rw [unresolved_eq] at h
  obtain ⟨_, w₁, hreach, h⟩ := bind_eq_ok.1 h
  rw [← reach_remarks hreach] at hr hpending
  exact mem_unsettled h hr hpending

/-! ## Marked comments -/

/-- A comment on the site that was posted between two worlds as a reply: it answers
the comment that a request was about, with the text of the request. -/
def Posted (w w' : World) (r : Forge.Remark) : Prop :=
  ∃ way body, way ≠ .resolve ∧ r.body = .str body ∧
    .mark way r.replyTo body ∈ w'.forge.log.drop w.forge.log.length

theorem Posted.unsettling {c : PullContext} {suggestions : Json} {w : World} {r : Forge.Remark}
    (h : Posted w (after (resolveGiven c suggestions) w) r) : Unsettling r := by
  obtain ⟨way, body, -, hbody, hmem⟩ := h
  obtain ⟨new, hlog, hnew⟩ := resolveGiven_makes c suggestions w
  rw [hlog, List.drop_left] at hmem
  have hreply : body = markingReply := hnew _ hmem _ _ _ rfl
  refine ⟨body, hbody, ?_⟩
  rw [hreply]
  decide +kernel

/-- After comments were marked by replies, the unresolved ones are those that would
be without the replies, and then the replies that are not settled themselves.  So
every comment that was pending is still returned, and so is every pending reply. -/
theorem unresolved_after_marking (c : PullContext) (suggestions : Json) (w w' : World)
    (hw' : w' = after (resolveGiven c suggestions) w) (replies : List Forge.Remark)
    (hposted : ∀ r ∈ replies, Posted w w' r) :
    unresolved c (remarked replies w') = thenUnsettled replies (unresolved c w') ∧
      ∀ cs w'', unresolved c (remarked replies w') = .ok cs w'' →
        ∀ r ∈ w'.forge.remarks ++ replies, Pending w'.forge.remarks r → ∃ k ∈ cs, toComment r = .ok k := by
  have hreplies : ∀ r ∈ replies, Unsettling r := fun r hr => by
    have h := hposted r hr
    rw [hw'] at h
    exact h.unsettling
  refine ⟨unresolved_remarked hreplies c w', fun cs w'' hrun r hr hpending => ?_⟩
  refine mem_unresolved hrun hr ⟨hpending.accepted, hpending.current, ?_⟩
  exact (settledBy_append hreplies r.id w'.forge.remarks).trans hpending.unsettled

def somePull : PullContext := ⟨.obj [("full_name", .str "o/r")], .int 1, .int 1⟩

/-- A world with one comment, in which replies can be posted. -/
def oneRemark : World where
  forge := { remarks := [{ id := .int 5, body := .str "fix this" }], threadReply := some true }
  reviewer := Advisor.constant (.ok none)
  refiner := Advisor.constant (.error (.outage "refiner"))
  parsers := Outline.Parsers.sound
  formatter := Formatter.absent

def oneMarked : World := after (resolveGiven somePull (.arr [.arr [.str "5", .str "f.py"]])) oneRemark

def markOfFive : Forge.Remark := { id := .int 6, body := .str markingReply, replyTo := .int 5 }

theorem markOfFive_posted : Posted oneRemark oneMarked markOfFive := by
  have hlog : oneMarked.forge.log = [.installation (.int 1), .repository (.str "o/r"),
      .pull (.int 1) (.str "o/r") (.int 1), .remark 5, .mark .thread (.int 5) markingReply] := rfl
  refine ⟨.thread, markingReply, by decide, rfl, ?_⟩
  rw [hlog]
  simp [oneRemark, markOfFive]

theorem unresolved_after_marking_five : Posted oneRemark oneMarked markOfFive ∧
    Pending oneMarked.forge.remarks markOfFive ∧
    unresolved somePull (remarked [markOfFive] oneMarked) =
      thenUnsettled [markOfFive] (unresolved somePull oneMarked) ∧
    ∀ cs w, unresolved somePull (remarked [markOfFive] oneMarked) = .ok cs w →
      ∃ k ∈ cs, toComment markOfFive = .ok k := by
  have hposted : ∀ r ∈ [markOfFive], Posted oneRemark oneMarked r := fun r hr =>
    List.mem_singleton.1 hr ▸ markOfFive_posted
  have hpending : Pending oneMarked.forge.remarks markOfFive :=
    ⟨fun reactions h => by cases h; rfl, rfl, by decide +kernel⟩
  obtain ⟨heq, hmem⟩ := unresolved_after_marking somePull (.arr [.arr [.str "5", .str "f.py"]])
    oneRemark oneMarked rfl [markOfFive] hposted
  refine ⟨markOfFive_posted, hpending, heq, fun cs w hrun => ?_⟩
  exact hmem cs w hrun markOfFive (List.mem_append_right _ (List.mem_singleton_self _)) hpending

/-- The numbers of the comments that an operation returns. -/
def numbers : EStateM.Result Fault World (List Comment) → Option (List String)
  | .ok cs _ => some (cs.map (·.id.displayed))
  | .error _ _ => none

/-- A comment that was marked by a reply is unresolved, and so is the reply. -/
theorem marked_comment_unresolved : Posted oneRemark oneMarked markOfFive ∧
    numbers (unresolved somePull (remarked [markOfFive] oneMarked)) = some ["5", "6"] :=
  ⟨markOfFive_posted, by decide +kernel⟩

end Redline.Pull
