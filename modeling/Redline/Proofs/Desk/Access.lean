import Redline.Proofs.Auth.Signature
import Redline.Proofs.Desk.Exclusion

/-!
# What a request can do

A request may hold an order, and that depends on the request and the secret alone
(`ordered?`).  Carrying out the order is all that an event does to the world, and its
answer is fixed before (`receiveBy_eq`).  So an event without a valid signature changes
nothing, an operation is started only for a signed event that asks for it, and nothing that
happens in the operation changes the answer (`events_guarded`).
-/

namespace Redline.Webhook

open Http (Framework Response)
open Session

/-! ## Carrying out an order -/

/-- Those who carry out orders. -/
structure Staff (σ : Type) where
  isBusy : PullContext → EStateM Fault σ Bool
  refuse : PullContext → EStateM Fault σ Unit
  handle : Task → PullContext → EStateM Fault σ Unit

def staff : Staff World where
  isBusy := Pull.isInProgress
  refuse c := Pull.postComment c (.str busy)
  handle
    | .review => Desk.handleReview
    | .refinement => Desk.handleRefinement

/-- Something that the staff does, with where it starts and how it ends. -/
inductive Visit (σ : Type) where
  | asked (c : PullContext) (start : σ) (result : EStateM.Result Fault σ Bool)
  | refused (c : PullContext) (start : σ) (result : EStateM.Result Fault σ Unit)
  | handled (t : Task) (c : PullContext) (start : σ) (result : EStateM.Result Fault σ Unit)

def Visit.isHandling {σ : Type} : Visit σ → Bool
  | .handled .. => true
  | _ => false

section

variable {σ : Type}

/-- The staff with a journal of what it does. -/
def Staff.journaled (s : Staff σ) : Staff (σ × List (Visit σ)) where
  isBusy c := noted (.asked c) (s.isBusy c)
  refuse c := noted (.refused c) (s.refuse c)
  handle t c := noted (.handled t c) (s.handle t c)

def executeBy (s : Staff σ) (o : Order) : EStateM Fault σ Unit := do
  if ← s.isBusy o.context then s.refuse o.context
  else
    match Task.ofLabel? o.label with
    | some t => s.handle t o.context
    | none => return

/-- What comes of an order, if there is one.  Faults stay inside. -/
def attend (s : Staff σ) : Option Order → EStateM Fault σ Unit
  | none => pure ()
  | some o => recover () (executeBy s o)

end

theorem Task.ofLabel?_eq_some {label : Json} {t : Task} : ofLabel? label = some t ↔ label = t.operation.label := by
  constructor
  · intro h
    unfold ofLabel? at h
    split at h
    next => cases h; rfl
    next => cases h; rfl
    next => cases h
  · rintro rfl
    cases t <;> rfl

theorem execute_eq (o : Order) : execute o = executeBy staff o := by
  refine bind_congr fun isBusy => ?_
  cases isBusy with
  | true => rfl
  | false =>
      cases ht : Task.ofLabel? o.label with
      | some t =>
          rw [Task.ofLabel?_eq_some.1 ht]
          cases t <;> rfl
      | none =>
          have hnone : operationFor o.label = none := by
            unfold Task.ofLabel? at ht
            split at ht
            next => cases ht
            next => cases ht
            next h₁ h₂ => simp [operationFor]
          rw [hnone]
          rfl

/-- What is done for an order, after the answer whether the pull request is being worked on. -/
def visitsFor (o : Order) (w : World) (busy : Bool) (w₁ : World) : List (Visit World) :=
  .asked o.context w (.ok busy w₁) ::
    if busy then [.refused o.context w₁ (staff.refuse o.context w₁)]
    else
      match Task.ofLabel? o.label with
      | some t => [.handled t o.context w₁ (staff.handle t o.context w₁)]
      | none => []

section

variable {o : Order} {w w₁ : World} {busy : Bool}

theorem executeBy_enters (hbusy : staff.isBusy o.context w = .ok busy w₁) :
    Enters (executeBy staff.journaled o) (executeBy staff o) w (visitsFor o w busy w₁) := by
  have hasked : Enters (staff.journaled.isBusy o.context) (staff.isBusy o.context) w
      [.asked o.context w (.ok busy w₁)] := hbusy ▸ Enters.noted _ _
  refine hasked.bind hbusy ?_
  cases busy with
  | true => exact Enters.noted _ _
  | false =>
      cases Task.ofLabel? o.label with
      | some t => exact Enters.noted _ _
      | none => exact Enters.pure ()

theorem handled_mem_visitsFor {t : Task} {c : PullContext} {start : World} :
    (∃ result, .handled t c start result ∈ visitsFor o w busy w₁) ↔
      busy = false ∧ o.label = t.operation.label ∧ c = o.context ∧ start = w₁ := by
  rw [← Task.ofLabel?_eq_some]
  cases busy with
  | true => simp [visitsFor]
  | false =>
      cases ht : Task.ofLabel? o.label with
      | none => simp [visitsFor, ht]
      | some t' =>
          simp only [visitsFor, ht, Bool.false_eq_true, if_false, List.mem_cons, reduceCtorEq, List.not_mem_nil,
            or_false, false_or, true_and, Visit.handled.injEq, Option.some.injEq]
          constructor
          · rintro ⟨result, rfl, rfl, rfl, -⟩
            exact ⟨rfl, rfl, rfl⟩
          · rintro ⟨rfl, rfl, rfl⟩
            exact ⟨_, rfl, rfl, rfl, rfl⟩

theorem count_visitsFor : (visitsFor o w busy w₁).countP Visit.isHandling ≤ 1 := by
  cases busy with
  | true => simp [visitsFor, Visit.isHandling]
  | false => cases ht : Task.ofLabel? o.label <;> simp [visitsFor, ht, Visit.isHandling]

end

/-- `handleLabeled` with the staff as an argument. -/
def Staff.handleLabeled {σ : Type} (s : Staff σ) (payload : Json) : EStateM Fault σ Unit := attend s (order? payload)

theorem handleLabeled_eq : handleLabeled = staff.handleLabeled := by
  funext payload
  unfold handleLabeled Staff.handleLabeled
  cases order? payload with
  | none => rfl
  | some o =>
      dsimp only
      rw [execute_eq, attend]

/-! ## Views and what handles new labels -/

section

variable {ρ σ : Type} (handle : Json → EStateM Fault σ Unit) (F : Framework ρ) (secret : Option String) (r : ρ)

/-- `receive` with what handles new labels as an argument. -/
def receiveBy : EStateM Fault σ Response :=
  match F.data r with
  | .error e => pure (rejected e)
  | .ok body => do
      if !isSigned F secret r body then return unsigned
      match payloadOf F r with
      | .error e => return rejected e
      | .ok payload =>
          if isLabeled (F.header? r "X-GitHub-Event") (payload.getD "action") then handle payload
          return accepted

/-- `serve` with what handles new labels as an argument. -/
def serveBy : EStateM Fault σ Response :=
  match F.lead r with
  | .error response => pure response
  | .ok .status => pure healthy
  | .ok .events => receiveBy handle F secret r

def eventReply : Response :=
  match F.data r with
  | .error e => rejected e
  | .ok body =>
      if !isSigned F secret r body then unsigned
      else
        match payloadOf F r with
        | .error e => rejected e
        | .ok _ => accepted

/-- An event does nothing but carry out the order in it, and its answer is fixed before. -/
theorem receiveBy_eq (s : Staff σ) : receiveBy s.handleLabeled F secret r = (do
    attend s (ordered? F secret r)
    return eventReply F secret r) := by
  have hnone : ∀ response : Response, ordered? F secret r = none →
      (do attend s (ordered? F secret r); return response) = (pure response : EStateM Fault σ Response) := by
    intro response h
    rw [h]
    rfl
  unfold receiveBy eventReply
  cases hdata : F.data r with
  | error e => exact (hnone _ (by simp [ordered?, hdata, Except.toOption])).symm
  | ok body =>
      dsimp only
      cases hsigned : isSigned F secret r body with
      | false => exact (hnone _ (by simp [ordered?, hdata, Except.toOption, hsigned])).symm
      | true =>
          cases hpayload : payloadOf F r with
          | error e => exact (hnone _ (by simp [ordered?, hpayload, Except.toOption])).symm
          | ok payload =>
              dsimp only
              cases hlabeled : isLabeled (F.header? r "X-GitHub-Event") (payload.getD "action") with
              | false => exact (hnone _ (by simp [ordered?, hpayload, Except.toOption, hlabeled])).symm
              | true =>
                  have hsome : ordered? F secret r = order? payload := by
                    simp [ordered?, hdata, hsigned, hpayload, Except.toOption, hlabeled]
                  rw [hsome]
                  rfl

end

theorem serve_eq {ρ : Type} (F : Framework ρ) (secret : Option String) (r : ρ) :
    serve F secret r = serveBy staff.handleLabeled F secret r :=
  congrArg (serveBy · F secret r) handleLabeled_eq

/-! ## What entitles to an operation -/

/-- The number in a payload: that of the pull request, or that of the payload itself if it
has none. -/
def number? (payload : Json) : Option Json := do
  let pull ← member? payload "pull_request"
  member? (if pull.truthy then pull else payload) "number"

/-- A payload tells that the label of a task was put on a pull request. -/
structure Tells (payload : Json) (t : Task) (c : PullContext) : Prop where
  action : payload.getD "action" = .str "labeled"
  label : nested? payload "label" "name" = some t.operation.label
  repository : member? payload "repository" = some c.repository ∧ c.repository.truthy = true
  number : ∃ v n, number? payload = some v ∧ v.truthy = true ∧ v.toInteger = .ok n ∧ c.number = .int n
  installation : ∃ v n, nested? payload "installation" "id" = some v ∧ v.truthy = true ∧ v.toInteger = .ok n ∧
    c.installation = .int n

section

variable {ρ : Type} (F : Framework ρ) (secret : String) (r : ρ)

/-- A request has the signature of its body, to the letter. -/
def Signed : Prop :=
  F.header? r "X-Hub-Signature-256" = some (String.ofList (Auth.signatureHeader secret (F.body r)))

/-- A request entitles to a task on a pull request. -/
structure Entitled (t : Task) (c : PullContext) : Prop where
  signed : Signed F secret r
  event : F.header? r "X-GitHub-Event" = some "pull_request" ∨ F.header? r "X-GitHub-Event" = some "issues"
  tells : ∃ payload, F.json r = .ok payload ∧ Tells payload t c

end

theorem given?_eq_some {v v' : Json} : given? v = some v' ↔ v = v' ∧ v'.truthy = true := by
  unfold given?
  split
  next htrue =>
    rw [Option.some.injEq]
    exact ⟨fun heq => ⟨heq, heq ▸ htrue⟩, And.left⟩
  next hfalse =>
    constructor
    · intro h
      cases h
    · rintro ⟨rfl, htrue⟩
      exact absurd htrue hfalse

theorem isLabeled_iff {event : Option String} {action : Json} : isLabeled event action = true ↔
    (event = some "pull_request" ∨ event = some "issues") ∧ action = .str "labeled" := by
  simp [isLabeled, Json.str?_eq_some]

/-- The order in a payload that tells of a label is the one that it entitles to. -/
theorem tells_iff {payload : Json} {t : Task} {c : PullContext} :
    Tells payload t c ↔ payload.getD "action" = .str "labeled" ∧ order? payload = some ⟨c, t.operation.label⟩ := by
  simp only [order?, Option.bind_eq_bind, Option.bind_eq_some_iff, given?_eq_some, Refine.toOption_eq_some]
  constructor
  · rintro ⟨haction, hlabel, ⟨hrepository, htrue⟩, ⟨number, n, hnumber, hntrue, hn, hcn⟩,
      installation, i, hinstallation, hitrue, hi, hci⟩
    obtain ⟨pull, hpull, hnumber⟩ := Option.bind_eq_some_iff.1 hnumber
    refine ⟨haction, c.repository, hrepository, installation, hinstallation, pull, hpull, number, hnumber,
      t.operation.label, hlabel, c.repository, ⟨rfl, htrue⟩, number, ⟨rfl, hntrue⟩, installation, ⟨rfl, hitrue⟩,
      i, hi, n, hn, ?_⟩
    rw [← hcn, ← hci]
    rfl
  · rintro ⟨haction, repository, hrepository, installation, hinstallation, pull, hpull, number, hnumber, label, hlabel,
      _, ⟨rfl, htrue⟩, _, ⟨rfl, hntrue⟩, _, ⟨rfl, hitrue⟩, i, hi, n, hn, heq⟩
    cases heq
    exact ⟨haction, hlabel, ⟨hrepository, htrue⟩, ⟨number, n, Option.bind_eq_some_iff.2 ⟨pull, hpull, hnumber⟩, hntrue,
      hn, rfl⟩, installation, i, hinstallation, hitrue, hi, rfl⟩

/-- Only a record tells of a label. -/
theorem payloadOf_of_tells {ρ : Type} {F : Framework ρ} {r : ρ} {payload : Json} {t : Task} {c : PullContext}
    (h : Tells payload t c) : payloadOf F r = .ok payload ↔ F.json r = .ok payload := by
  have hrecord : ∃ fields, payload = .obj fields := by
    have hmember := h.repository.1
    unfold member? at hmember
    split at hmember
    next fields => exact ⟨fields, rfl⟩
    next => cases hmember
  obtain ⟨fields, rfl⟩ := hrecord
  unfold payloadOf
  cases F.json r with
  | error e => simp [bind, Except.bind]
  | ok v => cases v <;> simp [bind, Except.bind, pure, Except.pure, throw, throwThe, MonadExceptOf.throw]

section

variable {ρ : Type} {F : Framework ρ} {r : ρ} {secret : String}

theorem ordered?_eq_some (hF : F.LawfulAt r) {o : Order} : ordered? F (some secret) r = some o ↔
    Signed F secret r ∧ ∃ payload, payloadOf F r = .ok payload ∧
      ((F.header? r "X-GitHub-Event" = some "pull_request" ∨ F.header? r "X-GitHub-Event" = some "issues") ∧
        payload.getD "action" = .str "labeled") ∧ order? payload = some o := by
  rw [ordered?, hF.data, Except.toOption]
  simp only [Option.bind_eq_bind, Option.bind_some, Option.bind_eq_some_iff, Option.guard_eq_some', exists_const,
    isSigned, Auth.verify_iff, Refine.toOption_eq_some, isLabeled_iff, Signed]

/-- A request holds the order for a task exactly if it entitles to the task. -/
theorem ordered?_iff (hF : F.LawfulAt r) {t : Task} {c : PullContext} :
    ordered? F (some secret) r = some ⟨c, t.operation.label⟩ ↔ Entitled F secret r t c := by
  rw [ordered?_eq_some hF]
  constructor
  · rintro ⟨hsigned, payload, hpayload, ⟨hevent, haction⟩, horder⟩
    have htells := tells_iff.2 ⟨haction, horder⟩
    exact ⟨hsigned, hevent, payload, (payloadOf_of_tells htells).1 hpayload, htells⟩
  · rintro ⟨hsigned, hevent, payload, hjson, htells⟩
    obtain ⟨haction, horder⟩ := tells_iff.1 htells
    exact ⟨hsigned, payload, (payloadOf_of_tells htells).2 hjson, ⟨hevent, haction⟩, horder⟩

/-- An event without a valid signature is told so. -/
theorem eventReply_unsigned (hF : F.LawfulAt r) (h : ¬ Signed F secret r) :
    eventReply F (some secret) r = unsigned := by
  have hsigned : isSigned F (some secret) r (F.body r) = false := by
    rw [Bool.eq_false_iff, Ne, isSigned, Auth.verify_iff]
    exact h
  rw [eventReply, hF.data]
  dsimp only
  rw [hsigned]
  rfl

/-! ## The guard -/

/-- Carrying out an order ends with whatever is to be answered, and the journal tells what
was done: nothing without an order, and otherwise at most one operation, which is handled
if the order is for it and the pull request is not being worked on. -/
theorem attend_enters (order : Option Order) (reply : Response) (w : World) : ∃ visits w',
    Enters (do attend staff.journaled order; return reply) (do attend staff order; return reply) w visits ∧
      (do attend staff order; return reply : Session Response) w = .ok reply w' ∧
      (visits ≠ [] → order.isSome = true) ∧ (visits = [] → w' = w) ∧ visits.countP Visit.isHandling ≤ 1 ∧
      ∀ t c start, (∃ result, .handled t c start result ∈ visits) ↔
        order = some ⟨c, t.operation.label⟩ ∧ Pull.isInProgress c w = .ok false start := by
  cases order with
  | none =>
      refine ⟨[], w, (Enters.pure ()).bind rfl (Enters.pure reply), rfl, fun hne => absurd rfl hne, fun _ => rfl,
        Nat.zero_le 1, fun t c start => ?_⟩
      simp
  | some o =>
      obtain ⟨busy, w₁, hbusy⟩ : ∃ busy w₁, Pull.isInProgress o.context w = .ok busy w₁ := recover_ok _ _ _
      obtain ⟨_, w', hrun⟩ : ∃ u w', attend staff (some o) w = .ok u w' := recover_ok _ _ _
      have henters : Enters (attend staff.journaled (some o)) (attend staff (some o)) w (visitsFor o w busy w₁) :=
        (executeBy_enters hbusy).recover ()
      have hvisits := henters.bind (g := fun _ => pure reply) (f := fun _ => pure reply) hrun (Enters.pure reply)
      rw [List.append_nil] at hvisits
      refine ⟨visitsFor o w busy w₁, w', hvisits, bind_of_ok hrun, fun _ => rfl,
        fun hnil => absurd hnil (List.cons_ne_nil _ _), count_visitsFor, fun t c start => ?_⟩
      rw [handled_mem_visitsFor]
      constructor
      · rintro ⟨rfl, hlabel, rfl, rfl⟩
        exact ⟨hlabel ▸ rfl, hbusy⟩
      · rintro ⟨horder, hfree⟩
        cases horder
        rw [hbusy] at hfree
        cases hfree
        exact ⟨rfl, rfl, rfl, rfl⟩

/-- A request with the method and the path of events has an answer that does not depend on
the world.  Without a valid signature the answer says so, and nothing is done.  At most one
operation is handled, and exactly if the request entitles to it and the pull request is not
being worked on. -/
theorem events_guarded (hF : F.LawfulAt r) (hmethod : F.method r = "POST") (hpath : F.path r = "/api/webhook")
    (secret : String) : ∃ reply : Response,
    (¬ Signed F secret r → reply = unsigned) ∧
      ∀ w, ∃ visits w',
        Enters (serveBy staff.journaled.handleLabeled F (some secret) r) (serve F (some secret) r) w visits ∧
        serve F (some secret) r w = .ok reply w' ∧
        (visits ≠ [] → Signed F secret r) ∧ (visits = [] → w' = w) ∧ visits.countP Visit.isHandling ≤ 1 ∧
        ∀ t c start, (∃ result, .handled t c start result ∈ visits) ↔
          Entitled F secret r t c ∧ Pull.isInProgress c w = .ok false start := by
  have hlead : F.lead r = .ok .events := hF.lead .events hmethod hpath
  refine ⟨eventReply F (some secret) r, eventReply_unsigned hF, fun w => ?_⟩
  obtain ⟨visits, w', henters, hrun, hsome, hnil, hcount, hhandled⟩ :=
    attend_enters (ordered? F (some secret) r) (eventReply F (some secret) r) w
  simp only [serve_eq, serveBy, hlead, receiveBy_eq]
  refine ⟨visits, w', henters, hrun, fun hne => ?_, hnil, hcount, fun t c start => ?_⟩
  · obtain ⟨o, horder⟩ := Option.isSome_iff_exists.1 (hsome hne)
    exact ((ordered?_eq_some hF).1 horder).1
  · rw [hhandled, ordered?_iff hF]

end

theorem labeledMessage_entitled :
    ∃ c, Entitled plain "s" (labeledMessage "s") .review c ∧ Pull.Served c Desk.awaiting := by
  obtain ⟨⟨c, t⟩, hasked, hpair⟩ := Option.map_eq_some_iff.1 asked_labeledMessage
  rw [Prod.mk.injEq] at hpair
  obtain ⟨hname, rfl⟩ := hpair
  obtain ⟨name, hname, -⟩ := Option.bind_eq_some_iff.1 hname
  obtain ⟨o, horder, hasked⟩ := Option.bind_eq_some_iff.1 hasked
  obtain ⟨_, htask, heq⟩ := Option.bind_eq_some_iff.1 hasked
  cases heq
  have hlabel : o = ⟨o.context, Task.review.operation.label⟩ := by rw [← Task.ofLabel?_eq_some.1 htask]
  rw [hlabel] at horder
  exact ⟨o.context, (ordered?_iff (plain_lawful _)).1 horder, fun _ _ => rfl, name, Refine.toOption_eq_some.1 hname⟩

theorem events_guarded_review : ∃ visits c start,
    Enters (serveBy staff.journaled.handleLabeled plain (some "s") (labeledMessage "s"))
      (serve plain (some "s") (labeledMessage "s")) Desk.awaiting visits ∧
    (∃ result, .handled .review c start result ∈ visits) ∧ visits.countP Visit.isHandling ≤ 1 := by
  obtain ⟨c, hentitled, hserved⟩ := labeledMessage_entitled
  have hlabels : Pull.Labelled ["bug", "agentic-review"] Desk.awaiting := rfl
  obtain ⟨start, hfree, -⟩ := Pull.isInProgress_of_served hserved hlabels
  obtain ⟨reply, -, hvisits⟩ := events_guarded (plain_lawful (labeledMessage "s")) rfl rfl "s"
  obtain ⟨visits, w', henters, -, -, -, hcount, hhandled⟩ := hvisits Desk.awaiting
  exact ⟨visits, c, start, henters, (hhandled .review c start).2 ⟨hentitled, hfree⟩, hcount⟩

end Redline.Webhook
