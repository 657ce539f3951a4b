import Mathlib.Data.Bool.Count
import Redline.Json.Reader
import Redline.Json.Encoding
import Redline.Proofs.Auth.Signature
import Redline.Proofs.Desk.Supervision
import Redline.Webhook

/-!
# Requests that overlap

A request for an operation on a pull request is handled in steps.  It is refused if
the label is there that says that the pull request is being worked on.  Otherwise the
label is put on, the operation runs, and the label is taken off.  The steps of two
requests may come in any order.  Whether the label is there is asked in one step and
it is put on in another.  So both operations run at once exactly if both requests ask
before either puts the label on (`both_running_iff`).
-/

namespace Redline.Desk

variable {σ α : Type}

/-- What is done when an operation has come to its end. -/
def conclude (d : Office σ) (o : Operation) : Except Fault α → EStateM Fault σ α
  | .ok a => do
      close d
      d.postComment o.success
      return a
  | .error e => do
      let told ← attempt (d.postComment (.str (o.failure e)))
      close d
      match told with
      | .ok _ => throw e
      | .error e' => throw e'

theorem supervise_eq (d : Office σ) (o : Operation) (body : EStateM Fault σ α) :
    supervise d o body = attempt (perform d o body) >>= conclude d o := by
  refine bind_congr fun outcome => ?_
  cases outcome <;> rfl

end Redline.Desk

namespace Redline.Webhook

open Desk (office opening conclude supervise_eq)
open Http (Framework View)
open Pull (inProgress Labelled Served)
open Refine (firstPull)
open Session

variable {ρ : Type} {F : Framework ρ}

/-! ## The steps of a request -/

/-- What a request can ask for. -/
inductive Task where
  | review
  | refinement
  deriving DecidableEq

namespace Task

def operation : Task → Desk.Operation
  | review => Desk.review
  | refinement => Desk.refinement

def body (c : PullContext) : Task → Session Unit
  | review => Desk.reviewPull c
  | refinement => discard (Refine.run c)

def ofLabel? : Json → Option Task
  | .str "agentic-review" => some review
  | .str "agentic-refine" => some refinement
  | _ => none

theorem operationFor_of_label {label : Json} {t : Task} (h : ofLabel? label = some t) :
    operationFor label = some fun c => Desk.supervise (office c) t.operation (t.body c) := by
  unfold ofLabel? at h
  split at h
  next => cases h; rfl
  next => cases h; rfl
  next => cases h

theorem operation_label (t : Task) : ∃ label, t.operation.label = .str label ∧ label ≠ inProgress := by
  cases t with
  | review => exact ⟨_, rfl, by decide⟩
  | refinement => exact ⟨_, rfl, by decide⟩

end Task

/-- How far a request has got. -/
inductive Stage where
  | received
  /-- The label was not there. -/
  | admitted
  | running
  | ended (outcome : Except Fault Unit)
  | done

/-- Does something after which nothing is left to be done.  Faults stay inside. -/
def last (x : Session Unit) : Session Stage := do
  recover () x
  return .done

def advance (c : PullContext) (t : Task) : Stage → Session Stage
  | .received => do
      if ← Pull.isInProgress c then last (Pull.postComment c (.str busy))
      else return .admitted
  | .admitted => do
      discard (Pull.manageLabels c opening (.arr [t.operation.label]))
      return .running
  | .running => return .ended (← attempt (t.body c))
  | .ended outcome => last (conclude (office c) t.operation outcome)
  | .done => return .done

/-- Some steps of a request with nothing in between. -/
def walk (c : PullContext) (t : Task) : Nat → Stage → Session Stage
  | 0, stage => pure stage
  | n + 1, stage => advance c t stage >>= walk c t n

/-- The order in a signed request that tells of a new label. -/
def ordered? (F : Framework ρ) (secret : Option String) (r : ρ) : Option Order := do
  let body ← (F.data r).toOption
  guard (isSigned F secret r body)
  let payload ← (payloadOf F r).toOption
  guard (isLabeled (F.header? r "X-GitHub-Event") (payload.getD "action"))
  order? payload

/-- The pull request that a signed request tells of a new label on, and what the label
asks for. -/
def asked? (F : Framework ρ) (secret : Option String) (r : ρ) : Option (PullContext × Task) := do
  let o ← ordered? F secret r
  let t ← Task.ofLabel? o.label
  return (o.context, t)

section

variable {c : PullContext} {t : Task} {w w₁ : World}

theorem last_apply (x : Session Unit) (w : World) : last x w = .ok .done (after x w) := by
  unfold last after
  cases h : x w with
  | ok u w' => exact bind_of_ok (recover_of_ok h)
  | error e w' => exact bind_of_ok (recover_of_error h)

theorem advance_busy (h : Pull.isInProgress c w = .ok true w₁) :
    advance c t .received w = .ok .done (after (Pull.postComment c (.str busy)) w₁) := by
  rw [advance, bind_of_ok h]
  exact last_apply _ w₁

theorem advance_free (h : Pull.isInProgress c w = .ok false w₁) : advance c t .received w = .ok .admitted w₁ := by
  rw [advance, bind_of_ok h]
  rfl

theorem advance_admitted {opened : Bool}
    (h : Pull.manageLabels c opening (.arr [t.operation.label]) w = .ok opened w₁) :
    advance c t .admitted w = .ok .running w₁ := by
  rw [advance, bind_of_ok (discard_of_ok h)]
  rfl

theorem advance_running {outcome : Except Fault Unit} (h : attempt (t.body c) w = .ok outcome w₁) :
    advance c t .running w = .ok (.ended outcome) w₁ := by
  rw [advance, bind_of_ok h]
  rfl

theorem advance_ended (outcome : Except Fault Unit) (w : World) :
    advance c t (.ended outcome) w = .ok .done (after (conclude (office c) t.operation outcome) w) :=
  last_apply _ w

theorem walk_succ {n : Nat} {stage next : Stage} (h : advance c t stage w = .ok next w₁) :
    after (walk c t (n + 1) stage) w = after (walk c t n next) w₁ :=
  after_bind_of_ok h

theorem after_walk_done (n : Nat) (w : World) : after (walk c t n .done) w = w := by
  induction n with
  | zero => rfl
  | succ n ih => exact ih

/-- A request that is alone is handled in four steps. -/
theorem after_walk {o : Order} (h : Task.ofLabel? o.label = some t) (w : World) :
    after (walk o.context t 4 .received) w = after (execute o) w := by
  obtain ⟨found, w₁, hfound⟩ : ∃ found w₁, Pull.isInProgress o.context w = .ok found w₁ := recover_ok ..
  rw [execute, after_bind_of_ok hfound, Task.operationFor_of_label h]
  cases found with
  | true =>
      rw [walk_succ (advance_busy hfound), after_walk_done]
      rfl
  | false =>
      obtain ⟨opened, w₂, hopen⟩ : ∃ opened w₂,
        Pull.manageLabels o.context opening (.arr [t.operation.label]) w₁ = .ok opened w₂ := recover_ok ..
      obtain ⟨outcome, houtcome⟩ := attempt_ok (t.body o.context) w₂
      have hrun : attempt (Desk.perform (office o.context) t.operation (t.body o.context)) w₁ =
          .ok outcome (after (t.body o.context) w₂) := by
        rw [attempt, Desk.perform_eq hopen]
        exact houtcome
      have hend : after (Desk.supervise (office o.context) t.operation (t.body o.context)) w₁ =
          after (conclude (office o.context) t.operation outcome) (after (t.body o.context) w₂) := by
        rw [supervise_eq]
        exact after_bind_of_ok hrun
      rw [walk_succ (advance_free hfound), walk_succ (advance_admitted hopen), walk_succ (advance_running houtcome),
        walk_succ (advance_ended outcome _)]
      exact hend.symm

/-- A signed request that is alone is handled in four steps. -/
theorem receive_in_steps {secret : Option String} {r : ρ} (h : asked? F secret r = some (c, t)) (w : World) :
    after (receive F secret r) w = after (walk c t 4 .received) w := by
  simp only [asked?, ordered?, Option.bind_eq_bind, Option.bind_eq_some_iff, Option.guard_eq_some'] at h
  obtain ⟨o, ⟨body, hbody, _, hsigned, payload, hpayload, _, hlabeled, horder⟩, _, htask, heq⟩ := h
  cases heq
  have hreceive : receive F secret r = (do handleLabeled payload; return accepted) := by
    simp only [receive, Refine.toOption_eq_some.1 hbody, receiveBody, hsigned, Refine.toOption_eq_some.1 hpayload,
      hlabeled]
    rfl
  have hhandle : handleLabeled payload = recover () (execute o) := by rw [handleLabeled, horder]
  obtain ⟨u, w₁, hrun⟩ := recover_ok () (execute o) w
  rw [after_walk htask, hreceive, hhandle, after_bind_of_ok hrun, ← after_recover (), after_of_ok hrun]
  rfl

end

/-! ## Two requests -/

/-- Two requests on their way. -/
structure Scene where
  world : World
  stage : Bool → Stage

namespace Scene

def start (w : World) : Scene := ⟨w, fun _ => .received⟩

def reach (s : Scene) (i : Bool) (next : Stage) (w : World) : Scene :=
  ⟨w, fun j => if j = i then next else s.stage j⟩

def step (c : PullContext) (task : Bool → Task) (s : Scene) (i : Bool) : Scene :=
  match advance c (task i) (s.stage i) s.world with
  | .ok next w => s.reach i next w
  | .error _ w => s.reach i .done w

def run (c : PullContext) (task : Bool → Task) (s : Scene) (schedule : List Bool) : Scene :=
  schedule.foldl (step c task) s

end Scene

/-- How many steps were made before a stage, if a request has not got past the start of
its operation. -/
def Stage.steps? : Stage → Option Nat
  | .received => some 0
  | .admitted => some 1
  | .running => some 2
  | .ended _ => none
  | .done => none

section

variable {c : PullContext} {task : Bool → Task} {s : Scene} {i : Bool} {names : List String}

theorem advance_steps {t : Task} {stage next : Stage} {w w' : World} {n : Nat}
    (h : advance c t stage w = .ok next w') (hn : next.steps? = some n) :
    ∃ m, stage.steps? = some m ∧ n = m + 1 := by
  cases stage with
  | received =>
      obtain ⟨found, w₁, hfound⟩ : ∃ found w₁, Pull.isInProgress c w = .ok found w₁ := recover_ok ..
      cases found with
      | true =>
          rw [advance_busy hfound] at h
          cases h
          cases hn
      | false =>
          rw [advance_free hfound] at h
          cases h
          cases hn
          exact ⟨0, rfl, rfl⟩
  | admitted =>
      obtain ⟨opened, w₁, hopen⟩ : ∃ opened w₁,
        Pull.manageLabels c opening (.arr [t.operation.label]) w = .ok opened w₁ := recover_ok ..
      rw [advance_admitted hopen] at h
      cases h
      cases hn
      exact ⟨1, rfl, rfl⟩
  | running =>
      obtain ⟨outcome, houtcome⟩ := attempt_ok (t.body c) w
      rw [advance_running houtcome] at h
      cases h
      cases hn
  | ended outcome =>
      rw [advance_ended] at h
      cases h
      cases hn
  | done =>
      cases h
      cases hn

theorem step_of_ok {next : Stage} {w : World} (h : advance c (task i) (s.stage i) s.world = .ok next w) :
    s.step c task i = s.reach i next w := by
  rw [Scene.step, h]

theorem reach_stage (s : Scene) (i : Bool) (next : Stage) (w : World) : (s.reach i next w).stage i = next :=
  if_pos rfl

theorem reach_other {j : Bool} (s : Scene) (next : Stage) (w : World) (h : j ≠ i) :
    (s.reach i next w).stage j = s.stage j :=
  if_neg h

/-- A request that has not got past the start of its operation has made one step for
each time that it was its turn. -/
theorem run_steps (schedule : List Bool) {n : Nat} (h : ((s.run c task schedule).stage i).steps? = some n) :
    ∃ m, (s.stage i).steps? = some m ∧ n = m + schedule.count i := by
  induction schedule generalizing s with
  | nil => exact ⟨n, h, rfl⟩
  | cons j schedule ih =>
      obtain ⟨m, hm, rfl⟩ := ih (s := s.step c task j) h
      rw [List.count_cons]
      cases hstep : advance c (task j) (s.stage j) s.world with
      | ok next w =>
          rw [step_of_ok hstep] at hm
          by_cases hj : i = j
          · subst hj
            rw [reach_stage] at hm
            obtain ⟨k, hk, rfl⟩ := advance_steps hstep hm
            exact ⟨k, hk, by rw [beq_self_eq_true, if_pos rfl]; omega⟩
          · rw [reach_other s next w hj] at hm
            exact ⟨m, hm, by rw [beq_false_of_ne (Ne.symm hj)]; rfl⟩
      | error e w =>
          rw [Scene.step, hstep] at hm
          by_cases hj : i = j
          · subst hj
            rw [reach_stage] at hm
            cases hm
          · rw [reach_other s .done w hj] at hm
            exact ⟨m, hm, by rw [beq_false_of_ne (Ne.symm hj)]; rfl⟩

theorem steps_of_running (schedule : List Bool) (h : (s.run c task schedule).stage i = .running) :
    ∃ m, (s.stage i).steps? = some m ∧ 2 = m + schedule.count i := by
  apply run_steps schedule
  rw [h]
  rfl

/-- A request that asks while the label is there never runs. -/
theorem not_running_of_busy (hserved : Served c s.world) (hw : Labelled names s.world) (hbusy : inProgress ∈ names)
    (hstage : s.stage i = .received) (schedule : List Bool) :
    (s.run c task (i :: schedule)).stage i ≠ .running := by
  intro hrunning
  obtain ⟨w', hasked, -⟩ := Pull.isInProgress_of_served hserved hw
  rw [List.contains_iff_mem.2 hbusy] at hasked
  have hstep : advance c (task i) (s.stage i) s.world =
      .ok .done (after (Pull.postComment c (.str busy)) w') := by
    rw [hstage]
    exact advance_busy hasked
  obtain ⟨m, hm, -⟩ := steps_of_running (s := s.step c task i) schedule hrunning
  rw [step_of_ok hstep, reach_stage] at hm
  cases hm

theorem step_free (hserved : Served c s.world) (hw : Labelled names s.world) (hfree : inProgress ∉ names)
    (hstage : s.stage i = .received) :
    ∃ w', s.step c task i = s.reach i .admitted w' ∧ Served c w' ∧ Labelled names w' := by
  obtain ⟨w', hasked, halike⟩ := Pull.isInProgress_of_served hserved hw
  have hno : names.contains inProgress = false := by simpa using hfree
  rw [hno] at hasked
  refine ⟨w', step_of_ok ?_, hserved.of_alike halike, hw.of_alike halike⟩
  rw [hstage]
  exact advance_free hasked

theorem step_admitted (hserved : Served c s.world) (hw : Labelled names s.world) (hset : names.Nodup)
    (hstage : s.stage i = .admitted) :
    ∃ w' names', s.step c task i = s.reach i .running w' ∧ Served c w' ∧ Labelled names' w' ∧ names'.Nodup ∧
      inProgress ∈ names' := by
  obtain ⟨label, hlabel, hne⟩ := (task i).operation_label
  obtain ⟨opened, w', names', hopen, houtage, hlabels, hset', hnames⟩ := Desk.open_cases (c := c) hw hset hne
  rw [← hlabel] at hopen
  refine ⟨w', names', step_of_ok ?_, ⟨fun count r => ?_, hserved.2⟩, hlabels, hset', (hnames hserved).1⟩
  · rw [hstage]
    exact advance_admitted hopen
  · rw [houtage]
    exact hserved.1 count r

end

section

variable {c : PullContext} {task : Bool → Task} {w : World} {names : List String}

theorem reach_both (s : Scene) (i : Bool) (next : Stage) (w w' : World) (k : Bool) :
    ((s.reach i next w).reach (!i) next w').stage k = next := by
  by_cases hk : k = !i
  · rw [hk, reach_stage]
  · rw [reach_other _ _ _ hk, Bool.not_eq_not.1 hk, reach_stage]

/-- If both requests ask before either puts the label on, then both operations run. -/
theorem running_of_alternate (hserved : Served c w) (hw : Labelled names w) (hset : names.Nodup)
    (hfree : inProgress ∉ names) (i j k : Bool) :
    ((Scene.start w).run c task [i, !i, j, !j]).stage k = .running := by
  let s₀ := Scene.start w
  obtain ⟨w₁, h₁, hserved₁, hw₁⟩ : ∃ w₁, s₀.step c task i = s₀.reach i .admitted w₁ ∧ _ :=
    step_free hserved hw hfree rfl
  let s₁ := s₀.reach i .admitted w₁
  obtain ⟨w₂, h₂, hserved₂, hw₂⟩ : ∃ w₂, s₁.step c task (!i) = s₁.reach (!i) .admitted w₂ ∧ _ :=
    step_free hserved₁ hw₁ hfree (reach_other s₀ .admitted w₁ (Bool.not_ne_self i))
  let s₂ := s₁.reach (!i) .admitted w₂
  obtain ⟨w₃, names₃, h₃, hserved₃, hw₃, hset₃, -⟩ : ∃ w₃ names₃, s₂.step c task j = s₂.reach j .running w₃ ∧ _ :=
    step_admitted hserved₂ hw₂ hset (reach_both s₀ i .admitted w₁ w₂ j)
  let s₃ := s₂.reach j .running w₃
  have hother : s₃.stage (!j) = .admitted :=
    (reach_other s₂ .running w₃ (Bool.not_ne_self j)).trans (reach_both s₀ i .admitted w₁ w₂ (!j))
  obtain ⟨w₄, -, h₄, -⟩ : ∃ w₄ names₄, s₃.step c task (!j) = s₃.reach (!j) .running w₄ ∧ _ :=
    step_admitted hserved₃ hw₃ hset₃ hother
  have hrun : s₀.run c task [i, !i, j, !j] = s₃.reach (!j) .running w₄ := by
    simp only [Scene.run, List.foldl_cons, List.foldl_nil]
    rw [h₁, h₂, h₃, h₄]
  rw [hrun]
  exact reach_both s₂ j .running w₃ w₄ k

/-- If a request puts the label on before the other asks, then the other does not run. -/
theorem not_running_of_behind (hserved : Served c w) (hw : Labelled names w) (hset : names.Nodup)
    (hfree : inProgress ∉ names) (i : Bool) (schedule : List Bool) :
    ((Scene.start w).run c task (i :: i :: (!i) :: schedule)).stage (!i) ≠ .running := by
  let s₀ := Scene.start w
  obtain ⟨w₁, h₁, hserved₁, hw₁⟩ : ∃ w₁, s₀.step c task i = s₀.reach i .admitted w₁ ∧ _ :=
    step_free hserved hw hfree rfl
  let s₁ := s₀.reach i .admitted w₁
  obtain ⟨w₂, names₂, h₂, hserved₂, hw₂, -, hbusy⟩ : ∃ w₂ names₂, s₁.step c task i = s₁.reach i .running w₂ ∧ _ :=
    step_admitted hserved₁ hw₁ hset (reach_stage s₀ i .admitted w₁)
  let s₂ := s₁.reach i .running w₂
  have hother : s₂.stage (!i) = .received := by
    rw [reach_other s₁ .running w₂ (Bool.not_ne_self i), reach_other s₀ .admitted w₁ (Bool.not_ne_self i)]
    rfl
  have hrun : s₀.run c task (i :: i :: (!i) :: schedule) = s₂.run c task ((!i) :: schedule) := by
    simp only [Scene.run, List.foldl_cons]
    rw [h₁, h₂]
  rw [hrun]
  exact not_running_of_busy hserved₂ hw₂ hbusy hother schedule

theorem two_each {schedule : List Bool} (h : ∀ i, schedule.count i = 2) :
    (∃ i j, schedule = [i, !i, j, !j]) ∨ ∃ i, schedule = [i, i, !i, !i] := by
  have hlength : schedule.length = 4 := by
    rw [← List.count_true_add_count_false, h, h]
  match schedule, hlength with
  | [a, b, c, d], _ =>
      revert h
      revert a b c d
      decide

/-- Two signed requests for operations on one pull request are handled in steps, and
their steps may come in any order.  Both operations run at once exactly if the label
is not there and both requests ask for it before either puts it on. -/
theorem both_running_iff {secret : Option String} {request : Bool → ρ} (hserved : Served c w)
    (hw : Labelled names w) (hset : names.Nodup) (hasked : ∀ i, asked? F secret (request i) = some (c, task i))
    (schedule : List Bool) :
    (∀ i, after (receive F secret (request i)) w = after (walk c (task i) 4 .received) w) ∧
      ((∀ i, ((Scene.start w).run c task schedule).stage i = .running) ↔
        inProgress ∉ names ∧ ∃ i j, schedule = [i, !i, j, !j]) := by
  refine ⟨fun i => receive_in_steps (hasked i) w, ?_, ?_⟩
  · intro hrunning
    have hcount : ∀ i, schedule.count i = 2 := by
      intro i
      obtain ⟨m, hm, htwo⟩ := steps_of_running schedule (hrunning i)
      cases hm
      omega
    have hfree : inProgress ∉ names := by
      intro hbusy
      cases schedule with
      | nil => cases hcount true
      | cons i rest => exact not_running_of_busy hserved hw hbusy rfl rest (hrunning i)
    refine ⟨hfree, (two_each hcount).resolve_right ?_⟩
    rintro ⟨i, rfl⟩
    exact not_running_of_behind hserved hw hset hfree i [!i] (hrunning !i)
  · rintro ⟨hfree, i, j, rfl⟩
    exact running_of_alternate hserved hw hset hfree i j

end

/-- A request that is its own envelope. -/
structure Message where
  method : String
  path : String
  headers : List (String × String)
  body : List UInt8

/-- The framework for messages.  Names of headers are compared without regard to case. -/
def plain : Framework Message where
  method m := m.method
  path m := m.path
  body m := m.body
  lead m :=
    if m.method = View.status.method ∧ m.path = View.status.path then .ok .status
    else if m.method = View.events.method ∧ m.path = View.events.path then .ok .events
    else .error ⟨404, none⟩
  header? m name :=
    (m.headers.find? fun h => h.1.toList.map Char.toLower == name.toList.map Char.toLower).map (·.2)
  data m := .ok m.body
  json m :=
    match (Json.textOfBytes? m.body).bind Json.parse? with
    | some v => .ok v
    | none => .error (.refused "400 Bad Request")

theorem plain_lawful (m : Message) : plain.LawfulAt m := by
  refine ⟨fun view hmethod hpath => ?_, rfl⟩
  change m.method = _ at hmethod
  change m.path = _ at hpath
  cases view with
  | status => simp [plain, hmethod, hpath]
  | events => simp [plain, hmethod, hpath, View.method, View.path]

def labeledBody : String :=
  "\x7b\"action\":\"labeled\",\"label\":\x7b\"name\":\"agentic-review\"\x7d,\"number\":1," ++
    "\"repository\":\x7b\"full_name\":\"o/r\"\x7d,\"installation\":\x7b\"id\":1\x7d\x7d"

/-- The message as it is sent, signed with a secret. -/
def labeledMessage (secret : String) : Message where
  method := "POST"
  path := "/api/webhook"
  headers := [("X-GitHub-Event", "pull_request"),
    ("X-Hub-Signature-256", String.ofList (Auth.signatureHeader secret (Text.utf8 labeledBody)))]
  body := Text.utf8 labeledBody

theorem labeledMessage_signed (secret : String) :
    isSigned plain (some secret) (labeledMessage secret) (Text.utf8 labeledBody) = true := by
  have hother : ("X-GitHub-Event".toList.map Char.toLower == "X-Hub-Signature-256".toList.map Char.toLower) = false := by
    decide
  refine Auth.verify_iff.2 ?_
  simp only [plain, labeledMessage, List.find?_cons, hother, beq_self_eq_true, Option.map_some]

theorem asked_labeledMessage : (asked? plain (some "s") (labeledMessage "s")).map (fun a =>
    (a.1.fullName.toOption.bind Json.str?, a.2)) = some (some "o/r", .review) := by
  have hdata : plain.data (labeledMessage "s") = .ok (Text.utf8 labeledBody) := rfl
  -- The digest need not be worked out, since the signature is made from it.
  rw [asked?, ordered?, hdata, Except.toOption, Option.bind_eq_bind, Option.bind_eq_bind, Option.bind_some,
    labeledMessage_signed]
  decide +kernel

theorem both_running_twice : ∃ c, asked? plain (some "s") (labeledMessage "s") = some (c, .review) ∧
    Served c Desk.awaiting ∧
    ∀ i, ((Scene.start Desk.awaiting).run c (fun _ => .review) [true, false, true, false]).stage i = .running := by
  obtain ⟨⟨c, t⟩, hasked, hpair⟩ := Option.map_eq_some_iff.1 asked_labeledMessage
  rw [Prod.mk.injEq] at hpair
  obtain ⟨hname, rfl⟩ := hpair
  obtain ⟨name, hname, -⟩ := Option.bind_eq_some_iff.1 hname
  have hserved : Served c Desk.awaiting := ⟨fun _ _ => rfl, name, Refine.toOption_eq_some.1 hname⟩
  have hlabels : Labelled ["bug", "agentic-review"] Desk.awaiting := rfl
  refine ⟨c, hasked, hserved, ?_⟩
  exact (both_running_iff hserved hlabels (by decide) (fun _ => hasked) _).2.2
    ⟨by decide, true, true, rfl⟩

/-- A pull request with labels that ask for both operations. -/
def twofold : World := { Desk.awaiting with forge := { labels := [.str "agentic-review", .str "agentic-refine"] } }

/-- A review and a refinement of one pull request run at once. -/
theorem review_beside_refinement :
    ((Scene.start twofold).run firstPull (fun i => if i then .review else .refinement)
      [true, false, true, false]).stage = fun _ => .running := by
  have hserved : Served firstPull twofold := ⟨fun _ _ => rfl, .str "o/r", rfl⟩
  have hlabels : Labelled ["agentic-review", "agentic-refine"] twofold := rfl
  have hschedule : [true, false, true, false] = [true, !true, true, !true] := rfl
  funext k
  rw [hschedule]
  exact running_of_alternate hserved hlabels (by decide) (by decide) true true k

end Redline.Webhook
