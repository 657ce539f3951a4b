import Redline.Proofs.Recovery
import Redline.Forge.Threads

/-!
# The requests of an operation

The log of the forge only grows.  `Makes` says of an operation that it makes no
requests but those of a kind, whether it ends well or in a fault.  It is shown of
an operation by showing it of the parts that the operation is put together from.
-/

namespace Redline.Session

section

variable {α β : Type} {x : Session α} {f : α → Session β} {w w' : World}

/-- The world that an operation leaves behind. -/
def after (x : Session α) (w : World) : World :=
  match x w with
  | .ok _ w' => w'
  | .error _ w' => w'

theorem after_of_ok {a : α} (h : x w = .ok a w') : after x w = w' := by
  unfold after
  rw [h]

theorem after_of_error {e : Fault} (h : x w = .error e w') : after x w = w' := by
  unfold after
  rw [h]

theorem after_bind_of_ok {a : α} (h : x w = .ok a w') : after (x >>= f) w = after (f a) w' := by
  unfold after
  rw [bind_of_ok h]

theorem after_bind_of_error {e : Fault} (h : x w = .error e w') : after (x >>= f) w = w' :=
  after_of_error (bind_of_error h)

theorem after_recover (fallback : α) : after (recover fallback x) w = after x w := by
  unfold after recover
  cases x w <;> rfl

end

section

variable {w : World} {r : Forge.Request} {change : Forge → Forge}

theorem send_of_none (h : w.forge.outage w.forge.log.length r = none) : send r change w =
    .ok () { w with forge := change { w.forge with log := w.forge.log ++ [r] } } := by
  simp only [send, h]

theorem send_of_some {reason : String} (h : w.forge.outage w.forge.log.length r = some reason) :
    send r change w =
      .error (.outage reason) { w with forge := { w.forge with log := w.forge.log ++ [r] } } := by
  simp only [send, h]

/-- A request is logged, whether or not it fails. -/
theorem after_send_log (hchange : ∀ g, (change g).log = g.log) :
    (after (send r change) w).forge.log = w.forge.log ++ [r] := by
  cases h : w.forge.outage w.forge.log.length r with
  | none =>
      rw [after_of_ok (send_of_none h)]
      exact hchange _
  | some reason => rw [after_of_error (send_of_some h)]

end

/-- An operation makes only requests of a kind. -/
def Makes {α : Type} (P : Forge.Request → Prop) (x : Session α) : Prop :=
  ∀ w, ∃ new, (after x w).forge.log = w.forge.log ++ new ∧ ∀ r ∈ new, P r

namespace Makes

variable {α β : Type} {P : Forge.Request → Prop} {x : Session α} {f : α → Session β}

/-- An operation that leaves the log alone makes no requests. -/
theorem of_log_eq (h : ∀ w, (after x w).forge.log = w.forge.log) : Makes P x := fun w =>
  ⟨[], by rw [h, List.append_nil], fun r hr => absurd hr List.not_mem_nil⟩

theorem pure (a : α) : Makes P (Pure.pure a : Session α) := of_log_eq fun _ => rfl

theorem throw (e : Fault) : Makes P (MonadExcept.throw e : Session α) := of_log_eq fun _ => rfl

theorem forge : Makes P Session.forge := of_log_eq fun _ => rfl

theorem lift (y : Except Fault α) : Makes P (Redline.lift y : Session α) :=
  of_log_eq fun w => by cases y <;> rfl

theorem bind (hx : Makes P x) (hf : ∀ a, Makes P (f a)) : Makes P (x >>= f) := by
  intro w
  obtain ⟨new, hlog, hnew⟩ := hx w
  cases hrun : x w with
  | error e w₁ =>
      rw [after_of_error hrun] at hlog
      rw [after_bind_of_error hrun]
      exact ⟨new, hlog, hnew⟩
  | ok a w₁ =>
      obtain ⟨more, hmore, hnew'⟩ := hf a w₁
      rw [after_of_ok hrun] at hlog
      rw [after_bind_of_ok hrun]
      refine ⟨new ++ more, by rw [hmore, hlog, List.append_assoc], fun r hr => ?_⟩
      rcases List.mem_append.1 hr with hr | hr
      · exact hnew r hr
      · exact hnew' r hr

theorem recover (hx : Makes P x) (fallback : α) : Makes P (Redline.recover fallback x) := by
  intro w
  rw [after_recover]
  exact hx w

theorem send {r : Forge.Request} (hr : P r) {change : Forge → Forge} (hchange : ∀ g, (change g).log = g.log) :
    Makes P (Session.send r change) := fun _ =>
  ⟨[r], after_send_log hchange, fun _ h => List.mem_singleton.1 h ▸ hr⟩

end Makes

end Redline.Session

namespace Redline.Pull

open Session

/-- A pull request is opened by three requests. -/
theorem open_makes {P : Forge.Request → Prop} (hinstallation : ∀ id, P (.installation id))
    (hrepository : ∀ name, P (.repository name))
    (hpull : ∀ installation name number, P (.pull installation name number)) (c : PullContext) :
    Makes P (Pull.open c) :=
  (Makes.send (hinstallation _) fun _ => rfl).bind fun _ => (Makes.lift _).bind fun name =>
    (Makes.send (hrepository name) fun _ => rfl).bind fun _ => Makes.send (hpull _ _ _) fun _ => rfl

section

variable {P : Forge.Request → Prop} (hmark : ∀ way id, P (.mark way id markingReply)) (r : Forge.Remark)

include hmark

/-- To mark a comment only marks are sent. -/
theorem markBy_makes (way : Forge.Mark) : Makes P (markBy r way) := by
  refine Makes.forge.bind fun f => ?_
  cases offers f r way with
  | none => exact Makes.pure false
  | some works =>
      refine ((Makes.send (hmark way r.id) fun _ => rfl).bind fun _ => ?_).recover false
      cases works with
      | false => exact Makes.throw _
      | true => exact Makes.pure true

theorem markFirst_makes (ways : List Forge.Mark) : Makes P (markFirst r ways) := by
  induction ways with
  | nil => exact Makes.pure ()
  | cons way rest ih =>
      refine (markBy_makes hmark r way).bind fun marked => ?_
      cases marked with
      | false => exact ih
      | true => exact Makes.pure ()

end

theorem remark_makes {P : Forge.Request → Prop} {id : Int} (h : P (.remark id)) : Makes P (remark id) := by
  refine (Makes.send h fun _ => rfl).bind fun _ => Makes.forge.bind fun f => ?_
  cases f.remarks.find? fun r => r.id == .int id with
  | none => exact Makes.throw _
  | some r => exact Makes.pure r

end Redline.Pull
