import Redline.Proofs.Journal
import Redline.Proofs.Forge.Frame

/-!
# Journals that account for requests

A journal that tells which operations were called says nothing about what was done besides.
The log of the site does.  An operation is `Accounted` for by what it enters if all requests
of some kind that it makes are among those of the entries, in their order.
-/

namespace Redline.Session

open Forge (Request)

variable {α β ι : Type}

theorem after_discard {x : Session α} {w : World} : after (discard x) w = after x w := by
  simp only [after, Functor.discard, Functor.mapConst, Function.comp_apply, EStateM.map]
  cases x w <;> rfl

/-- An operation with a journal does what another one does, and the requests of a kind that
it makes are those of its entries. -/
structure Accounted (kind : Request → Bool) (requests : ι → List Request) (y : EStateM Fault (World × List ι) α)
    (x : Session α) (w : World) (entries : List ι) : Prop where
  enters : Enters y x w entries
  grows : ∃ new, (after x w).forge.log = w.forge.log ++ new ∧ new.filter kind = entries.flatMap requests

namespace Accounted

variable {kind : Request → Bool} {requests : ι → List Request} {y : EStateM Fault (World × List ι) α} {x : Session α}
  {g : α → EStateM Fault (World × List ι) β} {f : α → Session β} {w w₁ : World} {entries more : List ι}

theorem pure (a : α) (w : World) : Accounted kind requests (Pure.pure a) (Pure.pure a) w [] :=
  ⟨Enters.pure a, [], (List.append_nil _).symm, rfl⟩

theorem throw (e : Fault) (w : World) :
    Accounted kind requests (MonadExcept.throw e) (MonadExcept.throw e : Session α) w [] :=
  ⟨Enters.throw e, [], (List.append_nil _).symm, rfl⟩

/-- An operation that makes no requests of the kind need not be entered. -/
theorem silent (hx : Makes (fun r => ¬ kind r) x) (w : World) :
    Accounted kind requests (Redline.silent x) x w [] := by
  obtain ⟨new, hlog, hnew⟩ := hx w
  exact ⟨Enters.silent x, new, hlog, List.filter_eq_nil_iff.2 hnew⟩

theorem noted {entry : World → EStateM.Result Fault World α → ι} {new : List Request}
    (hlog : (after x w).forge.log = w.forge.log ++ new) (hentry : new.filter kind = requests (entry w (x w))) :
    Accounted kind requests (Redline.noted entry x) x w [entry w (x w)] :=
  ⟨Enters.noted entry x, new, hlog, by rw [List.flatMap_singleton, hentry]⟩

theorem bind {a : α} (hx : Accounted kind requests y x w entries) (hrun : x w = .ok a w₁)
    (hf : Accounted kind requests (g a) (f a) w₁ more) :
    Accounted kind requests (y >>= g) (x >>= f) w (entries ++ more) := by
  obtain ⟨new, hlog, hnew⟩ := hx.grows
  obtain ⟨new', hlog', hnew'⟩ := hf.grows
  rw [after_of_ok hrun] at hlog
  refine ⟨hx.enters.bind hrun hf.enters, new ++ new', ?_, ?_⟩
  · rw [after_bind_of_ok hrun, hlog', hlog, List.append_assoc]
  · rw [List.filter_append, hnew, hnew', List.flatMap_append]

theorem bind_error {e : Fault} (hx : Accounted kind requests y x w entries) (hrun : x w = .error e w₁) :
    Accounted kind requests (y >>= g) (x >>= f) w entries := by
  obtain ⟨new, hlog, hnew⟩ := hx.grows
  rw [after_of_error hrun] at hlog
  exact ⟨hx.enters.bind_error hrun, new, by rw [after_bind_of_error hrun, hlog], hnew⟩

theorem bind_quiet (hx : Accounted kind requests y x w entries)
    (hf : ∀ a w₁, Accounted kind requests (g a) (f a) w₁ []) :
    Accounted kind requests (y >>= g) (x >>= f) w entries := by
  cases hrun : x w with
  | error e w₁ => exact hx.bind_error hrun
  | ok a w₁ =>
      rw [← List.append_nil entries]
      exact hx.bind hrun (hf a w₁)

theorem discard (hx : Accounted kind requests y x w entries) :
    Accounted kind requests (Functor.discard y) (Functor.discard x) w entries := by
  obtain ⟨new, hlog, hnew⟩ := hx.grows
  exact ⟨hx.enters.discard, new, by rw [after_discard, hlog], hnew⟩

theorem recover (hx : Accounted kind requests y x w entries) (fallback : α) :
    Accounted kind requests (Redline.recover fallback y) (Redline.recover fallback x) w entries := by
  obtain ⟨new, hlog, hnew⟩ := hx.grows
  exact ⟨hx.enters.recover fallback, new, by rw [after_recover, hlog], hnew⟩

theorem attempt (hx : Accounted kind requests y x w entries) :
    Accounted kind requests (Redline.attempt y) (Redline.attempt x) w entries := by
  obtain ⟨new, hlog, hnew⟩ := hx.grows
  exact ⟨hx.enters.attempt, new, by rw [after_attempt, hlog], hnew⟩

end Accounted

end Redline.Session
