import Redline.Recovery

/-!
# Operations one after the other

How an operation that is put together from others turns out, when it is known
how its parts do.  `bind_eq_ok` and its companions take a result apart: an
operation with a result is a run of operations with results.
-/

namespace Redline

section

variable {ε σ α β : Type} {x : EStateM ε σ α} {f : α → EStateM ε σ β} {s t u : σ}

theorem pure_apply (a : α) : (pure a : EStateM ε σ α) s = .ok a s := rfl

theorem bind_of_ok {a : α} (h : x s = .ok a t) : (x >>= f) s = f a t := by
  simp [bind, EStateM.bind, h]

theorem bind_of_error {e : ε} (h : x s = .error e t) : (x >>= f) s = .error e t := by
  simp [bind, EStateM.bind, h]

theorem bind_eq_ok {b : β} : (x >>= f) s = .ok b u ↔ ∃ a t, x s = .ok a t ∧ f a t = .ok b u := by
  cases h : x s with
  | ok a t =>
      rw [bind_of_ok h]
      constructor
      · exact fun hf => ⟨a, t, rfl, hf⟩
      · rintro ⟨a', t', heq, hf⟩
        cases heq
        exact hf
  | error e t => simp [bind_of_error h]

theorem discard_of_ok {a : α} (h : x s = .ok a t) : discard x s = .ok () t := by
  simp [Functor.discard, Functor.mapConst, EStateM.map, h]

end

theorem except_bind_eq_ok {ε α β : Type} {x : Except ε α} {f : α → Except ε β} {b : β} :
    x >>= f = .ok b ↔ ∃ a, x = .ok a ∧ f a = .ok b := by
  cases x with
  | error e =>
      refine ⟨fun h => ?_, fun ⟨a, h, _⟩ => ?_⟩
      · cases h
      · cases h
  | ok a =>
      refine ⟨fun h => ⟨a, rfl, h⟩, fun ⟨a', h, hf⟩ => ?_⟩
      cases h
      exact hf

theorem except_map_eq_ok {ε α β : Type} {x : Except ε α} {f : α → β} {b : β} :
    x.map f = .ok b ↔ ∃ a, x = .ok a ∧ f a = b := by
  cases x <;> simp [Except.map]

section

variable {σ α : Type} {x : EStateM Fault σ α} {s t : σ}

theorem lift_eq_ok {y : Except Fault α} {a : α} : lift y s = .ok a t ↔ y = .ok a ∧ s = t := by
  cases y <;> simp [lift]

theorem lift_eq_error {y : Except Fault α} {e : Fault} :
    lift y s = .error e t ↔ y = .error e ∧ s = t := by
  cases y <;> simp [lift]

theorem attempt_eq_ok {a : α} : attempt x s = .ok (.ok a) t ↔ x s = .ok a t := by
  unfold attempt
  cases x s <;> simp

theorem attempt_eq_error {e : Fault} : attempt x s = .ok (.error e) t ↔ x s = .error e t := by
  unfold attempt
  cases x s <;> simp

theorem recover_of_ok {fallback a : α} (h : x s = .ok a t) : recover fallback x s = .ok a t := by
  simp [recover, h]

theorem recover_of_error {fallback : α} {e : Fault} (h : x s = .error e t) :
    recover fallback x s = .ok fallback t := by
  simp [recover, h]

theorem recover_ok (fallback : α) (x : EStateM Fault σ α) (s : σ) : ∃ a t, recover fallback x s = .ok a t := by
  cases h : x s with
  | ok a t => exact ⟨a, t, recover_of_ok h⟩
  | error e t => exact ⟨fallback, t, recover_of_error h⟩

/-- A recovery gives the result of the operation, or the other value after a fault. -/
theorem recover_eq_ok {fallback a : α} :
    recover fallback x s = .ok a t ↔ x s = .ok a t ∨ a = fallback ∧ ∃ e, x s = .error e t := by
  cases h : x s with
  | ok b u => simp [recover_of_ok h]
  | error e u =>
      rw [recover_of_error h]
      constructor
      · intro heq
        cases heq
        exact Or.inr ⟨rfl, e, rfl⟩
      · rintro (heq | ⟨rfl, e', heq⟩)
        · cases heq
        · cases heq
          rfl

end

/-! ## What holds of every result -/

/-- Every result of an operation has a property. -/
def Ensures {ε σ α : Type} (P : α → Prop) (x : EStateM ε σ α) : Prop := ∀ s a t, x s = .ok a t → P a

namespace Ensures

variable {ε σ α β : Type} {P : α → Prop} {Q : β → Prop}

theorem pure {a : α} (h : P a) : Ensures P (Pure.pure a : EStateM ε σ α) := fun s b t hrun => by
  cases hrun
  exact h

theorem bind {x : EStateM ε σ α} {f : α → EStateM ε σ β} (hx : Ensures P x) (hf : ∀ a, P a → Ensures Q (f a)) :
    Ensures Q (x >>= f) := fun s b u hrun => by
  obtain ⟨a, t, ha, hb⟩ := bind_eq_ok.1 hrun
  exact hf a (hx s a t ha) t b u hb

end Ensures

end Redline
