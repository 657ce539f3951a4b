import Redline.Fault

/-!
# Recovery from faults

An operation works on a state and may end in a fault.  What it did before the
fault stays done.  `attempt` and `recover` catch the fault, and `lift` is an
operation that leaves the state alone.
-/

namespace Redline

/-- A computation that may meet a fault, as an operation. -/
def lift {σ α : Type} (x : Except Fault α) : EStateM Fault σ α := fun s =>
  match x with
  | .ok a => .ok a s
  | .error e => .error e s

/-- The outcome of an operation, with its fault caught. -/
def attempt {σ α : Type} (x : EStateM Fault σ α) : EStateM Fault σ (Except Fault α) := fun s =>
  match x s with
  | .ok a t => .ok (.ok a) t
  | .error e t => .ok (.error e) t

/-- The result of an operation, or another value if it meets a fault. -/
def recover {σ α : Type} (fallback : α) (x : EStateM Fault σ α) : EStateM Fault σ α := fun s =>
  match x s with
  | .ok a t => .ok a t
  | .error _ t => .ok fallback t

theorem recover_ne_error {σ α : Type} (fallback : α) (x : EStateM Fault σ α) (s t : σ)
    (e : Fault) : recover fallback x s ≠ .error e t := by
  unfold recover
  split <;> simp

end Redline
