import Redline.Proofs.Recovery

/-!
# Operations with a journal

To say which operations a larger one calls, in which order and how they end, the
state gets a journal beside it.  A part of the operation is `noted` in the journal
or `silent`.  `Enters` says that an operation with a journal does what the one
without it does, and what it enters.
-/

namespace Redline

section

variable {ε σ ι α β : Type}

def beside (journal : List ι) : EStateM.Result ε σ α → EStateM.Result ε (σ × List ι) α
  | .ok a s => .ok a (s, journal)
  | .error e s => .error e (s, journal)

def silent (x : EStateM ε σ α) : EStateM ε (σ × List ι) α := fun s => beside s.2 (x s.1)

/-- An operation that is entered, with where it started and how it ended. -/
def noted (entry : σ → EStateM.Result ε σ α → ι) (x : EStateM ε σ α) : EStateM ε (σ × List ι) α := fun s =>
  beside (s.2 ++ [entry s.1 (x s.1)]) (x s.1)

/-- Beside a journal an operation does what another one does, and enters some
things. -/
def Enters (y : EStateM ε (σ × List ι) α) (x : EStateM ε σ α) (s : σ) (new : List ι) : Prop :=
  ∀ journal, y (s, journal) = beside (journal ++ new) (x s)

namespace Enters

variable {y : EStateM ε (σ × List ι) α} {x : EStateM ε σ α} {g : α → EStateM ε (σ × List ι) β}
  {f : α → EStateM ε σ β} {s t : σ} {new more : List ι}

theorem pure (a : α) : Enters (Pure.pure a : EStateM ε (σ × List ι) α) (Pure.pure a) s [] := fun journal => by
  rw [List.append_nil]
  rfl

theorem throw (e : ε) :
    Enters (MonadExcept.throw e : EStateM ε (σ × List ι) α) (MonadExcept.throw e) s [] := fun journal => by
  rw [List.append_nil]
  rfl

theorem silent (x : EStateM ε σ α) : Enters (Redline.silent x) x s ([] : List ι) := fun journal => by
  rw [List.append_nil]
  rfl

theorem noted (entry : σ → EStateM.Result ε σ α → ι) (x : EStateM ε σ α) :
    Enters (Redline.noted entry x) x s [entry s (x s)] := fun _ => rfl

theorem bind {a : α} (hx : Enters y x s new) (hrun : x s = .ok a t) (hf : Enters (g a) (f a) t more) :
    Enters (y >>= g) (x >>= f) s (new ++ more) := by
  intro journal
  have hy : y (s, journal) = .ok a (t, journal ++ new) := by rw [hx journal, hrun, beside]
  rw [bind_of_ok hy, bind_of_ok hrun, hf, List.append_assoc]

theorem bind_error {e : ε} (hx : Enters y x s new) (hrun : x s = .error e t) :
    Enters (y >>= g) (x >>= f) s new := by
  intro journal
  have hy : y (s, journal) = .error e (t, journal ++ new) := by rw [hx journal, hrun, beside]
  rw [bind_of_error hy, bind_of_error hrun, beside]

theorem discard (hx : Enters y x s new) : Enters (Functor.discard y) (Functor.discard x) s new := by
  intro journal
  simp only [Functor.discard, Functor.mapConst, Function.comp_apply, EStateM.map, hx journal]
  cases x s <;> rfl

end Enters

end

namespace Enters

variable {σ ι α : Type} {y : EStateM Fault (σ × List ι) α} {x : EStateM Fault σ α} {s : σ} {new : List ι}

theorem recover (h : Enters y x s new) (fallback : α) :
    Enters (Redline.recover fallback y) (Redline.recover fallback x) s new := by
  intro journal
  simp only [Redline.recover, h journal]
  cases x s <;> rfl

theorem attempt (h : Enters y x s new) : Enters (Redline.attempt y) (Redline.attempt x) s new := by
  intro journal
  simp only [Redline.attempt, h journal]
  cases x s <;> rfl

end Enters

end Redline
