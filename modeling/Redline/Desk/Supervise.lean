import Redline.Forge.Pull

/-!
# Supervised operations

An operation on a pull request runs under a label that says so.  The label is
put on before it and taken off after it, whatever happened.  A fault is told in
a comment and then goes on, and success is told in a comment too.
-/

namespace Redline.Desk

open Pull (inProgress)

/-- What the supervision needs. -/
structure Office (σ : Type) where
  /-- Adds and removes labels, and tells whether all went well. -/
  manageLabels : (add remove : Json) → EStateM Fault σ Bool
  postComment : Json → EStateM Fault σ Unit

/-- An operation as it is announced. -/
structure Operation where
  name : String
  label : Json
  success : Json

def Operation.failure (o : Operation) (e : Fault) : String :=
  "❌ An error occurred while performing " ++ o.name ++ " on this PR:\n```\n" ++ e.message
    ++ "\n```\nPlease add the " ++ o.name
    ++ " label again to retry, or contact support if the issue persists."

variable {σ α : Type}

/-- The first part: the label is put on and the operation runs. -/
def perform (d : Office σ) (o : Operation) (body : EStateM Fault σ α) : EStateM Fault σ α := do
  discard (d.manageLabels (.arr [.str inProgress]) (.arr [o.label]))
  body

def close (d : Office σ) : EStateM Fault σ Unit := discard (d.manageLabels .null (.arr [.str inProgress]))

/-- Runs an operation under supervision.  Of several faults the last one goes
on. -/
def supervise (d : Office σ) (o : Operation) (body : EStateM Fault σ α) : EStateM Fault σ α := do
  match ← attempt (perform d o body) with
  | .ok a =>
      close d
      d.postComment o.success
      return a
  | .error e =>
      let told ← attempt (d.postComment (.str (o.failure e)))
      close d
      match told with
      | .ok _ => throw e
      | .error e' => throw e'

end Redline.Desk
