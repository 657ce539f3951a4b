import Redline.Desk.Handlers
import Redline.Auth.Signature
import Redline.Http.Framework

/-!
# Webhooks

The service answers two kinds of HTTP requests: whether it runs, and events.
An event has to be signed.  An event that tells of a new label may start an
operation on the pull request, unless one is running already.  Whatever happens
inside the operation, the event is answered.
-/

namespace Redline.Webhook

open Http (Framework Response)
open Session

/-! ## Orders -/

/-- What a labelled event asks for. -/
structure Order where
  context : PullContext
  label : Json

def member? (v : Json) (name : String) : Option Json :=
  match v with
  | .obj fields => some ((Json.lookup? name fields).getD .null)
  | _ => none

/-- A field of a field of a record.  An outer field that is absent counts as an
empty record. -/
def nested? (v : Json) (outer inner : String) : Option Json :=
  match v with
  | .obj fields => member? ((Json.lookup? outer fields).getD (.obj [])) inner
  | _ => none

def given? (v : Json) : Option Json := if v.truthy then some v else none

/-- The order in the payload of an event, if nothing is missing.  The number is
that of the pull request, or that of the payload itself if it has none. -/
def order? (payload : Json) : Option Order := do
  let repository ← member? payload "repository"
  let installation ← nested? payload "installation" "id"
  let pull ← member? payload "pull_request"
  let number ← member? (if pull.truthy then pull else payload) "number"
  let label ← nested? payload "label" "name"
  let repository ← given? repository
  let number ← given? number
  let installation ← given? installation
  let installation ← installation.toInteger.toOption
  let number ← number.toInteger.toOption
  return ⟨⟨repository, .int number, .int installation⟩, label⟩

/-- What is said when an operation is running already. -/
def busy : String :=
  "⏳ This PR is currently being processed. Please wait for the current operation to complete."

def operationFor (label : Json) : Option (PullContext → Session Unit) :=
  match label with
  | .str "agentic-review" => some Desk.handleReview
  | .str "agentic-refine" => some Desk.handleRefinement
  | _ => none

def execute (o : Order) : Session Unit := do
  if ← Pull.isInProgress o.context then Pull.postComment o.context (.str busy)
  else
    match operationFor o.label with
    | some operation => operation o.context
    | none => return

/-- Handles the payload of an event that tells of a new label.  Faults stay
inside. -/
def handleLabeled (payload : Json) : Session Unit :=
  match order? payload with
  | none => pure ()
  | some o => recover () (execute o)

/-! ## Answers -/

/-- Whether an event tells of a new label on a pull request. -/
def isLabeled (event : Option String) (action : Json) : Bool :=
  (event == some "pull_request" || event == some "issues") && action.str? == some "labeled"

def accepted : Response := ⟨200, some (.obj [("status", .str "success")])⟩

/-- The answer to an event without a valid signature. -/
def unsigned : Response :=
  ⟨401, some (.obj [("error", .str "Invalid signature"), ("status", .str "error")])⟩

/-- The answer to an event that could not be read. -/
def rejected (e : Fault) : Response :=
  ⟨500, some (.obj [("status", .str "error"), ("message", .str e.message)])⟩

section

variable {ρ : Type} (F : Framework ρ) (secret : Option String) (r : ρ)

/-- The record in the body of an event. -/
def payloadOf : Except Fault Json := do
  match ← F.json r with
  | .obj fields => return .obj fields
  | v => throw (.noMember v.sortName "get")

def isSigned (body : List UInt8) : Bool := Auth.verify secret body (F.header? r "X-Hub-Signature-256")

/-- Answers an event with a body. -/
def receiveBody (body : List UInt8) : Session Response := do
  if !isSigned F secret r body then return unsigned
  match payloadOf F r with
  | .error e => return rejected e
  | .ok payload =>
      if isLabeled (F.header? r "X-GitHub-Event") (payload.getD "action") then handleLabeled payload
      return accepted

def receive : Session Response :=
  match F.data r with
  | .error e => pure (rejected e)
  | .ok body => receiveBody F secret r body

/-- The answer to the question whether the service runs. -/
def healthy : Response :=
  ⟨200, some (.obj [("status", .str "healthy"), ("message", .str "GitHub App is running")])⟩

/-- Answers a request by the view that it is led to. -/
def serve : Session Response :=
  match F.lead r with
  | .error response => pure response
  | .ok .status => pure healthy
  | .ok .events => receive F secret r

end

end Redline.Webhook
