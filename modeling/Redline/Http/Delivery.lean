import Redline.Http.Request
import Redline.Webhook

/-!
# The delivery of requests

A framework for requests that are sent to an address.  It answers for itself what
does not lead to a view.
-/

namespace Redline.Http

/-- A request with what it was sent to. -/
structure Delivery where
  request : Request
  target : Target

namespace Delivery

/-- Whether an answer can name a host as the place where to go. -/
def canName (host : Text) : Bool := Request.isOneLine (String.ofList host)

def lead (d : Delivery) : Except Response View :=
  match d.request.route d.target with
  | .leads place =>
      if d.request.upperMethod = "OPTIONS" then .error ⟨200, none⟩
      else
        match place with
        | .view view => .ok view
        | .files => .error ⟨404, none⟩
  | .moved => .error ⟨if canName d.target.host then 308 else 500, none⟩
  | .wrongMethod => .error ⟨405, none⟩
  | .wrongConnection | .wrongHost => .error ⟨400, none⟩
  | .missing => .error ⟨404, none⟩

def framework : Framework Delivery where
  method d := d.request.upperMethod
  path d := String.ofList d.target.path
  body d := Text.utf8 d.request.body
  lead := lead
  header? d := d.request.header?
  data d := .ok d.request.received
  json d := d.request.json

/-- A request that nothing keeps from its view: the host is one that can serve, no open
connection is asked for, and the body is sent neither in chunks nor as a form. -/
structure Plain (d : Delivery) : Prop where
  host : canServe d.target.host = true
  scheme : d.target.scheme ≠ "ws".toList ∧ d.target.scheme ≠ "wss".toList
  connection : d.request.asksToStay = false
  encoding : d.request.header? "Transfer-Encoding" ≠ some "chunked"
  form : d.request.isForm = false

theorem route_view (view : View) : route view.method false view.path.toList = .leads (.view view) := by
  cases view <;> decide +kernel

theorem Plain.lead_eq {d : Delivery} (h : d.Plain) {view : View} (hmethod : d.request.upperMethod = view.method)
    (hpath : d.target.path = view.path.toList) : d.lead = .ok view := by
  have hroute : d.request.route d.target = .leads (.view view) := by
    simp only [Request.route, h.host, h.connection, beq_eq_false_iff_ne.2 h.scheme.1,
      beq_eq_false_iff_ne.2 h.scheme.2, Bool.or_false, if_true, hmethod, hpath]
    exact route_view view
  have hoptions : view.method ≠ "OPTIONS" := by cases view <;> decide
  unfold lead
  rw [hroute]
  dsimp only
  rw [hmethod, if_neg hoptions]

/-- The framework treats plain requests as a framework has to. -/
theorem Plain.lawfulAt {d : Delivery} (h : d.Plain) : framework.LawfulAt d where
  lead view hmethod hpath := h.lead_eq hmethod (by rw [← hpath]; exact String.toList_ofList.symm)
  data := by
    have hreceived : d.request.received = Text.utf8 d.request.body := by
      simp [Request.received, h.encoding, h.form]
    exact congrArg Except.ok hreceived

example : Plain ⟨{}, "http".toList, "localhost".toList, "/api/webhook".toList⟩ :=
  ⟨by decide +kernel, by decide +kernel, by decide +kernel, by decide +kernel, by decide +kernel⟩

end Delivery

/-- The answer as it is sent back.  A request for the head of an answer gets no
body. -/
def Request.cut (r : Request) (response : Response) : Response :=
  if r.method = "HEAD" then { response with body := none } else response

/-- Sends a request to the service.  The host that it was sent to is looked at when
it has been answered. -/
def exchange (secret : Option String) (r : Request) : Session Response := do
  let target ← lift r.sentTo
  let response ← Webhook.serve Delivery.framework secret ⟨r, target⟩
  lift (checkSentTo target.scheme target.host)
  return r.cut response

end Redline.Http
