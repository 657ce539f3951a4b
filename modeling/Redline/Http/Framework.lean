import Redline.Fault
import Redline.Json.Basic

/-!
# The web framework

The service answers requests by *views*.  A web framework leads a request to a
view, and tells the view what it asks about the request.  How it does so is not
settled here: everything that the service does with requests takes the framework
as an argument.  `Framework.LawfulAt` is what its documentation promises for a
request.
-/

namespace Redline.Http

/-- An HTTP answer. -/
structure Response where
  status : Nat
  /-- The body, if it is JSON. -/
  body : Option Json := none

/-- The views of the service. -/
inductive View where
  /-- Tells whether the service runs. -/
  | status
  | events
deriving DecidableEq, Repr

namespace View

def method : View → String
  | status => "GET"
  | events => "POST"

def path : View → String
  | status => "/"
  | events => "/api/webhook"

end View

/-- What the service uses of a web framework with requests of a type. -/
structure Framework (ρ : Type) where
  method : ρ → String
  path : ρ → String
  /-- The bytes of the body as they were sent. -/
  body : ρ → List UInt8
  /-- The view that a request is led to.  A request that is led to none is
  answered by the framework. -/
  lead : ρ → Except Response View
  header? : ρ → String → Option String
  /-- The bytes of the body as a view is given them. -/
  data : ρ → Except Fault (List UInt8)
  /-- The JSON in the body. -/
  json : ρ → Except Fault Json

/-- A framework treats a request as it documents. -/
structure Framework.LawfulAt {ρ : Type} (F : Framework ρ) (r : ρ) : Prop where
  /-- A request with the method and the path of a view is led to it. -/
  lead : ∀ view : View, F.method r = view.method → F.path r = view.path → F.lead r = .ok view
  /-- A view is given the body as it was sent. -/
  data : F.data r = .ok (F.body r)

end Redline.Http
