import Redline.Http.Route
import Redline.Json.Quantity
import Redline.Json.Reader

/-!
# Requests

A request has a method, a target, headers and a body.  The names of headers
are compared in upper case, with an underscore for every hyphen.  The body is
read as JSON if its type says so.
-/

namespace Redline.Http

/-- An HTTP request. -/
structure Request where
  method : String := "POST"
  target : String := "/api/webhook"
  headers : List (String × String) := []
  /-- The type of its content, if it is given apart from the headers. -/
  contentType : Option String := none
  body : String := ""

/-! ## Headers -/

def headerKey (name : String) : Text :=
  (Text.upper name.toList).map fun c => if c = '-' then '_' else c

namespace Request

/-- The value of a header.  The values of several headers of one name are
joined. -/
def header? (r : Request) (name : String) : Option String :=
  match (r.headers.filter fun h => headerKey h.1 == headerKey name).map (·.2) with
  | [] => none
  | values => some (String.intercalate ", " values)

/-- The first header whose name differs from a name in case only. -/
def firstHeader? (r : Request) (name : String) : Option String :=
  (r.headers.find? fun h => Text.lower h.1.toList == Text.lower name.toList).map (·.2)

def type (r : Request) : String :=
  ((r.contentType.orElse fun _ => r.firstHeader? "Content-Type")).getD ""

/-- Whether a value fits on the line of a header. -/
def isOneLine (value : String) : Bool := !value.toList.contains '\n' && !value.toList.contains '\r'

def checkHeaders (r : Request) : Except Fault Unit :=
  if (r.headers.map (·.2) ++ r.contentType.toList).all isOneLine then .ok ()
  else .error (.refused "Header values must not contain newline characters.")

def upperMethod (r : Request) : String := String.ofList (Text.upper r.method.toList)

/-- The parts of a text between commas, stripped. -/
def listed (t : Text) : List Text := (Text.splitOn t [',']).map Text.strip

/-- Whether the request asks for a connection that stays open. -/
def asksToStay (r : Request) : Bool :=
  let upgrade := (listed (Text.lower ((r.header? "Connection").getD "").toList)).contains "upgrade".toList
  upgrade && Text.lower ((r.header? "Upgrade").getD "").toList == "websocket".toList

/-- What the request asks for.  A header may name another host. -/
def sentTo (r : Request) : Except Fault Target := do
  let target ← Target.parse r.target.toList
  r.checkHeaders
  return { target with host := ((r.header? "Host").map String.toList).getD target.host }

def route (r : Request) (target : Target) : Route :=
  let live := target.scheme == "ws".toList || target.scheme == "wss".toList || r.asksToStay
  if canServe target.host then Http.route r.upperMethod live target.path else .wrongHost

/-! ## The body -/

/-- What is said about a body that cannot be read. -/
def unreadable : String :=
  "400 Bad Request: The browser (or proxy) sent a request that this server could not understand."

/-- The last line of a form that is sent in parts. -/
def formEnd : String := "--boundary--\r\n"

/-- Whether the type of the content is a form that is sent in parts. -/
def isForm (r : Request) : Bool :=
  Text.strip (r.type.toList.takeWhile (· ≠ ';')) == "multipart/form-data".toList

/-- The bytes of the body as they arrive.  A body that is sent in chunks is not
waited for, and a form without parts is still closed. -/
def received (r : Request) : List UInt8 :=
  if r.header? "Transfer-Encoding" = some "chunked" then []
  else if r.body = "" && r.isForm then Text.utf8 formEnd
  else Text.utf8 r.body

/-- The type that a content type names, without its parameters. -/
def mediaType (type : String) : Text :=
  Text.lower ((type.toList.dropWhile Text.isBlank).takeWhile fun c =>
    c ≠ ';' && c ≠ ',' && !Text.isBlank c)

def isJson (type : String) : Bool :=
  let t := mediaType type
  t == "application/json".toList
    || (t.startsWith "application/".toList && "+json".toList.isSuffixOf t)

/-- How deep the values of a body may be nested. -/
def maxDepth : Nat := 975

def jsonOf (bytes : List UInt8) : Except Fault Json :=
  match Json.textOfBytes? bytes with
  | none => .error (.refused unreadable)
  | some t =>
      match Json.parseWithin maxDepth t with
      | .ok v => .ok v
      | .error .malformed => .error (.refused unreadable)
      | .error (.tooDeep kind) => .error (.tooDeep kind)

/-- The JSON in the body. -/
def json (r : Request) : Except Fault Json :=
  if isJson r.type then jsonOf r.received else .error (.refused unreadable)

end Request

end Redline.Http
