import Redline.Http.Address
import Redline.Http.Framework

/-!
# Routes

A path leads to a view of the service, or to where files would be.  Each place
takes some methods.  A path that leads to a place only after doubled slashes are
made single is moved there.
-/

namespace Redline.Http

/-- The places that paths lead to. -/
inductive Place where
  | view (view : View)
  /-- Where files would be, of which there are none. -/
  | files
deriving DecidableEq, Repr

/-- The methods that a place takes.  Where a document can be got, its head can be
got too, and every place tells its methods. -/
def Place.methods : Place → List String
  | view .events => [View.events.method, "OPTIONS"]
  | view .status | files => [View.status.method, "HEAD", "OPTIONS"]

/-- Whether a text can be the name of a file: it does not start with a slash and
goes on in one line. -/
def isFileName : Text → Bool
  | [] => false
  | c :: t => c ≠ '/' && !List.elem '\n' t

def filesPath : Text := "/static/".toList

def placeOf? (path : Text) : Option Place :=
  if path == View.status.path.toList then some (.view .status)
  else if path == View.events.path.toList then some (.view .events)
  else if filesPath.isPrefixOf path && isFileName (path.drop filesPath.length) then some .files
  else none

/-- A path with every two slashes in a row made one. -/
def mergeSlashes (path : Text) : Text := path.replaceAll "//".toList "/".toList

/-- What a request meets. -/
inductive Route where
  | leads (place : Place)
  /-- The place is at another path. -/
  | moved
  /-- The place takes other methods. -/
  | wrongMethod
  /-- The place takes requests of another kind of connection. -/
  | wrongConnection
  | wrongHost
  /-- There is no such place. -/
  | missing
deriving DecidableEq, Repr

/-- What a request of a method meets at a place. -/
def Route.meet (place : Place) (method : String) (live : Bool) (found : Route) : Route :=
  if !place.methods.contains method then .wrongMethod
  else if live then .wrongConnection
  else found

/-- What a request meets.  `live` tells whether it asks for a connection that
stays open.  Slashes at the start of a path count as one, and an empty path is
moved to the place that it stands for. -/
def route (method : String) (live : Bool) (path : Text) : Route :=
  if path.isEmpty then
    if (Place.view .status).methods.contains method && !live then .moved else .missing
  else
    let path := '/' :: path.dropWhile (· = '/')
    match placeOf? path with
    | some place => .meet place method live (.leads place)
    | none =>
        match placeOf? (mergeSlashes path) with
        | some place => .meet place method live .moved
        | none => .missing

end Redline.Http
