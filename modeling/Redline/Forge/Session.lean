import Redline.Forge.Basic
import Redline.Refine.Client
import Redline.Formatter

/-!
# Sessions

A session is an operation in a world: it sends requests to the forge, asks the
advisors and runs parsers.  A fault ends it, and what was done before stays
done.
-/

namespace Redline

/-- All that a session deals with. -/
structure World where
  forge : Forge
  reviewer : Advisor (Option (List Finding))
  refiner : Advisor Answer
  parsers : Outline.Parsers
  formatter : Formatter

/-- An operation in a world. -/
abbrev Session := EStateM Fault World

namespace Session

def reading {α : Type} (x : Outline.Reading α) : Session α := fun w =>
  match x w.parsers with
  | .ok a p => .ok a { w with parsers := p }
  | .error e p => .error e { w with parsers := p }

def reviewing {α : Type} (x : Review.Asking α) : Session α := fun w =>
  match x w.reviewer with
  | .ok a r => .ok a { w with reviewer := r }
  | .error e r => .error e { w with reviewer := r }

def forge : Session Forge := fun w => .ok w.forge w

/-- Sends a request and changes the forge if it does not fail. -/
def send (r : Forge.Request) (change : Forge → Forge := id) : Session Unit := fun w =>
  let f := w.forge
  let g := { f with log := f.log ++ [r] }
  match f.outage f.log.length r with
  | some reason => .error (.outage reason) { w with forge := g }
  | none => .ok () { w with forge := change g }

end Session

end Redline
