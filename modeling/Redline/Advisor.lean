import Redline.Recovery
import Redline.Text.Basic

/-!
# Advisors

An advisor answers prompts.  What it answers may depend on the prompt and on
how many prompts came before, and instead of an answer it may give a fault.
The prompts that were sent to it are kept.
-/

namespace Redline

/-- Someone who answers prompts. -/
structure Advisor (α : Type) where
  /-- The answer to the prompt that comes after a number of prompts. -/
  reply : Nat → Text → Except Fault α
  asked : List Text := []

namespace Advisor

/-- An advisor that goes through a list of answers and then fails. -/
def ofScript {α : Type} (script : List (Except Fault α)) : Advisor α where
  reply count _ := script[count]?.getD (.error (.outage "no scripted response"))

/-- An advisor that always gives the same answer. -/
def constant {α : Type} (answer : Except Fault α) : Advisor α where
  reply _ _ := answer

def ask {α : Type} (prompt : Text) : EStateM Fault (Advisor α) α := fun a =>
  let b := { a with asked := a.asked ++ [prompt] }
  match a.reply a.asked.length prompt with
  | .ok answer => .ok answer b
  | .error e => .error e b

end Advisor

end Redline
