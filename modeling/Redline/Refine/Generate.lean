import Redline.Refine.Prompts
import Redline.Forge.Session
import Redline.Comment

/-!
# Changed code for a group of comments

`generate` shows a piece of code and the comments on it to the refiner and
gives the answer, if it holds code.  A comment that the answer mentions neither
as carried out nor as passed over counts as carried out.
-/

namespace Redline.Refine

/-- A comment before its fields are checked. -/
structure Request where
  id : String
  body : Json
  /-- The line, counted from one. -/
  line : Json

def Request.ofComment (c : Comment) : Request :=
  { id := c.id.displayed, body := c.body, line := c.line }

/-- The suggestion that a request makes for a file. -/
def Request.suggestion (path : Json) (r : Request) : Except Fault Suggestion :=
  (Suggestion.read
    [("suggestion_id", .str r.id), ("body", r.body), ("file_path", path),
     ("line_number", r.line)]).orFault "CodeReviewComment"

/-- What is recorded when a request was carried out. -/
def Request.implemented (path : Json) (r : Request) : Except Fault Implemented :=
  (Implemented.read
    [("suggestion_id", .str r.id), ("file_path", path),
     ("line_number", r.line)]).orFault "ImplementedSuggestion"

/-- The prompt for a piece of code and suggestions. -/
def changePrompt (code : Text) (suggestions : List Suggestion) : Text :=
  refinementPrompt.fill
    [("original_code", code), ("comments", (Json.arr (suggestions.map Suggestion.toJson)).indented),
     ("format_instructions", answerForm)]

/-- Whether a refinement mentions a suggestion. -/
def mentions (r : Refinement) (id : String) : Bool :=
  r.implemented.any (·.id == id) || r.skipped.any (·.id == id)

/-- The refinement with every request that it does not mention added to those
that were carried out. -/
def completed (path : Json) : List Request → Refinement → Except Fault Refinement
  | [], r => .ok r
  | q :: qs, r =>
      if mentions r q.id then completed path qs r
      else do
        let done ← q.implemented path
        completed path qs { r with implemented := r.implemented ++ [done] }

/-- The refinement in an answer, if it holds code. -/
def Answer.code? : Option Answer → Option Refinement
  | some (.refinement r) => if r.code.isEmpty then none else some r
  | _ => none

def askFor (prompt : Text) : Session (Option Answer) := fun w =>
  let (answer, _, refiner) := Refine.generate prompt w.refiner
  .ok answer { w with refiner := refiner }

/-- The refinement of a piece of code by requests. -/
def changesFor (path : Json) (code : Text) (requests : List Request) : Session (Option Refinement) := do
  let suggestions ← lift (requests.mapM (·.suggestion path))
  match Answer.code? (← askFor (changePrompt code suggestions)) with
  | none => return none
  | some r => return some (← lift (completed path requests r))

/-- The refinement of a piece of code by requests, and nothing if it meets a
fault. -/
def changes (path : Json) (code : Text) (requests : List Request) : Session (Option Refinement) :=
  recover none (changesFor path code requests)

end Redline.Refine
