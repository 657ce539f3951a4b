import Redline.Record

/-!
# Answers with changed code

A refinement is the answer to a prompt for changed code: the code, the imports
it needs, and which suggestions were carried out or passed over and why.  The
suggestions in a prompt are records too.

An advisor may answer with something else, an object of another kind or plain
JSON.
-/

namespace Redline

def answerModels : String := "agentic_code_review.llm_refiner.models"

/-- A suggestion as a prompt gives it. -/
structure Suggestion where
  id : String
  body : String
  path : String
  /-- The line, counted from one. -/
  line : Int
deriving DecidableEq, Repr, Inhabited

namespace Suggestion

/-- A suggestion from the fields of a record. -/
def read (fs : List (String × Json)) : Checked Suggestion :=
  Suggestion.mk <$> required fs "suggestion_id" Check.text
    <*> required fs "body" Check.text
    <*> required fs "file_path" Check.text
    <*> required fs "line_number" Check.integer

def model : Model Suggestion := ⟨"CodeReviewComment", answerModels, read⟩

def toJson (s : Suggestion) : Json :=
  .obj [("suggestion_id", .str s.id), ("body", .str s.body), ("file_path", .str s.path),
    ("line_number", .int s.line)]

end Suggestion

/-- A suggestion that was carried out. -/
structure Implemented where
  id : String
  path : String
  /-- The line, counted from one. -/
  line : Int
deriving DecidableEq, Repr, Inhabited

namespace Implemented

/-- A suggestion that was carried out, from the fields of a record. -/
def read (fs : List (String × Json)) : Checked Implemented :=
  Implemented.mk <$> required fs "suggestion_id" Check.text
    <*> required fs "file_path" Check.text
    <*> required fs "line_number" Check.integer

/-- The model of suggestions that were carried out. -/
def model : Model Implemented := ⟨"ImplementedSuggestion", answerModels, read⟩

/-- The record of a suggestion that was carried out. -/
def toJson (s : Implemented) : Json :=
  .obj [("suggestion_id", .str s.id), ("file_path", .str s.path), ("line_number", .int s.line)]

end Implemented

/-- A suggestion that was passed over. -/
structure Skipped where
  id : String
  reason : String
deriving DecidableEq, Repr, Inhabited

namespace Skipped

/-- A suggestion that was passed over, from the fields of a record. -/
def read (fs : List (String × Json)) : Checked Skipped :=
  Skipped.mk <$> required fs "suggestion_id" Check.text <*> required fs "reason" Check.text

/-- The model of suggestions that were passed over. -/
def model : Model Skipped := ⟨"SkippedSuggestion", answerModels, read⟩

/-- The record of a suggestion that was passed over. -/
def toJson (s : Skipped) : Json := .obj [("suggestion_id", .str s.id), ("reason", .str s.reason)]

end Skipped

/-- Changed code. -/
structure Refinement where
  /-- The function or class. -/
  name : String
  path : String
  startLine : Int
  endLine : Int
  code : Text
  imports : Option Text := none
  implemented : List Implemented := []
  skipped : List Skipped := []
  explanation : Option String := none
deriving DecidableEq, Repr, Inhabited

namespace Refinement

/-- A refinement from the fields of a record. -/
def read (fs : List (String × Json)) : Checked Refinement :=
  Refinement.mk <$> required fs "function_name" Check.text
    <*> required fs "file_path" Check.text
    <*> required fs "unit_start_line" Check.integer
    <*> required fs "unit_end_line" Check.integer
    <*> required fs "modified_code" Check.chars
    <*> optional fs "new_imports" Check.chars
    <*> defaulted fs "implemented_suggestions" (Check.list (Check.record Implemented.read)) []
    <*> defaulted fs "skipped_suggestions" (Check.list (Check.record Skipped.read)) []
    <*> optional fs "explanation" Check.text

def model : Model Refinement := ⟨"RefinementResponse", answerModels, read⟩

def toJson (r : Refinement) : Json :=
  .obj [("function_name", .str r.name), ("file_path", .str r.path),
    ("unit_start_line", .int r.startLine), ("unit_end_line", .int r.endLine),
    ("modified_code", .str (String.ofList r.code)),
    ("new_imports", (r.imports.map fun t => Json.str (String.ofList t)).getD .null),
    ("implemented_suggestions", .arr (r.implemented.map Implemented.toJson)),
    ("skipped_suggestions", .arr (r.skipped.map Skipped.toJson)),
    ("explanation", (r.explanation.map Json.str).getD .null)]

end Refinement

/-- What an object of another kind says about its contents. -/
inductive Contents where
  | hidden
  | value (v : Json)
  | unwritable

/-- What an advisor answers. -/
inductive Answer where
  | refinement (r : Refinement)
  /-- An object of another kind. -/
  | plain (contents : Contents)
  | json (v : Json)

end Redline
