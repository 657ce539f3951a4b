import Redline.Record

/-!
# Modifications

A modification replaces the text between two positions of a file.  It remembers
the text it was meant for, so that it can be found again after other edits have
moved it, and the suggestions it carries out.

`Modification.afterEdit` moves a pending modification when another edit has
replaced a span.  One that starts behind the span moves with the text, and one
that starts before it and reaches into it grows or shrinks at its end.  The
modification of the span itself stays.
-/

namespace Redline

/-- Where the models of modifications are found. -/
def patchModels : String := "agentic_code_review.llm_refiner.models"

/-- A replacement of a part of a file. -/
structure Modification where
  path : String
  target : Text
  replacement : Text
  /-- The first line, counted from one. -/
  startLine : Int
  endLine : Int
  start : Int
  stop : Int
  suggestions : List String := []
  valid : Bool := true
  error : Option String := none
deriving DecidableEq, Repr, Inhabited

namespace Modification

/-- A modification from the fields of a record. -/
def read (fs : List (String × Json)) : Checked Modification :=
  Modification.mk <$> required fs "file_path" Check.text
    <*> required fs "original_node_text" Check.chars
    <*> required fs "modified_text" Check.chars
    <*> required fs "start_line" Check.integer
    <*> required fs "end_line" Check.integer
    <*> required fs "start_byte" Check.integer
    <*> required fs "end_byte" Check.integer
    <*> defaulted fs "suggestion_ids" (Check.list Check.text) []
    <*> defaulted fs "is_valid" Check.boolean true
    <*> optional fs "error_message" Check.text

def model : Model Modification := ⟨"FileModification", patchModels, read⟩

def toJson (m : Modification) : Json :=
  .obj [("file_path", .str m.path), ("original_node_text", .str (String.ofList m.target)),
    ("modified_text", .str (String.ofList m.replacement)), ("start_line", .int m.startLine),
    ("end_line", .int m.endLine), ("start_byte", .int m.start), ("end_byte", .int m.stop),
    ("suggestion_ids", .arr (m.suggestions.map .str)), ("is_valid", .bool m.valid),
    ("error_message", (m.error.map Json.str).getD .null)]

/-- The modification after an edit has replaced the text from `start` to
`oldStop` by a text that ends at `newStop`. -/
def afterEdit (start oldStop newStop : Int) (m : Modification) : Modification :=
  let delta := newStop - oldStop
  if m.start = start && m.stop = oldStop then m
  else if oldStop < m.start then { m with start := m.start + delta, stop := m.stop + delta }
  else if m.start < start && start < m.stop then { m with stop := m.stop + delta }
  else m

end Modification

/-- What became of a modification. -/
structure PatchResult where
  success : Bool
  content : Option Text := none
  /-- Why it was not applied. -/
  error : Option String := none
deriving DecidableEq, Repr, Inhabited

namespace PatchResult

def applied (content : Text) : PatchResult := { success := true, content := some content }

/-- The result of an edit that was not made. -/
def failed (reason : String) : PatchResult := { success := false, error := some reason }

def read (fs : List (String × Json)) : Checked PatchResult :=
  PatchResult.mk <$> required fs "success" Check.boolean
    <*> optional fs "modified_content" Check.chars
    <*> optional fs "error_message" Check.text

def model : Model PatchResult := ⟨"PatchResult", patchModels, read⟩

def toJson (r : PatchResult) : Json :=
  .obj [("success", .bool r.success),
    ("modified_content", (r.content.map fun t => Json.str (String.ofList t)).getD .null),
    ("error_message", (r.error.map Json.str).getD .null)]

end PatchResult

end Redline
