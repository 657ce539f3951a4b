import Redline.Record

/-!
# Findings

A finding is one remark of a reviewer: where it is, what kind it is and how
severe, what is wrong and what to do about it.  A review is a list of findings.
-/

namespace Redline

def reviewModels : String := "agentic_code_review.llm_reviewer.reviewer"

/-- A remark of a reviewer. -/
structure Finding where
  path : String
  /-- The line, counted from one. -/
  line : Int
  category : String
  severity : String
  description : String
  suggestion : String
  side : String
deriving DecidableEq, Repr, Inhabited

namespace Finding

def read (fs : List (String × Json)) : Checked Finding :=
  Finding.mk <$> required fs "file_path" Check.text
    <*> required fs "line_number" Check.integer
    <*> required fs "category" Check.text
    <*> required fs "severity" Check.text
    <*> required fs "description" Check.text
    <*> required fs "suggestion" Check.text
    <*> required fs "side" Check.text

def model : Model Finding := ⟨"ReviewComment", reviewModels, read⟩

def toJson (f : Finding) : Json :=
  .obj [("file_path", .str f.path), ("line_number", .int f.line), ("category", .str f.category),
    ("severity", .str f.severity), ("description", .str f.description),
    ("suggestion", .str f.suggestion), ("side", .str f.side)]

/-- The findings of a review, from the fields of a record. -/
def readReview (fs : List (String × Json)) : Checked (List Finding) :=
  required fs "comments" (Check.list (Check.record read))

def reviewModel : Model (List Finding) := ⟨"ReviewResponse", reviewModels, readReview⟩

def reviewToJson (findings : List Finding) : Json :=
  .obj [("comments", .arr (findings.map toJson))]

end Finding

end Redline
