import Redline.Refine.Answer
import Redline.Json.Writer
import Redline.Template
import Redline.Advisor

/-!
# Asking for changed code

`generate` sends a prompt and gives the answer, or nothing if the advisor
failed.  `verify` asks for a judgement on a change, and a failure becomes a
judgement against it.  Both log the prompt and what came back.
-/

namespace Redline.Refine

/-- A log of what was sent and received. -/
abbrev Log := List Text

def Answer.isEmpty : Answer → Bool
  | .json v => !v.truthy
  | _ => false

/-- How an object of another kind writes itself. -/
def plainText : Text := "plain".toList

/-- The line of the log about an answer to a prompt for code. -/
def answerLine (a : Answer) : Text :=
  let head := "FULL LLM RESPONSE: ".toList
  match a with
  | .refinement r => head ++ r.toJson.indented
  | .plain .hidden => head ++ plainText
  | .plain (.value v) => head ++ v.indented
  | .plain .unwritable => "FULL LLM RESPONSE (as string): ".toList ++ plainText
  | .json v => head ++ v.display

def generate (prompt : Text) (advisor : Advisor Answer) : Option Answer × Log × Advisor Answer :=
  let sent := "FULL PROMPT TO LLM: ".toList ++ prompt
  match Advisor.ask prompt advisor with
  | .error _ b => (none, [sent], b)
  | .ok a b => (some a, if Answer.isEmpty a then [sent] else [sent, answerLine a], b)

/-! ## Judgements -/

def judgementPrompt (before after : Text) : Text :=
  textOfLines
    ["", "        Please verify that the following code modification is appropriate and correct.",
     "        ", "        ORIGINAL CODE:", "        ```", "        "] ++ before ++
  textOfLines
    ["", "        ```", "        ", "        MODIFIED CODE:", "        ```", "        "] ++ after ++
  textOfLines
    ["", "        ```", "        ", "        Analyze the changes and verify:",
     "        1. The change is syntactically correct",
     "        2. The changes are minimal and focused",
     "        3. The changes do not introduce new issues",
     "        4. The changes do not change the overall behavior of the code",
     "        ", "        Return a JSON response with the following fields:",
     "        - is_valid: boolean indicating if the change is valid",
     "        - issues: array of issues found (empty if valid)",
     "        - explanation: brief explanation of why the change is valid or not", "        "]

/-- The judgement when a change could not be judged. -/
def failedJudgement (reason : String) : Json :=
  .obj [("is_valid", .bool false), ("issues", .arr [.str ("Error during verification: " ++ reason)]),
    ("explanation", .str "Failed to verify code due to an error")]

/-- The text of an answer, if it can be written. -/
def judgementText : Answer → Except String Text
  | .json v => .ok v.indented
  | .refinement _ => .error "Object of type RefinementResponse is not JSON serializable"
  | .plain _ => .error "Object of type PlainResponse is not JSON serializable"

def verify (before after : Text) (advisor : Advisor Answer) : Answer × Log × Advisor Answer :=
  let prompt := judgementPrompt before after
  let sent := "FULL VERIFICATION PROMPT TO LLM: ".toList ++ prompt
  match Advisor.ask prompt advisor with
  | .error e b => (.json (failedJudgement e.message), [sent], b)
  | .ok a b =>
      if Answer.isEmpty a then (a, [sent], b)
      else
        match judgementText a with
        | .ok t => (a, [sent, "FULL VERIFICATION RESPONSE: ".toList ++ t], b)
        | .error reason => (.json (failedJudgement reason), [sent], b)

end Redline.Refine
