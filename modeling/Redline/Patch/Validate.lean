import Redline.Patch.Patcher

/-!
# Checking the result

A file is in order if it parses and no node of its tree is an error.  An error
inside another one is not counted.  What is found wrong is logged: the number
of errors and then the first few of them, each with the start of its text.
-/

namespace Redline.Patcher

open Outline

mutual

/-- The errors of a node that lie in no other error. -/
def topErrors : Node → List Node
  | ⟨kind, start, stop, first, last, children⟩ =>
      if kind = errorKind then [⟨kind, start, stop, first, last, children⟩] else topErrorsOf children

/-- The errors of a list of nodes that lie in no other error. -/
def topErrorsOf : List Node → List Node
  | [] => []
  | n :: ns => topErrors n ++ topErrorsOf ns

end

/-- The number of characters of an error that are shown. -/
def shownLength : Nat := 50

def shownErrors : Nat := 5

/-- The start of a text, with dots if it goes on. -/
def shortened (t : Text) : Text :=
  if shownLength < t.length then t.take shownLength ++ "...".toList else t

def errorLine (p : Patcher) (n : Node) : String :=
  s!"  Syntax error at line {n.first.row + 1}: " ++ String.ofList (shortened (p.textOf n))

/-- What a check found: whether the file is in order, and what was logged. -/
structure Verdict where
  valid : Bool
  log : List String
deriving DecidableEq, Repr

def verdictOn (p : Patcher) (errors : List Node) : Verdict :=
  if errors.isEmpty then ⟨true, []⟩
  else
    ⟨false, s!"Found {errors.length} syntax errors in modified code"
      :: (errors.take shownErrors).map p.errorLine⟩

/-- Checks the text of the file, parsed afresh.  A file without a language
always passes. -/
def validate (p : Patcher) : Reading Verdict := fun q =>
  match p.language with
  | none => .ok ⟨true, []⟩ q
  | some language =>
      match parse language p.content q with
      | .error e r => .ok ⟨false, ["Failed to parse modified code: " ++ e.message]⟩ r
      | .ok none r => .ok ⟨false, ["Failed to parse modified code"]⟩ r
      | .ok (some tree) r =>
          match tree.root with
          | .ok root => .ok (p.verdictOn (topErrors root)) r
          | .error e => .error e r

end Redline.Patcher
