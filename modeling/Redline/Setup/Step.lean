import Redline.Setup.Guide

/-!
# Steps of the setup

Every step of the setup can be taken alone, by its name and its arguments.
There have to be as many arguments as the step asks for.
-/

namespace Redline.Setup

/-- A step that can be taken alone. -/
structure Step where
  name : String
  needs : List String := []
  takes : List String := []
  run : List Json → Dialogue Json

/-- Names one after the other, as a sentence lists them. -/
def listed : List String → String
  | [] => ""
  | [a] => a
  | [a, b] => a ++ " and " ++ b
  | names => String.intercalate ", " names.dropLast ++ ", and " ++ names.getLastD ""

def plural (n : Nat) : String := if n = 1 then "" else "s"

def Step.lacks (s : Step) (missing : List String) : String :=
  let n := missing.length
  s!"{s.name}() missing {n} required positional argument{plural n}: "
    ++ listed (missing.map fun a => "'" ++ a ++ "'")

/-- What is said when there are too many arguments. -/
def Step.overflows (s : Step) (given : Nat) : String :=
  let least := s.needs.length
  let most := least + s.takes.length
  let taken :=
    if least = most then s!"{most} positional argument{plural most}"
    else s!"from {least} to {most} positional arguments"
  s!"{s.name}() takes {taken} but {given} " ++ (if given = 1 then "was" else "were") ++ " given"

def Step.take (s : Step) (args : List Json) : Dialogue Json :=
  if s.needs.length + s.takes.length < args.length then throw (.fault (.misfit (s.overflows args.length)))
  else if args.length < s.needs.length then
    throw (.fault (.misfit (s.lacks (s.needs.drop args.length))))
  else s.run args

end Redline.Setup
