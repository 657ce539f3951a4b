import Redline.Review.Similarity
import Redline.Text.Quoted

/-!
# The command line of the setup

The setup takes no arguments and a few options.  A command line is read from
left to right, and the first option that cannot be read is told.  If all of it
can be read, the first value that does not fit its option is told, and else the
arguments that are too many.
-/

namespace Redline.Setup

/-! ## Options -/

/-- The options of the setup. -/
inductive CommandOption where
  | help
  | installCompletion
  | showCompletion
deriving DecidableEq, Repr

namespace CommandOption

/-- All options, in the order of their names. -/
def all : List CommandOption := [help, installCompletion, showCompletion]

def name : CommandOption → String
  | help => "--help"
  | installCompletion => "--install-completion"
  | showCompletion => "--show-completion"

def ofName? (name : String) : Option CommandOption := all.find? fun o => o.name = name

def takesValue : CommandOption → Bool
  | help => false
  | installCompletion | showCompletion => true

end CommandOption

def shells : List String := ["bash", "zsh", "fish", "powershell", "pwsh"]

/-- What is wrong with a command line. -/
inductive ArgumentError where
  /-- An option is not known. -/
  | unknownOption (name : String) (similar : List String)
  /-- An option is given a value that it does not take. -/
  | needlessValue (option : CommandOption)
  /-- An option is not given the value that it takes. -/
  | missingValue (option : CommandOption)
  /-- An option is given a value that does not fit. -/
  | wrongValue (option : CommandOption) (value : String)
  | extra (arguments : List String)
deriving DecidableEq, Repr

/-! ## Reading -/

/-- How alike two names have to be for one to be suggested for the other. -/
def likeness : Number.Magnitude := .ofRatio 6 10

def similarOptions (name : String) : List String :=
  (CommandOption.all.map CommandOption.name).filter fun o =>
    !(Review.similarity o.toList name.toList).lt likeness

/-- What was read of a command line. -/
structure CommandLine where
  options : List (CommandOption × Option String) := []
  arguments : List String := []
deriving DecidableEq, Repr

/-- Sets the value of an option.  The option keeps its first place. -/
def CommandLine.give (l : CommandLine) (o : CommandOption) (value : Option String) : CommandLine :=
  { l with options := if l.options.any (·.1 = o)
      then l.options.map fun e => if e.1 = o then (o, value) else e
      else l.options ++ [(o, value)] }

/-- The name of a long option and the value that is attached to it. -/
def splitOption (argument : String) : String × Option String :=
  let t := argument.toList
  (String.ofList (t.takeWhile (· ≠ '=')),
   match t.dropWhile (· ≠ '=') with
   | _ :: value => some (String.ofList value)
   | [] => none)

def isOption (argument : String) : Bool :=
  match argument.toList with
  | '-' :: _ :: _ => true
  | _ => false

/-- What is wrong with an option that is not known.  Of short options that are
run together the first counts. -/
def unknown (argument name : String) : ArgumentError :=
  match argument.toList with
  | '-' :: '-' :: _ => .unknownOption name (similarOptions name)
  | t => .unknownOption (String.ofList (t.take 2)) []

/-- Reads a command line behind what was read already. -/
def readArguments (l : CommandLine) : List String → Except ArgumentError CommandLine
  | [] => .ok l
  | a :: as =>
      if a = "--" then .ok { l with arguments := l.arguments ++ as }
      else if !isOption a then readArguments { l with arguments := l.arguments ++ [a] } as
      else
        let (name, value) := splitOption a
        match CommandOption.ofName? name with
        | none => .error (unknown a name)
        | some o =>
            match o.takesValue, value, as with
            | false, none, as => readArguments (l.give o none) as
            | false, some _, _ => .error (.needlessValue o)
            | true, some v, as => readArguments (l.give o (some v)) as
            | true, none, v :: as => readArguments (l.give o (some v)) as
            | true, none, [] => .error (.missingValue o)

/-- A value that does not fit its option. -/
def valueError? : CommandOption × Option String → Option ArgumentError
  | (o, some value) => if shells.contains value then none else some (.wrongValue o value)
  | (_, none) => none

/-- What is wrong with a command line that could be read, if something is.  The
first option is carried out if it can be, and then the rest is not looked at.
Help comes before all others. -/
def CommandLine.error? (l : CommandLine) : Option ArgumentError :=
  if l.options.any (·.1 = .help) then none
  else
    match l.options with
    | o :: _ => valueError? o
    | [] => if l.arguments.isEmpty then none else some (.extra l.arguments)

/-- What is wrong with a command line, if something is. -/
def checkArguments (arguments : List String) : Option ArgumentError :=
  match readArguments {} arguments with
  | .error e => some e
  | .ok l => l.error?

/-! ## Wording -/

def quotedValue (value : String) : String := String.ofList (Text.quoted value.toList)

def suggestion : List String → String
  | [] => ""
  | [o] => " Did you mean " ++ o ++ "?"
  | os => " (Possible options: " ++ String.intercalate ", " os ++ ")"

namespace ArgumentError

def message : ArgumentError → String
  | unknownOption name similar => "No such option: " ++ name ++ suggestion similar
  | needlessValue o => "Option " ++ quotedValue o.name ++ " does not take a value."
  | missingValue o => "Option " ++ quotedValue o.name ++ " requires an argument."
  | wrongValue o value =>
      "Invalid value for " ++ quotedValue o.name ++ ": " ++ quotedValue value ++ " is not one of "
        ++ String.intercalate ", " (shells.map quotedValue) ++ "."
  | extra arguments =>
      (if arguments.length = 1 then "Got unexpected extra argument (" else "Got unexpected extra arguments (")
        ++ String.intercalate " " arguments ++ ")"

/-- Whether the usage is shown with an error.  It is not if an option has a
value too many or too few. -/
def showsUsage : ArgumentError → Bool
  | needlessValue _ | missingValue _ => false
  | _ => true

def usage (e : ArgumentError) : String :=
  (if e.showsUsage then "Usage: setup.py [OPTIONS]\nTry 'setup.py --help' for help.\n\n" else "")
    ++ "Error: " ++ e.message ++ "\n"

end ArgumentError

def usageCode : Nat := 2

end Redline.Setup
