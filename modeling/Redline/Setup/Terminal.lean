import Redline.Json.Basic
import Redline.Fault

/-!
# The terminal of the setup

The setup talks to a person at a terminal, runs programs, reads and writes
files and fetches an address.  A terminal says how all of that turns out.  What
was shown, asked and run is logged in order.

A question may have a default, which is taken if there is no answer.
-/

namespace Redline.Setup

/-- The kinds of questions. -/
inductive QuestionKind where
  /-- Yes or no. -/
  | confirm
  | text
  | number
deriving DecidableEq, Repr

/-- Something that was shown, asked or run. -/
inductive Event where
  | question (kind : QuestionKind) (text : String) (default : Option Json) (choices : Option (List String))
  /-- A question whose answer is not shown. -/
  | secret
  | print (text : String)
  | panel (text title : String)
  | markdown (text : Text)
  | status (text : String)
  | run (command : String)
  | get (address : String)

/-- A terminal and the system behind it. -/
structure Terminal where
  answers : List Json := []
  files : List (String × Text) := []
  programs : List String := []
  fails : String → Bool := fun _ => false
  system : Json := .str "Linux"
  version : Json := .str ""
  /-- The address that a new relay gets, if the network is there. -/
  relay : Option Json := none
  /-- The choice among a number of things that comes after a number of choices. -/
  choose : Nat → Nat → Nat := fun _ _ => 0
  choices : Nat := 0
  log : List Event := []

/-- Why a dialogue ended early. -/
inductive Stop where
  | fault (e : Fault)
  | exit (code : Nat)

/-- A dialogue at a terminal. -/
abbrev Dialogue := EStateM Stop Terminal

def exit {α : Type} (code : Nat) : Dialogue α := throw (.exit code)

def lift {α : Type} (x : Except Fault α) : Dialogue α :=
  match x with
  | .ok a => pure a
  | .error e => throw (.fault e)

/-- The outcome of a dialogue, with a fault caught.  The program may still be
left. -/
def attempt {α : Type} (x : Dialogue α) : Dialogue (Except Fault α) := fun t =>
  match x t with
  | .ok a u => .ok (.ok a) u
  | .error (.fault e) u => .ok (.error e) u
  | .error (.exit code) u => .error (.exit code) u

def note (e : Event) : Dialogue Unit := modify fun t => { t with log := t.log ++ [e] }

/-! ## Showing -/

def print (text : String) : Dialogue Unit := note (.print text)

def printGood (text : String) : Dialogue Unit := print ("[green]" ++ text ++ "[/green]")

def printHint (text : String) : Dialogue Unit := print ("[yellow]" ++ text ++ "[/yellow]")

def printBad (text : String) : Dialogue Unit := print ("[red]" ++ text ++ "[/red]")

def panel (lines : List String) (title : String) : Dialogue Unit :=
  note (.panel (String.intercalate "\n" lines) title)

/-! ## Asking -/

/-- The next answer, if there is one. -/
def nextAnswer : Dialogue (Option Json) := do
  let t ← get
  match t.answers with
  | [] => return none
  | a :: rest =>
      set { t with answers := rest }
      return some a

/-- An answer that says something.  Null does not. -/
def said (answer : Option Json) : Option Json := answer.filter fun a => !a.isNull

def ask (kind : QuestionKind) (text : String) (default : Option Json) (choices : Option (List String)) :
    Dialogue Json := do
  note (.question kind text default choices)
  match (said (← nextAnswer)).orElse fun _ => default with
  | some a => return a
  | none => throw (.fault .noAnswer)

def confirm (text : String) (default : Bool) : Dialogue Bool :=
  return (← ask .confirm text (some (.bool default)) none).truthy

/-- Asks for a text that has no default. -/
def askText (text : String) : Dialogue Json := ask .text text none none

def askTextOr (text default : String) : Dialogue Json := ask .text text (some (.str default)) none

/-- Asks for a text that is not shown.  It is taken as it is. -/
def askSecret : Dialogue Json := do
  note .secret
  return (← nextAnswer).getD (.str "")

/-! ## The system -/

def isInstalled (program : String) : Dialogue Bool := return (← get).programs.contains program

/-- The parts of a command, which have to be texts.  `i` is the number of the
first one. -/
def commandParts (i : Nat) : List Json → Except Fault (List String)
  | [] => .ok []
  | .str s :: parts => do return s :: (← commandParts (i + 1) parts)
  | v :: _ => .error (.misfit s!"sequence item {i}: expected str instance, {v.sortName} found")

/-- The text of a command that is given as one or by its parts. -/
def commandText : Json → Except Fault String
  | .str s => .ok s
  | .arr parts => do return String.intercalate " " (← commandParts 0 parts)
  | .obj fields => .ok (String.intercalate " " (fields.map (·.1)))
  | _ => .error (.misfit "can only join an iterable")

/-- Runs a command and tells whether it succeeded. -/
def runCommand (command : String) : Dialogue Bool := do
  note (.run command)
  return !(← get).fails command

/-- Runs commands up to the first that fails, and tells whether all succeeded. -/
def runCommands : List String → Dialogue Bool
  | [] => pure true
  | c :: cs => do
      if ← runCommand c then runCommands cs else return false

def readFile (name : String) : Dialogue Text := do
  match (← get).files.lookup name with
  | some t => return t
  | none =>
      throw (.fault (.system
        ("[Errno 2] No such file or directory: " ++ String.ofList (Text.quoted name.toList))))

def writeFile (name : String) (content : Text) : Dialogue Unit :=
  modify fun t => { t with files := Table.set name content t.files }

/-- Fetches an address and gives the address that was reached. -/
def fetch (address : String) : Dialogue Json := do
  note (.get address)
  match (← get).relay with
  | some reached => return reached
  | none => throw (.fault (.outage "no network"))

/-- One of some characters, chosen at random. -/
def chooseFrom (alphabet : Text) : Dialogue Char := do
  let t ← get
  set { t with choices := t.choices + 1 }
  return alphabet.getD (t.choose t.choices alphabet.length) 'a'

def randomText (alphabet : Text) : (length : Nat) → Dialogue Text
  | 0 => pure []
  | n + 1 => do
      let c ← chooseFrom alphabet
      return c :: (← randomText alphabet n)

end Redline.Setup
