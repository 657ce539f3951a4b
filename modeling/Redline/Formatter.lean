import Redline.Json.Quantity
import Redline.Text.Lines

/-!
# Formatters

A formatter lays out the text of a file in a language anew, gives nothing if it
cannot, or fails.  `FormatterSetup` describes the formatters at hand: one that
runs a program on a temporary file and serves one language, or a list of
formatters that were registered by hand and then serve alone.
-/

namespace Redline

/-- How the text of a file in a language is formatted. -/
abbrev Formatter := String → Text → Except Fault (Option Text)

/-- A formatter that is never at hand. -/
def Formatter.absent : Formatter := fun _ _ => .ok none

/-- What a registered formatter does. -/
inductive Registered where
  | gives (t : Text)
  | givesNothing
  | fails (reason : String)

/-- A program that formats a file. -/
structure FormatterProgram where
  /-- What it writes, if not the file itself. -/
  output : Option Text := none
  exitCode : Json := .int 0
  canStore : Bool := true

def programLanguage : String := "python"

/-- The text that a program makes of a file.  Line ends are read as line feeds. -/
def FormatterProgram.run (f : FormatterProgram) (t : Text) : Option Text :=
  if f.canStore && f.exitCode == .int 0 then some (Text.normalizeEnds (f.output.getD t)) else none

/-- The formatters at hand. -/
structure FormatterSetup where
  /-- The program, if it is installed. -/
  program : Option FormatterProgram := none
  /-- The formatters registered by hand, by language. -/
  registered : List (String × Registered) := []

def FormatterSetup.formatter (s : FormatterSetup) : Formatter := fun language t =>
  if s.registered.isEmpty then
    .ok (if language = programLanguage then s.program.bind (·.run t) else none)
  else
    match s.registered.lookup language with
    | some (.gives u) => .ok (some u)
    | some .givesNothing => .ok none
    | some (.fails reason) => .error (.outage reason)
    | none => .ok none

end Redline
