import Redline.Service.Settings
import Redline.Text.Case

/-!
# Logs

A logger has a level and handlers.  There are two ways to set one up: for the
application, which adds a handler for the terminal and perhaps one for a file,
and for the service, which replaces all handlers by one for a file that is
rotated and one for the terminal.
-/

namespace Redline.Service

/-- A level of a log. -/
inductive Level where
  | number (n : Int)
  /-- A truth value, which counts as one or zero. -/
  | flag (b : Bool)
deriving DecidableEq, Repr

def Level.toJson : Level → Json
  | number n => .int n
  | flag b => .bool b

def levels : List (String × Int) :=
  [("CRITICAL", 50), ("FATAL", 50), ("ERROR", 40), ("WARN", 30), ("WARNING", 30), ("INFO", 20),
   ("DEBUG", 10), ("NOTSET", 0)]

/-- What is wrong with a name that no level has. -/
def unknownLevel (name : String) : Fault :=
  .refused ("Unknown level: " ++ String.ofList (Text.quoted name.toList))

/-- The level that a value gives, as a number or by its name. -/
def levelOf : Json → Except Fault Level
  | .int n => .ok (.number n)
  | .bool b => .ok (.flag b)
  | .str name =>
      match levels.lookup name with
      | some n => .ok (.number n)
      | none => .error (unknownLevel name)
  | v => .error (.notLevel (String.ofList v.shown))

/-- Where a handler writes. -/
inductive Output where
  | colours
  | terminal
  | file (path : String)
  /-- To a file of bounded size, of which some old ones are kept. -/
  | rotated (path : String) (size kept : Nat)
deriving DecidableEq, Repr

/-- What writes the lines of a log. -/
structure Handler where
  output : Output
  level : Level := .number 0
  format : String
  dateFormat : Option String := none
deriving DecidableEq, Repr

/-- A logger. -/
structure Logger where
  level : Level := .number 0
  handlers : List Handler := []
deriving DecidableEq, Repr

/-- The form of a line with all that is known. -/
def fullFormat : String := "%(asctime)s - %(name)s - %(levelname)s - %(message)s"

def colourHandler : Handler :=
  { output := .colours, format := "%(message)s", dateFormat := some "[%X]" }

/-- The handler for a file, if one is given. -/
def fileHandlers (file : Json) : Except Fault (List Handler) :=
  if !file.truthy then .ok []
  else
    match file with
    | .str path =>
        .ok [{ output := .file path, format := fullFormat, dateFormat := some "%Y-%m-%d %H:%M:%S" }]
    | v => .error (.notPath v.sortName)

def Logger.setUp (l : Logger) (arguments : List (String × Json)) : Except Fault Logger := do
  checkNames ["level", "log_file"] arguments
  let level ← levelOf ((Json.lookup? "level" arguments).getD (.str "INFO"))
  let files ← fileHandlers ((Json.lookup? "log_file" arguments).getD .null)
  return { level := level, handlers := l.handlers ++ colourHandler :: files }

/-- The directory of the logs of the service. -/
def logDirectory : String := "agentic_code_review/logs"

/-- The form of a line that is used if none is given. -/
def basicFormat : String := "%(levelname)s:%(name)s:%(message)s"

/-- The level that the settings of the service give.  Case does not matter.  The
name is looked up among all constants of logs, and two of them are no levels. -/
def serviceLevel : Json → Except Fault Level
  | .str name =>
      let upper := String.ofList (Text.upper name.toList)
      match levels.lookup upper with
      | some n => .ok (.number n)
      | none =>
          if upper = "BASIC_FORMAT" then .error (unknownLevel basicFormat)
          else if upper = "_STYLES" then .error .wrongSort
          else .error (.noMember "module" upper)
  | v => .error (.noMember v.sortName "upper")

def Logger.setUpService (level : Json) : Except Fault Logger := do
  let n ← serviceLevel level
  return { level := n
           handlers :=
            [{ output := .rotated (logDirectory ++ "/github_app.log") 10485760 5, level := n,
               format := fullFormat },
             { output := .terminal, level := n, format := fullFormat }] }

end Redline.Service
