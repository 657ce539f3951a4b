import Redline.Service.Logging
import Redline.Auth.Integration
import Redline.Recovery

/-!
# Starting the service

To start the service its log is set up, the settings are told, the app is made
and the web server runs.  A fault on the way ends it with an error, and an
interruption of the server ends it in good order.
-/

namespace Redline.Service

/-- Where the web server listens. -/
structure Binding where
  host : Json
  port : Json
  debug : Json

def bindingOf (s : Settings) : Binding := ⟨s.get "HOST", s.get "PORT", s.get "DEBUG"⟩

/-- The binding that arguments give when the app is run by itself. -/
def bindingFor (arguments : List (String × Json)) : Except Fault Binding := do
  checkNames ["host", "port"] arguments
  return ⟨(Json.lookup? "host" arguments).getD (.str "0.0.0.0"),
    (Json.lookup? "port" arguments).getD (.int 3000), .bool true⟩

def wantedLevel (s : Settings) : Json :=
  if (s.get "DEBUG").truthy then .str "DEBUG" else s.get "LOG_LEVEL"

def numeral : Json → Except Fault Text
  | .str s => .error (.notWritable (Json.str s).sortName)
  | v =>
      match v.toInteger with
      | .ok n => .ok (Number.intText n)
      | .error (.notNumeric sort) => .error (.notWritable sort)
      | .error e => .error e

/-- What is left behind by a start. -/
structure Launch where
  /-- The exit code, unless the service just ended. -/
  exit : Option Nat := none
  runs : List Binding := []
  level : Level := .number 0
  info : List String := []
  errors : List String := []

/-- A part of a start. -/
abbrev Starting := EStateM Fault Launch

def tell (line : String) : Starting Unit := modify fun l => { l with info := l.info ++ [line] }

def announce (s : Settings) : Starting Unit := do
  tell "Starting GitHub App server..."
  tell ("Host: " ++ String.ofList (s.get "HOST").display)
  tell ("Port: " ++ String.ofList (← lift (numeral (s.get "PORT"))))
  tell ("Debug mode: " ++ if (s.get "DEBUG").truthy then "enabled" else "disabled")

/-- Makes the app: its identity is checked first, then the key of the language
model. -/
def makeApp (s : Settings) : Except Fault Auth.Integration := do
  let i ← Auth.Integration.create (s.get "GITHUB_APP_ID") (s.get "GITHUB_PRIVATE_KEY")
    (s.get "GITHUB_ENTERPRISE_URL")
  discard (modelKey s)
  return i

/-- How the web server ends. -/
inductive Ending where
  | returns
  | interrupted
  | fails (reason : String)

/-- Starts the service up to the run of the web server. -/
def start (s : Settings) : Starting Unit := do
  let level ← lift (levelOf (wantedLevel s))
  modify fun l => { l with level := level }
  announce s
  discard (lift (makeApp s))
  modify fun l => { l with runs := l.runs ++ [bindingOf s] }

/-- What is left behind when a fault ended the start. -/
def Launch.fail (l : Launch) (reason : String) : Launch :=
  { l with exit := some 1, errors := l.errors ++ ["Error running GitHub App server: " ++ reason] }

def launch (s : Settings) (ending : Ending) : Launch :=
  match start s {} with
  | .error e l => l.fail e.message
  | .ok _ l =>
      match ending with
      | .returns => l
      | .interrupted =>
          { l with exit := some 0, info := l.info ++ ["Shutting down GitHub App server..."] }
      | .fails reason => l.fail reason

end Redline.Service
