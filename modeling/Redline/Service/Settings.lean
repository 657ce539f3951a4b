import Redline.Json.Basic
import Redline.Fault

/-!
# Settings

The settings of the service have names and values.  Some of them have a value
from the start, and the others are taken from the environment.  Any of them can
be given another value.  Values are not checked.
-/

namespace Redline.Service

/-- The settings of the service, by name. -/
structure Settings where
  values : List (String × Json)

namespace Settings

/-- The settings that there are, each with its value if it has one from the
start. -/
def known : List (String × Option Json) :=
  [("DEBUG", some (.bool false)),
   ("GITHUB_API_URL", some (.str "https://api.github.com")),
   ("GITHUB_APP_ID", none),
   ("GITHUB_ENTERPRISE_URL", some .null),
   ("GITHUB_PRIVATE_KEY", none),
   ("GITHUB_WEBHOOK_SECRET", none),
   ("HOST", some (.str "0.0.0.0")),
   ("LLM_API_KEY", none),
   ("LLM_MAX_TOKENS", some (.int 4000)),
   ("LLM_MODEL", some (.str "o3-mini")),
   ("LLM_PROVIDER", some (.str "openai")),
   ("LLM_TEMPERATURE", some (.int 0)),
   ("LOG_LEVEL", some (.str "DEBUG")),
   ("PORT", some (.int 8000))]

/-- The value of a variable of the environment. -/
def ofEnvironment (environment : List (String × String)) (name : String) : Json :=
  ((environment.lookup name).map Json.str).getD .null

/-- The settings in an environment, with some values given. -/
def load (environment : List (String × String)) (given : List (String × Json)) : Settings where
  values := known.map fun (name, value) =>
    (name, (Json.lookup? name given).getD (value.getD (ofEnvironment environment name)))

/-- The settings in an environment, with some values given.  The name of the
settings themselves cannot be given. -/
def create (environment : List (String × String)) (given : List (String × Json)) : Except Fault Settings :=
  if (Json.lookup? "self" given).isSome then .error .wrongSort else .ok (load environment given)

def get (s : Settings) (name : String) : Json := (Json.lookup? name s.values).getD .null

/-- What came of loading the settings, with what was logged. -/
structure Loading where
  /-- The settings, or why there are none. -/
  result : Except Fault Settings
  info : List String
  errors : List String

/-- Loads the settings and logs it.  They may be refused for a reason. -/
def loadLogged (environment : List (String × String)) (refusal : Option String) : Loading :=
  match refusal with
  | none =>
      { result := .ok (load environment [])
        info := ["Initializing Settings...", "Settings initialized successfully",
          "Global settings instance created successfully"]
        errors := [] }
  | some reason =>
      { result := .error (.refused reason)
        info := ["Initializing Settings..."]
        errors := ["Error initializing Settings: " ++ reason,
          "Error creating global settings instance: " ++ reason] }

end Settings

def checkNames (known : List String) (arguments : List (String × Json)) : Except Fault Unit :=
  if arguments.all fun a => known.contains a.1 then .ok () else .error .wrongSort

/-! ## The language model -/

/-- Who talks to the language model. -/
inductive Role where
  | reviewer
  | refiner
deriving DecidableEq, Repr

/-- A value that says something, or another one. -/
def orElse (v other : Json) : Json := if v.truthy then v else other

/-- The key of the language model, which has to be there. -/
def modelKey (s : Settings) : Except Fault Json :=
  let key := s.get "LLM_API_KEY"
  if key.truthy then .ok key else .error (.refused "LLM_API_KEY environment variable is not set")

/-- How the language model is addressed, given some arguments. -/
def connection (role : Role) (s : Settings) (arguments : List (String × Json)) :
    Except Fault (List (String × Json)) := do
  checkNames ["model_name", "temperature", "max_tokens"] arguments
  let key ← modelKey s
  let argument := fun name => (Json.lookup? name arguments).getD .null
  let basic :=
    [("model_name", orElse (argument "model_name") (s.get "LLM_MODEL")),
     ("max_tokens", orElse (argument "max_tokens") (s.get "LLM_MAX_TOKENS")), ("api_key", key)]
  match role with
  | .reviewer => return basic ++ [("disabled_params", .obj [("parallel_tool_calls", .null)])]
  | .refiner => return basic

end Redline.Service
