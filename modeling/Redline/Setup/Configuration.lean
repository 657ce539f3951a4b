import Redline.Setup.Accounts

/-!
# The configuration file

The configuration is written by filling a template.  The language of templates is
not settled here, so what fills the template is an argument.
-/

namespace Redline.Setup

def templateFile : String := ".env.template"

def configurationFile : String := ".env"

/-- The template as it comes with the application. -/
def configurationTemplate : Text :=
  textOfLines
    ["# GitHub App Configuration",
     "GITHUB_APP_ID=\x7b\x7b github_app_id \x7d\x7d",
     "GITHUB_PRIVATE_KEY=\x7b\x7b github_private_key \x7d\x7d",
     "GITHUB_WEBHOOK_SECRET=\x7b\x7b github_webhook_secret \x7d\x7d",
     "",
     "# LLM Configuration",
     "LLM_API_KEY=\x7b\x7b llm_api_key \x7d\x7d",
     "LLM_PROVIDER=\x7b\x7b llm_provider \x7d\x7d  # currently only openai is supported",
     "LLM_MODEL=\x7b\x7b llm_model \x7d\x7d  # currently only o3-mini is supported",
     "LLM_TEMPERATURE=0",
     "LLM_MAX_TOKENS=4000",
     "",
     "# Optional Settings (with defaults)",
     "LOG_LEVEL=INFO",
     "HOST=0.0.0.0",
     "PORT=\x7b\x7b port \x7d\x7d",
     "DEBUG=false",
     "",
     "# SMEE Configuration (for development webhook forwarding)",
     "SMEE_URL=\x7b\x7b smee_url \x7d\x7d",
     "SMEE_TARGET=\x7b\x7b smee_target \x7d\x7d",
     ""]

/-! ## Writing the file -/

def inQuotes (t : Text) : Json := .str (String.ofList ('"' :: t ++ ['"']))

/-- The parts of the configuration as records. -/
structure Parts where
  app : Json
  relay : Json
  model : Json

def AppAccount.toJson (a : AppAccount) : Json :=
  .obj [("app_id", .str a.appId), ("private_key", .str (String.ofList a.privateKey)),
    ("webhook_secret", a.secret)]

def Relay.toJson (r : Relay) : Json :=
  .obj [("smee_url", r.address), ("target_url", r.target), ("port", .int r.port)]

def ModelAccount.toJson (m : ModelAccount) : Json :=
  .obj [("api_key", m.key), ("model", m.model), ("provider", m.provider)]

def field (v : Json) (name : String) : Except Fault Json :=
  match v with
  | .obj fields =>
      match Json.lookup? name fields with
      | some x => .ok x
      | none => .error (.noField name)
  | v => .error (.notIndexable v.sortName)

/-- A private key without white space around it. -/
def strippedKey : Json → Except Fault Text
  | .str s => .ok (Text.strip s.toList)
  | v => .error (.noMember v.sortName "strip")

/-- The port of a relay, or the usual one. -/
def portIn : Json → Except Fault Json
  | .obj fields => .ok ((Json.lookup? "port" fields).getD (.int defaultPort))
  | v => .error (.noMember v.sortName "get")

def templateValues (p : Parts) (port : Json) : Except Fault (List (String × Json)) := do
  let appId ← field p.app "app_id"
  let key ← strippedKey (← field p.app "private_key")
  let secret ← field p.app "webhook_secret"
  let modelKey ← field p.model "api_key"
  let provider ← field p.model "provider"
  let model ← field p.model "model"
  let address ← field p.relay "smee_url"
  let target ← field p.relay "target_url"
  return [("github_app_id", appId), ("github_private_key", inQuotes key),
     ("github_webhook_secret", secret), ("llm_api_key", inQuotes modelKey.display),
     ("llm_provider", inQuotes provider.display), ("llm_model", inQuotes model.display),
     ("smee_url", address), ("smee_target", target), ("port", port)]

/-- A language of templates.  It reads a template, or refuses it, and fills with
values what it has read. -/
abbrev TemplateLanguage : Type := Text → Except Fault (List (String × Json) → Except Fault Text)

def writeConfiguration (read : TemplateLanguage) (p : Parts) : Dialogue Unit := do
  print "Creating Environment Configuration..."
  match (← get).files.lookup templateFile with
  | none =>
      printBad ("❌ Template file not found: " ++ templateFile)
      exit 1
  | some template =>
      let port ← lift (portIn p.relay)
      let fill ← lift (read template)
      let values ← lift (templateValues p port)
      writeFile configurationFile (← lift (fill values))
      printGood ("✓ Environment configuration created: " ++ configurationFile)
      printGood ("✓ Application will run on port: " ++ String.ofList port.display)

/-! ## The last words -/

def startGuide (port : Text) : Text :=
  textOfLines
    ["",
     "## Startup Instructions",
     "",
     "Your configuration is complete! To start using the application:",
     "",
     "1. Start the SMEE client (in one terminal):",
     "   ```",
     "   poetry run sh agentic_code_review/scripts/smee.sh",
     "   ```",
     "",
     "2. Start the application (in another terminal):",
     "   ```",
     "   poetry run python -m agentic_code_review.github_app",
     "   ```",
     "",
     "3. Create a pull request in your repository and add the label \"agentic-review\" to trigger a review.",
     "   Later, add the label \"agentic-refine\" to apply suggested changes.",
     "",
     "4. To stop the application, press Ctrl+C in both terminals.",
     "",
     "Note: The application runs on http://localhost:"] ++ port ++ textOfLines
    [" by default.",
     ""]

def showStart (relay : Json) : Dialogue Unit := do
  note (.markdown (startGuide (← lift (portIn relay)).display))

end Redline.Setup
