import Redline.Setup.Prerequisites
import Redline.Setup.Configuration

/-!
# The whole setup

The steps of the setup in order: what has to be installed, the relay, the app
and its installation, the language model, and the configuration file.
-/

namespace Redline.Setup

def showBanner : Dialogue Unit :=
  panel
    ["Agentic Code Review & Refinement", "Interactive Setup Script", "",
     "This script will guide you through setting up your local environment for the Agentic Code Review and Refinement application."]
    "Welcome"

def heading (text : String) : Dialogue Unit := print ("\n[bold cyan]" ++ text ++ "[/bold cyan]")

def guide (read : TemplateLanguage) : Dialogue Unit := do
  showBanner
  heading "Checking System Requirements"
  let platform ← detectPlatform
  print ("Detected platform: [bold]" ++ platform.name ++ "[/bold]")
  installPrerequisites (.str platform.name)
  heading "SMEE Webhook Forwarding Setup"
  let relay ← askRelay
  heading "GitHub App Setup"
  let app ← askApp relay.address
  heading "GitHub App Installation"
  installApp
  heading "LLM Provider Setup"
  let model ← askModel
  heading "Configuration"
  writeConfiguration read ⟨app.toJson, relay.toJson, model.toJson⟩
  heading "Setup Complete!"
  showStart relay.toJson

end Redline.Setup
