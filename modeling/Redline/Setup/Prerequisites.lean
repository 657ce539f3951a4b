import Redline.Setup.Terminal
import Redline.Text.Case

/-!
# What has to be installed

The setup finds out on what platform it runs, checks the programs that the
application needs, and offers to install those that are missing.
-/

namespace Redline.Setup

/-! ## Platforms -/

/-- The platforms that are told apart. -/
inductive Platform where
  | macos
  | debian
  | rhel
  | linux
  | windows
  | unknown
deriving DecidableEq, Repr

def Platform.name : Platform → String
  | macos => "macos"
  | debian => "debian"
  | rhel => "rhel"
  | linux => "linux"
  | windows => "windows"
  | unknown => "unknown"

def Platform.ofName (name : String) : Platform :=
  ([macos, debian, rhel, linux, windows].find? fun p => p.name = name).getD unknown

/-- The platform that a value names.  A value that cannot be a key names none. -/
def Platform.ofJson : Json → Except Fault Platform
  | .str name => .ok (ofName name)
  | .arr _ => .error (.notKey "list")
  | .obj _ => .error (.notKey "dict")
  | _ => .ok unknown

/-- The kind of Linux that a release file describes. -/
def Platform.ofRelease (release : Text) : Platform :=
  let t := Text.lower release
  let names := fun (ws : List String) => ws.any fun w => t.contains w.toList
  if names ["ubuntu", "debian"] then debian
  else if names ["fedora", "rhel", "centos"] then rhel
  else linux

def releaseFile : String := "/etc/os-release"

def detectPlatform : Dialogue Platform := do
  let t ← get
  let system ← match t.system with
    | .str s => pure (Text.lower s.toList)
    | v => throw (.fault (.noMember v.sortName "lower"))
  if system == "darwin".toList then return .macos
  else if system == "linux".toList then return ((t.files.lookup releaseFile).map Platform.ofRelease).getD .linux
  else if system == "windows".toList then return .windows
  else return .unknown

/-! ## Checks -/

/-- Whether a list of numbers comes before another in the order of a dictionary. -/
def precedes : List Int → List Int → Bool
  | [], [] => false
  | [], _ :: _ => true
  | _ :: _, [] => false
  | a :: as, b :: bs => if a = b then precedes as bs else a < b

def oldestVersion : List Int := [3, 10]

def versionParts (version : String) : Except Fault (List Int) :=
  (Text.splitOn version.toList ['.']).mapM fun part => readInteger (String.ofList part)

/-- Checks the version of the language runtime. -/
def checkVersion : Dialogue Bool := do
  let version ← match (← get).version with
    | .str s => pure s
    | v => throw (.fault (.noMember v.sortName "split"))
  let parts ← lift (versionParts version)
  if precedes parts oldestVersion then
    printBad ("❌ Python 3.10+ is required. Found version " ++ version)
    return false
  else
    printGood ("✓ Python version " ++ version ++ " detected")
    return true

/-- Checks the package manager.  The setup cannot go on without it. -/
def checkPoetry : Dialogue Bool := do
  if ← isInstalled "poetry" then
    printGood "✓ Poetry is installed"
    return true
  else
    printBad "❌ Poetry is not installed"
    printHint "Please install Poetry before continuing:"
    print "    macOS: brew install poetry"
    print "    Other: https://python-poetry.org/docs/#installation"
    exit 1

/-- Checks the installer of the relay client. -/
def checkNpm : Dialogue Bool := do
  if ← isInstalled "npm" then
    printGood "✓ npm is installed"
    return true
  else
    printHint "⚠️ npm is not installed (required for SMEE client)"
    return false

def checkSmee : Dialogue Bool := do
  if ← isInstalled "smee" then
    printGood "✓ SMEE client is installed"
    return true
  else
    printHint "⚠️ SMEE client is not installed"
    return false

/-! ## Installing -/

/-- How something is installed. -/
structure Recipe where
  name : String
  /-- What it is called by the package manager on macOS. -/
  shortName : String
  title : String
  instructions : Platform → List String
  brew : String
  /-- The commands of the package manager on Debian. -/
  apt : List String

def runtimeRecipe : Recipe where
  name := "Python 3.10+"
  shortName := "Python"
  title := "Python 3.10+ Installation"
  instructions
    | .macos =>
        ["Option 1: Using Homebrew (recommended):", "  brew install python@3.10", "",
         "Option 2: Download from python.org:",
         "  Visit https://www.python.org/downloads/ and download Python 3.10+"]
    | .debian =>
        ["Using apt (for Ubuntu/Debian):", "  sudo apt update",
         "  sudo apt install software-properties-common", "  sudo add-apt-repository ppa:deadsnakes/ppa",
         "  sudo apt update", "  sudo apt install python3.10 python3.10-venv python3.10-dev"]
    | .rhel =>
        ["For Fedora:", "  sudo dnf install python3.10", "", "For RHEL/CentOS:",
         "  sudo yum install python3.10"]
    | .windows =>
        ["Download from python.org:", "  Visit https://www.python.org/downloads/ and download Python 3.10+",
         "  Make sure to check 'Add Python to PATH' during installation"]
    | _ => ["Visit https://www.python.org/downloads/ and download Python 3.10+"]
  brew := "brew install python@3.10"
  apt :=
    ["sudo apt update", "sudo apt install -y software-properties-common",
     "sudo add-apt-repository -y ppa:deadsnakes/ppa", "sudo apt update",
     "sudo apt install -y python3.10 python3.10-venv python3.10-dev"]

/-- The recipe for the runtime of the relay client. -/
def nodeRecipe : Recipe where
  name := "Node.js"
  shortName := "Node.js"
  title := "Node.js Installation"
  instructions
    | .macos =>
        ["Option 1: Using Homebrew (recommended):", "  brew install node", "",
         "Option 2: Download from nodejs.org:",
         "  Visit https://nodejs.org/en/download/ and download the macOS installer"]
    | .debian =>
        ["Using apt (for Ubuntu/Debian):",
         "  curl -fsSL https://deb.nodesource.com/setup_18.x | sudo -E bash -",
         "  sudo apt install -y nodejs"]
    | .rhel =>
        ["For Fedora:", "  sudo dnf install nodejs", "", "For RHEL/CentOS:",
         "  curl -fsSL https://rpm.nodesource.com/setup_18.x | sudo bash -",
         "  sudo yum install -y nodejs"]
    | .windows =>
        ["Download from nodejs.org:",
         "  Visit https://nodejs.org/en/download/ and download the Windows installer"]
    | _ => ["Visit https://nodejs.org/en/download/ for instructions"]
  brew := "brew install node"
  apt := ["curl -fsSL https://deb.nodesource.com/setup_18.x | sudo -E bash -", "sudo apt install -y nodejs"]

/-- Offers to install something with a package manager, and tells whether it is
installed. -/
def offer (r : Recipe) (manager working failed : String) (commands : List String) : Dialogue Bool := do
  if ← confirm ("Would you like the script to attempt to install " ++ r.name ++ " using " ++ manager ++ "?")
      true then
    note (.status working)
    if ← runCommands commands then
      printGood ("✓ " ++ r.name ++ " installed successfully")
      return true
    else
      printBad failed
      return false
  else return false

/-- Installs something as far as that is possible, and tells whether it is
installed. -/
def install (r : Recipe) (platform : Json) : Dialogue Bool := do
  let p ← lift (Platform.ofJson platform)
  panel (r.instructions p) r.title
  match p with
  | .macos =>
      if ← isInstalled "brew" then
        offer r "Homebrew" ("Installing " ++ r.shortName ++ " using Homebrew...")
          ("❌ Failed to install " ++ r.shortName ++ " using Homebrew") [r.brew]
      else return false
  | .debian =>
      offer r "apt" ("Installing " ++ r.name ++ " using apt (this may require sudo)...")
        ("❌ Failed to install " ++ r.name) r.apt
  | _ => return false

def byHand (r : Recipe) : Dialogue Unit :=
  printHint ("Please install " ++ r.name ++ " manually and then re-run this script.")

/-- Installs the language runtime.  The setup cannot go on without it. -/
def installRuntime (platform : Json) : Dialogue Unit := do
  if !(← install runtimeRecipe platform) then
    byHand runtimeRecipe
    exit 1

/-- Installs the runtime of the relay client. -/
def installNode (platform : Json) : Dialogue Unit := do
  if !(← install nodeRecipe platform) then byHand nodeRecipe

def installSmee : Dialogue Unit := do
  note (.status "Installing SMEE client globally...")
  if ← runCommand "npm install --global smee-client" then
    printGood "✓ SMEE client installed successfully"
  else
    printBad "❌ Failed to install SMEE client. You'll need to install it manually."
    print "   Run: npm install --global smee-client"

/-- Installs the packages that the application needs. -/
def installPackages : Dialogue Unit := do
  note (.status "Verifying Python dependencies with Poetry...")
  if ← runCommand "poetry install" then printGood "✓ Dependencies verified successfully"
  else
    printBad "❌ Failed to verify dependencies with Poetry."
    exit 1

/-- Installs the runtime of the relay client if it is missing and wanted. -/
def offerNode (platform : Json) : Dialogue Unit := do
  if !(← checkNpm) then
    if ← confirm "Would you like to install Node.js and npm?" true then installNode platform

/-- Installs the relay client if it is missing, can be installed and is wanted. -/
def offerSmee : Dialogue Unit := do
  if ← checkNpm then
    if !(← checkSmee) then
      if ← confirm "Would you like to install SMEE client globally?" true then installSmee

def installPrerequisites (platform : Json) : Dialogue Unit := do
  if !(← checkVersion) then installRuntime platform
  discard checkPoetry
  offerNode platform
  offerSmee
  installPackages

end Redline.Setup
