import Redline.Http.Delivery
import Redline.Service.Launch
import Redline.Setup.Guide
import Redline.Form.Meaning
import Redline.Setup.Arguments
import Redline.Json.Writer

/-!
# The command line

Without arguments the service is started.  It takes HTTP requests from standard
input, one JSON record a line, and writes the answers to standard output.  It
has no connection to a hosting site, so every request to one meets an outage.

With `setup` the person is guided through the setup.  The answers are read from
standard input, one a line, and an empty line is no answer.  Programs cannot be
started from here, so every command counts as failed.
-/

namespace Redline.Main

/-! ## The service -/

/-- The variables of the environment that the settings look at. -/
def environment : IO (List (String × String)) := do
  let names := (Service.Settings.known.filter (·.2.isNone)).map (·.1)
  let values ← names.mapM fun name => do return (← IO.getEnv name).map fun v => (name, v)
  return values.filterMap id

def requestOf (v : Json) : Http.Request :=
  let text := fun name (default : String) => ((v.getD name).str?).getD default
  { method := text "method" "POST"
    target := text "path" "/api/webhook"
    headers := (v.getD "headers").fields.map fun (name, x) => (name, x.str?.getD "")
    contentType := some (text "content_type" "application/json")
    body := text "body" "" }

def responseRecord (r : Http.Response) : Json :=
  .obj [("status", .int r.status), ("body", r.body.getD .null)]

/-- A world without connections. -/
def offline : World where
  forge := { outage := fun _ _ => some "no connection" }
  reviewer := .constant (.error (.outage "no connection"))
  refiner := .constant (.error (.outage "no connection"))
  parsers := .sound
  formatter := Formatter.absent

def answerLine (secret : Option String) (line : String) : Json :=
  match Json.parse? line.toList with
  | none => responseRecord ⟨400, none⟩
  | some v =>
      match Http.exchange secret (requestOf v) offline with
      | .ok r _ => responseRecord r
      | .error e _ => responseRecord (Webhook.rejected e)

/-- Answers the lines of the input until it ends. -/
partial def serveLines (secret : Option String) (input output : IO.FS.Stream) : IO Unit := do
  let line ← input.getLine
  if line.isEmpty then return
  output.putStrLn (answerLine secret line).compact
  output.flush
  serveLines secret input output

def serve : IO UInt32 := do
  let settings := Service.Settings.load (← environment) []
  let launch := Service.launch settings .returns
  for line in launch.info ++ launch.errors do
    IO.eprintln line
  match launch.exit with
  | some code => return UInt32.ofNat code
  | none =>
      serveLines (settings.get "GITHUB_WEBHOOK_SECRET").str? (← IO.getStdin) (← IO.getStdout)
      return 0

/-! ## The setup -/

/-- Templates are forms. -/
def templates : Setup.TemplateLanguage := fun t => Form.render <$> Form.ofText t

/-- The lines of the input. -/
partial def inputLines (input : IO.FS.Stream) : IO (List String) := do
  let line ← input.getLine
  if line.isEmpty then return []
  return String.ofList (Text.trimRight line.toList (· == '\n')) :: (← inputLines input)

def answerOf (line : String) : Json :=
  match line with
  | "" => .null
  | "y" => .bool true
  | "n" => .bool false
  | _ => .str line

/-- The text of a file, if it can be read. -/
def readText (name : String) : IO (Option Text) := do
  try return some (← IO.FS.readFile name).toList
  catch _ => return none

def readTexts (names : List String) : IO (List (String × Text)) := do
  let texts ← names.mapM fun name => do return (← readText name).map fun t => (name, t)
  return texts.filterMap id

/-- Whether a program is found on the search path. -/
def onPath (program : String) : IO Bool := do
  let directories := Text.splitOn ((← IO.getEnv "PATH").getD "").toList [':']
  directories.anyM fun d => do
    try
      discard (IO.FS.Handle.mk (String.ofList d ++ "/" ++ program) .read)
      return true
    catch _ => return false

def eventText : Setup.Event → String
  | .question _ text _ _ => text
  | .secret => ""
  | .print text => text
  | .panel text title => title ++ "\n" ++ text
  | .markdown text => String.ofList text
  | .status text => text
  | .run command => "$ " ++ command
  | .get address => address

def setup : IO UInt32 := do
  let lines ← inputLines (← IO.getStdin)
  let files ← readTexts (Setup.templateFile :: Setup.releaseFile :: lines.map Setup.expandHome)
  let programs ← ["poetry", "npm", "smee", "brew"].filterM onPath
  let seed ← IO.rand 0 1000003
  let terminal : Setup.Terminal :=
    { answers := lines.map answerOf, files := files, programs := programs, fails := fun _ => true,
      version := .str "3.10", choose := fun k n => (seed * (k + 1) + k * k) % n }
  let (code, after) := match Setup.guide templates terminal with
    | .ok _ t => (0, t)
    | .error (.exit code) t => (code, t)
    | .error (.fault e) t => (1, { t with log := t.log ++ [Setup.Event.print e.message] })
  for event in after.log do
    IO.println (eventText event)
  if let some text := after.files.lookup Setup.configurationFile then
    IO.FS.writeFile Setup.configurationFile (String.ofList text)
  return UInt32.ofNat code

end Redline.Main

/-- Starts the service, or the setup if that is asked for. -/
def main (arguments : List String) : IO UInt32 := do
  match arguments with
  | "setup" :: rest =>
      match Redline.Setup.checkArguments rest with
      | some e =>
          IO.eprint e.usage
          return UInt32.ofNat Redline.Setup.usageCode
      | none => Redline.Main.setup
  | _ => Redline.Main.serve
