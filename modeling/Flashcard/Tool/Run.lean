import Flashcard.Storage.Decoding
import Flashcard.Tool.Environment
import Flashcard.Tool.Options
import Flashcard.Tool.Output

/-!
# Runs of the tool

`renderCards` reads a template, settings and a note and renders the cards they ask for. `execute` is
a whole run, from the arguments to the report. Nothing is written before all cards are rendered.
-/

namespace Flashcard.Tool

variable {m : Type → Type} [Monad m]

/-- Reads a file that holds a JSON text. -/
def readStored {α : Type} (host : Host m) (decoder : Json.Decoder α) (path : String) :
    ExceptT RunError m α := do
  let some text := (← host.read path).bind String.fromUTF8? | throw (.unreadable path)
  match Json.decodeText decoder text with
  | .ok a => return a
  | .error fault => throw (.unparsable path fault)

/-- The settings with the changes in a file, if there is one. -/
def readSettings (host : Host m) : Option String → ExceptT RunError m Settings
  | some path => do return Settings.patch {} (← readStored host SettingsPatch.decode path)
  | none => return {}

/-- Renders the cards of a note, or of the design if no note is given. -/
def renderCards (host : Host m) (options : Options) : ExceptT RunError m (List RenderedCard) := do
  let template ← readStored host Template.decode options.template
  let settings ← readSettings host options.settings
  let r := Renderer.withBuiltIns visibleText settings
  match options.note with
  | some path =>
    let fields ← readStored host FieldValues.decode path
    ExceptT.mk (pure (renderNote r template.design fields))
  | none => ExceptT.mk (pure (renderPreview r template.design))

/-- Renders cards and writes them to files, or shows them on lines if no directory is given. -/
def render (host : Host m) (options : Options) : ExceptT RunError m (List String) := do
  let cards ← renderCards host options
  match options.out with
  | some dir => do
    writeCards host dir cards
    return []
  | none => return summarize cards

/-- How a run ended. -/
inductive Report where
  | success (lines : List String)
  | failure (error : RunError)
  | misuse (error : UsageError)

def Report.exitCode : Report → UInt32
  | .success _ => 0
  | .failure _ => 1
  | .misuse _ => 2

def usage : List String :=
  ["Render card templates to HTML",
    "",
    "Usage: card-preview [OPTIONS] --template <TEMPLATE>",
    "",
    "Options:",
    "      --template <TEMPLATE>  Template JSON file",
    "      --note <NOTE>          Note field values: a JSON array of [name, value] pairs",
    "      --settings <SETTINGS>  Render settings overrides (JSON)",
    "      --out <OUT>            Directory to write the sides of the cards into",
    "  -h, --help                 Print help",
    "  -V, --version              Print version"]

def versionLine : String := "card-preview 0.1.0"

/-- The variables that can matter to a run, after the environment file has had its say. -/
def readEnvironment (host : Host m) : m Environment := do
  let assignments := ((← host.read ".env").map Environment.read).getD []
  let names := [OptionName.settings, .out].filterMap OptionName.variableName? ++
    assignments.flatMap Assignment.names
  let known ← names.eraseDups.mapM fun name => do return (← host.lookup name).map ((name, ·))
  return assignments.foldl Environment.assign (known.filterMap id)

/-- Runs the tool. -/
def execute (host : Host m) (arguments : List String) : m Report := do
  let env ← readEnvironment host
  match Invocation.parse env arguments with
  | .error e => return .misuse e
  | .ok .help => return .success usage
  | .ok .version => return .success [versionLine]
  | .ok (.render options) =>
    match ← (render host options).run with
    | .ok lines => return .success lines
    | .error e => return .failure e

end Flashcard.Tool
