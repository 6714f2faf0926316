import BracketQuery.CommandLine.Configuration
import BracketQuery.CommandLine.Display
import BracketQuery.CommandLine.Path
import BracketQuery.Error
import BracketQuery.Json.Reader
import BracketQuery.Normalization.Walk
import BracketQuery.Wire.Url

/-!
The commands: compile an intent, normalize filters, and write a configuration file.
-/

namespace BracketQuery.CommandLine

variable {m : Type → Type} [Monad m]

/-! ## Configuration -/

/-- The wording of an error in the configuration file at a path. -/
def ConfigurationError.message (path : String) : ConfigurationError → String
  | malformed line column =>
    "Failed to parse " ++ path ++ ": TOML parse error at line " ++ toString line ++ ", column " ++
      toString column
  | unusable defect => (IntentError.config defect).message

/-- The part of the program that reads configurations, as log records name it. -/
def configurationTarget : String := "intentql::context"

/-- The configuration in a file. -/
def readConfiguration (host : Host m) (console : Console) (path : String) :
    Session m Configuration := do
  let content ← askFor ("Failed to read " ++ path) (host.read path)
  match Configuration.parse content with
  | .error error => throw (error.message path)
  | .ok configuration =>
    console.log .debug configurationTarget ("loaded configuration from " ++ path)
    pure configuration

/-- The first of several directories that has a configuration file, by the path of that file. -/
def findConfiguration (host : Host m) : List String → m (Option String)
  | [] => pure none
  | directory :: rest => do
    let path := Path.join directory configurationName
    if ← host.isFile path then pure (some path) else findConfiguration host rest

/-- The configuration of a command: that of the file that is named, else of the nearest one above
the current directory, else the usual one. -/
def loadConfiguration (host : Host m) (console : Console) (named : Option String) :
    Session m Configuration := do
  let current ← ask host.currentDirectory
  let path? ← match named with
    | some path => pure (some path)
    | none => ask (findConfiguration host (Path.ancestors current))
  match path? with
  | some path =>
    let configuration ← readConfiguration host console path
    console.detail ("configuration: " ++ path)
    pure configuration
  | none =>
    console.log .debug configurationTarget
      ("no " ++ configurationName ++ " found above " ++ current ++ ", using defaults")
    console.detail "configuration: built-in defaults"
    pure .standard

/-! ## Documents -/

/-- The document in a file, or in the standard input if no file or a hyphen is named. -/
def readDocument (host : Host m) (file : Option String) : Session m Json := do
  let named := file.filter fun path => Path.names path ≠ ["-"]
  let content ← match named with
    | none => askFor "Failed to read intent from stdin" host.readInput
    | some path => askFor ("Failed to read " ++ path) (host.read path)
  match Json.parse content with
  | .ok document => pure document
  | .error refusal =>
    throw ("Failed to parse JSON from " ++ file.getD "stdin" ++ ": " ++ refusal.message)

/-- A decoded value; what has been left out is logged. -/
def logOmissions {α : Type} (console : Console) (decoded : Decoded α) : Session m α := do
  decoded.events.forM fun omission => console.log .debug "intentql::decode" omission.message
  pure decoded.value

/-- Log what normalization did. -/
def logChanges (console : Console) (report : Normalization.Report) : Session m Unit :=
  (report.changes.filterMap Normalization.Change.message?).forM fun message =>
    console.log .debug "intentql::filters::normalizers" message

/-- The wording of an error as the reason why a command fails. That of a URL is followed by its
cause. -/
def failureOf : IntentError → String
  | .url error => (IntentError.url error).message ++ ": " ++ error.message
  | error => error.message

/-! ## Commands -/

/-- Normalize an intent as a configuration says, and report on it. -/
def normalizeIntent (console : Console) (configuration : Configuration) (intent : Intent) :
    Session m (Intent × Normalization.Outcome) := do
  let (intent, report) := intent.normalize configuration.normalization
  logChanges console report
  report.droppedValues.forM fun (path, value) =>
    console.detail ("dropped " ++ value ++ " at " ++ path.text)
  if report.outcome = .matchesNothing then
    console.warning
      "A type filter lost every value; the backend would ignore it and return unfiltered rows."
  console.outcome report.outcome
  pure (intent, report.outcome)

/-- Compile the intent in a document to a query. -/
def compile (host : Host m) (console : Console) (configuration : Configuration)
    (file : Option String) (normalize : Bool) (baseUrl : Option String) : Session m Unit := do
  let document ← readDocument host file
  let intent ← match Intent.decode document with
    | .ok decoded => logOmissions console decoded
    | .error error => throw (failureOf error)
  let (intent, outcome) ←
    if normalize || configuration.normalize then do
      let (intent, outcome) ← normalizeIntent console configuration intent
      pure (intent, some outcome)
    else pure (intent, none)
  let params := intent.lower
  console.log .trace "intentql::compiler" params.summary
  let url ← match baseUrl.or configuration.baseUrl with
    | none => pure none
    | some base =>
      match params.url base with
      | .ok url => pure (some url)
      | .error error => throw (failureOf (.url error))
  console.detail ("compiled " ++ toString params.length ++ " parameters")
  console.display (CompiledQuery.display ⟨params, url, outcome⟩)

/-- The filters in a document: its member of that name if that is an object, else all of it. -/
def filtersOf (document : Json) : Except IntentError (Decoded FilterNode) :=
  match document with
  | .object members =>
    let source := match Json.find? "filters" members with
      | some (.object filters) => .object filters
      | _ => document
    .ok ((fun node => node.getD []) <$> FilterNode.ofJson? source)
  | _ => .error (.invalidShape "expected a JSON object of filters")

/-- Normalize the filters in a document. -/
def normalize (host : Host m) (console : Console) (configuration : Configuration)
    (file : Option String) : Session m Unit := do
  let document ← readDocument host file
  let filters ← match filtersOf document with
    | .ok decoded => logOmissions console decoded
    | .error error => throw (failureOf error)
  let (filters, report) := filters.normalize configuration.normalization
  logChanges console report
  console.outcome report.outcome
  if report.outcome = .matchesNothing then
    report.emptiedFields.forM fun path =>
      console.warning (path.text ++ " no longer matches any known type code")
  console.display (NormalizedFilters.display ⟨filters, report⟩)

/-- Write a configuration file with the usual settings. -/
def init (host : Host m) (console : Console) (path : String) (force : Bool) : Session m Unit := do
  if !force && (← ask (host.isThere path)) then
    console.warning (path ++ " already exists.")
    console.info "Use --force to overwrite it."
    throw ("Refusing to overwrite " ++ path)
  let parent := Path.parent path
  if parent ≠ "" then askFor ("Failed to create " ++ parent) (host.makeDirectory parent)
  askFor ("Failed to write " ++ path) (host.write path Configuration.standardText)
  console.success ("Wrote " ++ path)
  console.keyValue "Type field" Normalization.Options.standard.typeField
  console.keyValue "Date expansion"
    (if Normalization.Options.standard.expandDates then "on" else "off")
  console.hint "Edit [normalizer].type_codes to match your backend's enumerations"
  console.hint "Set [compiler].base_url to print full request URLs"

/-- Carry out a command line. -/
def Invocation.run (invocation : Invocation) (host : Host m) (console : Console) : Session m Unit :=
  do
  match invocation.task with
  | .init path force => init host console path force
  | .compile file normalizes baseUrl =>
    let configuration ← loadConfiguration host console invocation.configuration
    compile host console configuration file normalizes baseUrl
  | .normalize file =>
    let configuration ← loadConfiguration host console invocation.configuration
    normalize host console configuration file

end BracketQuery.CommandLine
