import TableBooking.CommandLine.Arguments
import TableBooking.Engine.Requests
import TableBooking.Settings.Document
import TableBooking.Store.File
import TableBooking.TableService

/-!
One invocation of the program. From the command line, the settings and the files comes either a
report at once or a job, which is a dialogue of the engine with the table directory and the booking
store; the end of the dialogue is reported. An invocation is a function of what surrounds it.
-/
namespace TableBooking

/-- What surrounds an invocation, beside the files. -/
structure Surroundings where
  environment : Placeholder.Variables
  input : Json.Bytes
  today : Date

structure Outcome where
  exitCode : Nat
  output : String := ""
  errors : String := ""
  deriving DecidableEq

inductive TableSource where
  | service (service : TableService)
  | map (tables : TableMap)

/-- What is left to do once everything is read that does not need a collaborator. The dialogue ends
in the text to be printed. -/
structure Job where
  timeout : Duration
  tables : TableSource
  bookings : Path
  dialogue : Dialogue String

def BookingError.exitCode : BookingError → Nat
  | .invalidRequest _ => 2
  | .noAvailableSlots _ _ => 3
  | .conflict _ _ => 4
  | .notFound _ => 5
  | .unavailable _ _ => 6

namespace Program

open CommandLine (UsageFault)

def usage : String :=
  String.intercalate "\n" [
    "Match, commit and cancel restaurant table bookings",
    "",
    "Usage: booking-core [OPTIONS] <COMMAND>",
    "",
    "Commands:",
    "  match   Propose a table for an enquiry without booking it",
    "  book    Propose a table and commit it straight away",
    "  commit  Commit a proposal previously printed by `match`",
    "  cancel  Cancel a booking by id",
    "  list    List a venue's bookings on a date",
    "  help    Print this message",
    "",
    "Options:",
    "  -c, --config <CONFIG>          Path to a TOML configuration file",
    "      --data-dir <DATA_DIR>      Directory holding tables.json and bookings.json",
    "      --timeout-ms <TIMEOUT_MS>  Timeout of each call, in milliseconds",
    "  -v, --verbose                  Enable verbose output",
    "      --json-logs                Emit logs as JSON",
    "  -h, --help                     Print help",
    ""]

def faultText : UsageFault → String
  | .unknownArgument => "unexpected argument"
  | .unknownCommand => "unrecognized subcommand"
  | .missingValue => "a value is required"
  | .invalidValue => "invalid value"
  | .repeated => "an argument cannot be used multiple times"
  | .unexpectedValue => "unexpected value"
  | .missingArgument => "a required argument was not provided"
  | .missingCommand => "a subcommand is required"
  | .nothingGiven => "no arguments given"
  | .helpRequested => "help"

def misused (fault : UsageFault) : Outcome :=
  if fault = .helpRequested then { exitCode := 0, output := usage }
  else { exitCode := 2, errors := s!"error: {faultText fault}\n\n{usage}" }

def failed (context cause : String) : Outcome :=
  { exitCode := 1, errors := s!"Error: {context}\n\nCaused by:\n    {cause}\n" }

/-- The outcome of a dialogue: the text to be printed, or the error and what to do about it. -/
def report : Except BookingError String → Outcome
  | .ok text => { exitCode := 0, output := text }
  | .error e =>
    { exitCode := e.exitCode, errors := s!"❌ {e.message}\n💡 {e.suggestion}\n" }

/-- The settings, from the settings file if one is named and else from the environment. -/
def settings (arguments : Arguments) (environment : Placeholder.Variables) (tree : FileTree) :
    Except Outcome Settings :=
  match arguments.config with
  | some path =>
    match SettingsFile.load environment path tree with
    | .ok file => .ok file.settings
    | .error e => .error (failed s!"failed to load config file '{path}'" e.message)
  | none =>
    match Settings.ofEnvironment environment with
    | .ok settings => .ok settings
    | .error e => .error (failed "failed to read configuration from environment" e.message)

def variableNames (arguments : Arguments) (tree : FileTree) : List String :=
  match arguments.config with
  | none => Settings.variableNames
  | some path =>
    match tree.read path with
    | .error _ => []
    | .ok content => ((Json.ofUtf8? content).map fun s => Placeholder.names s.toList).getD []

theorem settings_congr {v w : Placeholder.Variables} {arguments : Arguments} {tree : FileTree}
    (h : ∀ name ∈ variableNames arguments tree, v name = w name) :
    settings arguments v tree = settings arguments w tree := by
  unfold variableNames at h
  unfold settings
  match config : arguments.config with
  | none =>
    rw [config] at h
    simp only [Settings.ofEnvironment_congr h]
  | some path =>
    rw [config] at h
    have same : SettingsFile.load v path tree = SettingsFile.load w path tree := by
      apply SettingsFile.load_congr
      intro content text read decoded name named
      apply h
      simp only [read, decoded, Option.map_some, Option.getD_some]
      exact named
    simp only [same]

def effective (arguments : Arguments) (settings : Settings) : Settings :=
  match arguments.timeoutMs with
  | some ms => { settings with callTimeout := .ofMillis ms }
  | none => settings

def checkedSettings (arguments : Arguments) (environment : Placeholder.Variables)
    (tree : FileTree) : Except Outcome Settings := do
  let settings := effective arguments (← settings arguments environment tree)
  match settings.check with
  | .ok () => pure settings
  | .error e => throw { exitCode := 1, errors := s!"❌ {e.message}\n" }

def tableMap (content : Json.Bytes) : Except String TableMap :=
  (Json.decode (Json.mapOf (Json.listOf Wire.table)) content).map fun entries =>
    .ofEntries (entries.map fun (venue, tables) => (⟨venue⟩, tables))

/-- The table service if the settings name one, else the tables in the data directory. -/
def tableSource (settings : Settings) (dataDirectory : Path) (tree : FileTree) :
    Except Outcome TableSource :=
  match settings.tableService with
  | some root => .ok (.service (.ofRoot root))
  | none =>
    let path := dataDirectory.join "tables.json"
    match tree.read path with
    | .error e => .error (failed s!"failed to read '{path}'" e.message)
    | .ok content =>
      match tableMap content with
      | .ok map => .ok (.map map)
      | .error reason => .error (failed s!"'{path}' is not a venue-to-tables map" reason)

def proposalText (source : String) (input : Json.Bytes) (tree : FileTree) : Except Outcome String :=
  if source = "-" then
    match Json.ofUtf8? input with
    | some text => .ok text
    | none => .error (failed "failed to read proposal from stdin" FileError.notText.message)
  else
    let context := s!"failed to read proposal '{source}'"
    match tree.read ⟨source⟩ with
    | .error e => .error (failed context e.message)
    | .ok content =>
      match Json.ofUtf8? content with
      | some text => .ok text
      | none => .error (failed context FileError.notText.message)

def printed (value : Json.Value) : String :=
  value.write .pretty ++ "\n"

def enquiring {α : Type} (arguments : EnquiryArguments) (request : Enquiry → Dialogue α) :
    Dialogue α :=
  match arguments.enquiry with
  | .ok enquiry => request enquiry
  | .error rule => .refused (.invalidRequest rule)

def dialogue (command : Command) (timeout : Duration) (surroundings : Surroundings)
    (tree : FileTree) : Except Outcome (Dialogue String) :=
  let today := surroundings.today
  match command with
  | .propose arguments =>
    .ok (enquiring arguments fun enquiry => do
      let proposal ← Engine.matchSlot timeout today enquiry
      pure (printed proposal.toValue))
  | .book arguments =>
    .ok (enquiring arguments fun enquiry => do
      let booking ← Engine.book timeout today enquiry
      pure (printed booking.toValue))
  | .commit source => do
    let text ← proposalText source surroundings.input tree
    pure (do
      let booking ← Engine.commitText timeout today text
      pure (printed booking.toValue))
  | .cancel id =>
    .ok (do
      Engine.cancel timeout id
      pure s!"✅ Booking {id} cancelled\n")
  | .list venue date =>
    .ok (do
      let bookings ← Engine.bookingsOn timeout venue date
      pure (printed (.list (bookings.map Booking.toValue))))

/-- The files that are read before a collaborator is asked. -/
def sources (arguments : Arguments) : List Path :=
  let proposal : List Path :=
    match arguments.command with
    | .commit source => if source = "-" then [] else [⟨source⟩]
    | _ => []
  arguments.config.toList ++ arguments.dataDirectory.join "tables.json" :: proposal

def readsInput (arguments : Arguments) : Bool :=
  arguments.command = .commit "-"

/-- Reads everything that an invocation needs before it asks a collaborator. -/
def prepare (words : List String) (surroundings : Surroundings) (tree : FileTree) :
    Except Outcome Job := do
  let arguments ← (Arguments.ofWords words).mapError misused
  let settings ← checkedSettings arguments surroundings.environment tree
  let tables ← tableSource settings arguments.dataDirectory tree
  let dialogue ← dialogue arguments.command settings.callTimeout surroundings tree
  pure {
    timeout := settings.callTimeout
    tables
    bookings := arguments.dataDirectory.join "bookings.json"
    dialogue }

/-- The URL that a call to the directory of a job requests, if it is a service. -/
def requested? (tables : TableSource) (call : Call) : Option Url :=
  match tables, call with
  | .service service, .listTables venue leastCapacity =>
    (TableService.request (service.listAddress venue leastCapacity)).toOption
  | .service service, .getTable venue table =>
    (TableService.request (service.tableAddress venue table)).toOption
  | _, _ => none

def directory (tables : TableSource) (fetch : TableService.Fetch) : Directory :=
  match tables with
  | .service service => service.directory fetch
  | .map map => map.directory

def carryOut (job : Job) (fetch : TableService.Fetch) (tree : FileTree) : Outcome × FileTree :=
  let serve := serving (directory job.tables fetch) (FileStore.store job.bookings)
  let (result, after) := job.dialogue.run serve tree
  (report result, after)

/-- One invocation: its outcome, and the files afterwards. -/
def run (words : List String) (surroundings : Surroundings) (fetch : TableService.Fetch)
    (tree : FileTree) : Outcome × FileTree :=
  match prepare words surroundings tree with
  | .error outcome => (outcome, tree)
  | .ok job => carryOut job fetch tree

end Program

end TableBooking
