import TableBooking.Duration
import TableBooking.Failure
import TableBooking.Text.Blank
import TableBooking.Url

/-!
Settings of the program: where the services are, whom to trust, and how long a call may take. Main
statement: settings are accepted exactly when every address has a scheme of its kind, the two halves
of the token settings come together, and the timeout, as 64 bits count its milliseconds, is in its
range.
-/
namespace TableBooking

inductive SettingsError where
  | file (cause : FileError)
  /-- The text of a settings file is no document, or a setting in it has the wrong type. What the
  parser says of the fault is left out; nothing depends on it but what a person is told. -/
  | malformed
  | missing (field : String)
  | invalid (field value reason : String)
  deriving DecidableEq

/-- What is told of an error. Of a malformed file it is only the beginning, which the account of the
parser would follow. -/
def SettingsError.message : SettingsError → String
  | .file cause => s!"IO error: {cause.message}"
  | .malformed => "TOML parsing error"
  | .missing field => s!"Missing required configuration: {field}"
  | .invalid field value reason => s!"Invalid value '{value}' for {field}: {reason}"

structure Settings where
  venueService : Option String := none
  tableService : Option String := none
  database : Option String := none
  /-- The origin that browsers may call from; `*` stands for any. -/
  corsOrigin : Option String := none
  authDomain : Option String := none
  authAudience : Option String := none
  callTimeout : Duration := .ofMillis 5000
  deriving DecidableEq

namespace Settings

def checkScheme (schemes : List String) (kind field value : String) : Except SettingsError Unit :=
  match Url.ofText value with
  | .ok url =>
    if schemes.contains url.scheme then .ok ()
    else .error (.invalid field value s!"Unsupported {kind} scheme: {url.scheme}")
  | .error e => .error (.invalid field value s!"Invalid URL format: {e.message}")

def checkUrl (field value : String) : Except SettingsError Unit :=
  if value.isEmpty then .error (.invalid field value "URL cannot be empty")
  else checkScheme ["http", "https"] "URL" field value

def checkDatabaseUrl (field value : String) : Except SettingsError Unit :=
  checkScheme ["postgres", "postgresql"] "database" field value

def checkNotBlank (field value : String) : Except SettingsError Unit :=
  if Text.allBlank value then
    .error (.invalid field value "Value cannot be empty or whitespace-only")
  else .ok ()

def checkRange (field : String) (value least greatest : Int) : Except SettingsError Unit :=
  if value < least ∨ greatest < value then
    .error (.invalid field (toString value) s!"Value must be between {least} and {greatest}")
  else .ok ()

def checkOrigin (field value : String) : Except SettingsError Unit :=
  if value = "*" then .ok () else checkUrl field value

def checkPresent (check : String → String → Except SettingsError Unit) (field : String) :
    Option String → Except SettingsError Unit
  | some value => check field value
  | none => .ok ()

/-- Tokens are checked with both their domain and their audience or not at all. -/
def checkAuth : Option String → Option String → Except SettingsError Unit
  | some domain, some audience => do
    checkNotBlank "auth_domain" domain
    checkNotBlank "auth_audience" audience
  | none, none => .ok ()
  | some _, none => .error (.missing "auth_audience")
  | none, some _ => .error (.missing "auth_domain")

/-- The whole milliseconds of a timeout as an unsigned integer of 64 bits. -/
def timeoutMillis (settings : Settings) : Nat :=
  settings.callTimeout.wholeMillis % UInt64.size

/-- Checks the settings in a fixed order, so that the first one that is wrong is reported. -/
def check (settings : Settings) : Except SettingsError Unit := do
  checkPresent checkUrl "venue_api_root" settings.venueService
  checkPresent checkUrl "table_api_root" settings.tableService
  checkPresent checkDatabaseUrl "database_url" settings.database
  checkPresent checkOrigin "cors_origin" settings.corsOrigin
  checkAuth settings.authDomain settings.authAudience
  checkRange "call_timeout_ms" settings.timeoutMillis 1 60000

end Settings

end TableBooking
