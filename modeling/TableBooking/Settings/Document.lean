import TableBooking.Files.Tree
import TableBooking.Settings.Environment
import TableBooking.Toml.Reader

/-!
Settings files. A file is a TOML document in which placeholders are filled from the environment
before it is read. A section is a table, or an array of its settings in a fixed order; settings that
are not known are passed over.
-/
namespace TableBooking

open Placeholder (Variables)
open Toml (Members Value)

structure SettingsFile where
  settings : Settings := {}
  logLevel : Option String := none
  jsonLogs : Bool := false
  deriving DecidableEq

namespace SettingsFile

abbrev Decoder (α : Type) := Value → Option α

def text : Decoder String
  | .text s => some s
  | _ => none

def truth : Decoder Bool
  | .scalar (.boolean b) => some b
  | _ => none

def large : Decoder UInt64
  | .scalar (.integer n) => if 0 ≤ n ∧ n < UInt64.size then some n.toNat.toUInt64 else none
  | _ => none

/-- The settings of a section under their names, whichever way the section is written. A date has no
settings. -/
def sectionMembers? (names : List String) : Value → Option Members
  | .table _ members => some members
  | .scalar .moment => some []
  | .array _ items => if items.length < names.length then none else some (names.zip items)
  | _ => none

def optional {α : Type} (decoder : Decoder α) (members : Members) (name : String) :
    Option (Option α) :=
  match members.lookup name with
  | none => some none
  | some value => (decoder value).map some

def required {α : Type} (decoder : Decoder α) (members : Members) (name : String) : Option α :=
  (members.lookup name).bind decoder

/-- A section of the document, decoded; `none` inside if it is left out. -/
def section? {α : Type} (document : Members) (name : String) (names : List String)
    (decode : Members → Option α) : Option (Option α) :=
  match document.lookup name with
  | none => some none
  | some value => ((sectionMembers? names value).bind decode).map some

structure Services where
  venue : Option String := none
  table : Option String := none
  database : Option String := none

def services? (members : Members) : Option Services := do
  pure {
    venue := ← optional text members "venue_api_root"
    table := ← optional text members "table_api_root"
    database := ← optional text members "database_url" }

def auth? (members : Members) : Option (String × String) := do
  let domain ← required text members "domain"
  let audience ← required text members "audience"
  pure (domain, audience)

def logging? (members : Members) : Option (Option String × Option Bool) := do
  let level ← optional text members "level"
  let json ← optional truth members "json"
  pure (level, json)

def ofDocument? (document : Members) : Option SettingsFile := do
  let services ← section? document "services" ["venue_api_root", "table_api_root", "database_url"]
    services?
  let origin ← section? document "http" ["cors_origin"] (optional text · "cors_origin")
  let auth ← section? document "auth" ["domain", "audience"] auth?
  let timeout ← section? document "engine" ["call_timeout_ms"] (optional large · "call_timeout_ms")
  let logging ← section? document "logging" ["level", "json"] logging?
  let services := services.getD {}
  pure {
    settings := {
      venueService := services.venue
      tableService := services.table
      database := services.database
      corsOrigin := origin.join
      authDomain := auth.map (·.1)
      authAudience := auth.map (·.2)
      callTimeout := .ofMillis (timeout.join.getD 5000) }
    logLevel := logging.bind (·.1)
    jsonLogs := (logging.bind (·.2)).getD false }

def ofText (environment : Variables) (text : String) : Except SettingsError SettingsFile :=
  let filled := String.ofList (Placeholder.fill environment text.toList)
  match (Toml.read? filled).bind ofDocument? with
  | some file => .ok file
  | none => .error .malformed

def load (environment : Variables) (path : Path) (tree : FileTree) :
    Except SettingsError SettingsFile :=
  match tree.read path with
  | .error e => .error (.file e)
  | .ok bytes =>
    match Json.ofUtf8? bytes with
    | none => .error (.file .notText)
    | some text => ofText environment text

/-- Loading a file looks up no variable but those that its placeholders name. -/
theorem load_congr {v w : Variables} {path : Path} {tree : FileTree}
    (h : ∀ content text, tree.read path = .ok content → Json.ofUtf8? content = some text →
      ∀ name ∈ Placeholder.names text.toList, v name = w name) :
    load v path tree = load w path tree := by
  unfold load
  match read : tree.read path with
  | .error e => rfl
  | .ok content =>
    simp only
    match decoded : Json.ofUtf8? content with
    | none => rfl
    | some text => simp only [ofText, Placeholder.fill_congr _ (h content text read decoded)]

end SettingsFile

end TableBooking
