import TableBooking.Decimal.Natural
import TableBooking.Settings.Basic
import TableBooking.Settings.Placeholder

/-!
Settings from environment variables. A variable that is blank counts as not set.
-/
namespace TableBooking

open Placeholder (Variables)

/-- The value of a variable, if it is set and not blank. -/
def Placeholder.Variables.visible? (environment : Variables) (name : String) : Option String :=
  (environment name).filter fun value => !Text.allBlank value

namespace Settings

def timeoutOf (field value : String) : Except SettingsError Duration :=
  match Decimal.readNatural UInt64.size value with
  | .ok ms => .ok (.ofMillis ms.toUInt64)
  | .error fault => .error (.invalid field value fault.message)

def variableNames : List String := [
  "VENUE_API_ROOT",
  "TABLE_API_ROOT",
  "DATABASE_URL",
  "ALLOW_ORIGIN",
  "AUTH0_DOMAIN",
  "AUTH0_AUDIENCE",
  "BOOKING_CALL_TIMEOUT_MS"]

def ofEnvironment (environment : Variables) : Except SettingsError Settings := do
  let timeoutVariable := "BOOKING_CALL_TIMEOUT_MS"
  let callTimeout ←
    match environment.visible? timeoutVariable with
    | some value => timeoutOf timeoutVariable value
    | none => pure (Duration.ofMillis 5000)
  pure {
    venueService := environment.visible? "VENUE_API_ROOT"
    tableService := environment.visible? "TABLE_API_ROOT"
    database := environment.visible? "DATABASE_URL"
    corsOrigin := environment.visible? "ALLOW_ORIGIN"
    authDomain := environment.visible? "AUTH0_DOMAIN"
    authAudience := environment.visible? "AUTH0_AUDIENCE"
    callTimeout }

theorem ofEnvironment_congr {v w : Variables} (h : ∀ name ∈ variableNames, v name = w name) :
    ofEnvironment v = ofEnvironment w := by
  simp only [variableNames, List.forall_mem_cons] at h
  obtain ⟨venue, table, database, origin, domain, audience, timeout, _⟩ := h
  simp only [ofEnvironment, Variables.visible?, venue, table, database, origin, domain, audience,
    timeout]

end Settings

end TableBooking
