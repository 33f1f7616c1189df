import TableBooking.Calendar.Printer
import TableBooking.Rule

/-!
What can go wrong when a request is served: failures of the two collaborators, the table directory
and the booking store, and the errors that a caller is told of.
-/
namespace TableBooking

inductive Collaborator where
  | tableDirectory
  | bookingStore
  deriving DecidableEq

def Collaborator.name : Collaborator → String
  | .tableDirectory => "table directory"
  | .bookingStore => "booking store"

inductive FileError where
  | notFound
  | notADirectory
  | isADirectory
  | alreadyExists
  /-- The file was read, but a text was wanted and its bytes are not UTF-8. -/
  | notText
  deriving DecidableEq

def FileError.message : FileError → String
  | .notFound => "No such file or directory (os error 2)"
  | .notADirectory => "Not a directory (os error 20)"
  | .isADirectory => "Is a directory (os error 21)"
  | .alreadyExists => "File exists (os error 17)"
  | .notText => "stream did not contain valid UTF-8"

inductive RequestError where
  | unbuilt
  | unanswered (url : String)
  | undecodable
  deriving DecidableEq

def RequestError.message : RequestError → String
  | .unbuilt => "builder error"
  | .unanswered url => s!"error sending request for url ({url})"
  | .undecodable => "error decoding response body"

inductive DirectoryError where
  | request (cause : RequestError)
  | status (code : Nat)
  | backend (message : String)
  deriving DecidableEq

def DirectoryError.message : DirectoryError → String
  | .request cause => s!"request failed: {cause.message}"
  | .status code => s!"unexpected response status {code}"
  | .backend message => s!"directory error: {message}"

inductive StoreError where
  /-- A stored booking clashes with the one to be inserted. -/
  | exclusion (existing : BookingId)
  | file (cause : FileError)
  | serialization (reason : String)
  | backend (message : String)
  deriving DecidableEq

def StoreError.message : StoreError → String
  | .exclusion existing => s!"overlaps existing booking {existing}"
  | .file cause => s!"IO error: {cause.message}"
  | .serialization reason => s!"Serialization error: {reason}"
  | .backend message => s!"store error: {message}"

/-- What a caller is told when a request is not served. -/
inductive BookingError where
  | invalidRequest (rule : Rule)
  | noAvailableSlots (venue : VenueId) (partySize : UInt32)
  | conflict (table : TableId) (date : Date)
  | unavailable (collaborator : Collaborator) (reason : String)
  | notFound (booking : BookingId)
  deriving DecidableEq

namespace BookingError

def message : BookingError → String
  | .invalidRequest rule => s!"invalid request: {rule.message}"
  | .noAvailableSlots venue partySize =>
    s!"no available slots at venue {venue} for {partySize} people"
  | .conflict table date => s!"table {table} is already booked for an overlapping window on {date}"
  | .unavailable collaborator reason => s!"{collaborator.name} unavailable: {reason}"
  | .notFound booking => s!"booking {booking} not found"

def code : BookingError → String
  | .invalidRequest _ => "INVALID_REQUEST"
  | .noAvailableSlots _ _ => "NO_AVAILABLE_SLOTS"
  | .conflict _ _ => "CONFLICT"
  | .unavailable _ _ => "UNAVAILABLE"
  | .notFound _ => "NOT_FOUND"

/-- Whether the same request may succeed later. -/
def isRetryable : BookingError → Bool
  | .unavailable _ _ | .conflict _ _ => true
  | _ => false

def suggestion : BookingError → String
  | .invalidRequest _ => "Correct the request and submit it again"
  | .noAvailableSlots _ _ => "Try a different time, date or party size"
  | .conflict _ _ => "The slot was taken; request a new slot and confirm again"
  | .unavailable _ _ => "A backing service is unreachable; retry later"
  | .notFound _ => "Check the booking id"

end BookingError

end TableBooking
