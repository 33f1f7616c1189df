import TableBooking.Engine.Dialogue
import TableBooking.Wire.Decode

/-!
The requests that the engine serves. Matching proposes the free table with the least number;
committing checks the table and the bookings on it once more and then inserts; cancelling deletes.
No request is tried twice.
-/
namespace TableBooking

def dropRepeats : List Table → List Table
  | [] => []
  | [t] => [t]
  | t :: u :: rest => if t.id = u.id then dropRepeats (t :: rest) else t :: dropRepeats (u :: rest)

/-- The tables that seat a party, in the order of their numbers and one for each number. Of several
with one number the first that seats the party counts. -/
def candidates (tables : List Table) (partySize : UInt32) : List Table :=
  dropRepeats <|
    (tables.filter (·.seats partySize)).mergeSort fun a b => a.id.number ≤ b.id.number

/-- Whether a booking is listed before another: by start, then table, then number. -/
def Booking.listedBefore (a b : Booking) : Bool :=
  if a.window.startsAt.place ≠ b.window.startsAt.place then
    a.window.startsAt.place < b.window.startsAt.place
  else if a.table ≠ b.table then a.table.number < b.table.number
  else a.id.number ≤ b.id.number

namespace Engine

def findTables (timeout : Duration) (venue : VenueId) (partySize : UInt32) :
    Dialogue (List Table) :=
  if partySize = 0 then .refused (.invalidRequest .partySizeNotPositive)
  else do
    let tables ← Dialogue.call timeout (.listTables venue partySize)
    pure (candidates tables partySize)

/-- The bookings of some tables of a venue on a date. What the store answers is filtered again. -/
def bookingsFor (timeout : Duration) (venue : VenueId) (tables : List TableId) (date : Date) :
    Dialogue (List Booking) :=
  if tables = [] then .refused (.invalidRequest .noCandidateTables)
  else do
    let filter : Filter := ⟨venue, tables, date⟩
    let bookings ← Dialogue.call timeout (.query filter)
    pure (bookings.filter filter.admits)

def matchSlot (timeout : Duration) (today : Date) (enquiry : Enquiry) : Dialogue Proposal := do
  Dialogue.obeying (enquiry.check today)
  let tables ← findTables timeout enquiry.venue enquiry.partySize
  if tables = [] then .refused (.noAvailableSlots enquiry.venue enquiry.partySize)
  else do
    let bookings ← bookingsFor timeout enquiry.venue (tables.map (·.id)) enquiry.date
    match firstFree tables bookings enquiry.window with
    | some table => pure (enquiry.proposing table.id)
    | none => .refused (.noAvailableSlots enquiry.venue enquiry.partySize)

def checkTable (timeout : Duration) (proposal : Proposal) : Dialogue Unit := do
  match ← Dialogue.call timeout (.getTable proposal.venue proposal.table) with
  | none => .refused (.invalidRequest (.unknownTable proposal.table))
  | some table =>
    if table.seats proposal.partySize then pure ()
    else .refused (.invalidRequest (.tableTooSmall table.id table.capacity proposal.partySize))

/-- The insertion of a proposal; a clash found by the store is a conflict. -/
def insertProposal (timeout : Duration) (proposal : Proposal) : Dialogue Booking :=
  .ask (.insert proposal) fun
    | .answered booking => .done booking
    | .failed (.exclusion _) => .refused (.conflict proposal.table proposal.date)
    | .failed e => .refused (.unavailable .bookingStore (StoreError.message e))
    | .timedOut => .refused (.unavailable .bookingStore s!"timed out after {timeout}")

/-- Books what was proposed. The bookings on the table are looked at before the insertion, so that
most conflicts are found without it; the store decides. -/
def commit (timeout : Duration) (today : Date) (proposal : Proposal) : Dialogue Booking := do
  Dialogue.obeying (proposal.check today)
  checkTable timeout proposal
  let existing ← bookingsFor timeout proposal.venue [proposal.table] proposal.date
  match overlapping existing proposal.table proposal.window with
  | _ :: _ => .refused (.conflict proposal.table proposal.date)
  | [] => insertProposal timeout proposal

def commitText (timeout : Duration) (today : Date) (text : String) : Dialogue Booking :=
  match Proposal.ofJson text with
  | .ok proposal => commit timeout today proposal
  | .error rule => .refused (.invalidRequest rule)

def book (timeout : Duration) (today : Date) (enquiry : Enquiry) : Dialogue Booking := do
  let proposal ← matchSlot timeout today enquiry
  commit timeout today proposal

def cancel (timeout : Duration) (id : BookingId) : Dialogue Unit := do
  let removed ← Dialogue.call timeout (.delete [id])
  if List.contains removed id then pure () else .refused (.notFound id)

def bookingsOn (timeout : Duration) (venue : VenueId) (date : Date) : Dialogue (List Booking) := do
  let bookings ← Dialogue.call timeout (.onDate venue date)
  pure (List.mergeSort bookings Booking.listedBefore)

end Engine

end TableBooking
