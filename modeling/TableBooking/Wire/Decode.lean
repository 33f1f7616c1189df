import TableBooking.Booking
import TableBooking.Calendar.Reader
import TableBooking.Json.Reader

/-!
The JSON forms of the booking types, read. A window is read as its two instants and then has to be
in order and short enough; a proposal that a client hands back reports a bad window as the rule it
breaks, and everything else as a malformed text.
-/
namespace TableBooking.Wire

open TableBooking.Json

def field {Draft α : Type} (name : String) (get : Draft → Option α) (set : Draft → α → Draft)
    (value : Reader α) : RecordField Draft where
  name
  isSet draft := (get draft).isSome
  read draft s :=
    match value s with
    | .error fault => .error fault
    | .ok (v, rest) => .ok (set draft v, rest)

def required {α : Type} (name : String) : Option α → Except Cause α
  | some value => .ok value
  | none => .error (.missingField name)

def small : Reader UInt32 := fun s =>
  (naturalValue "u32" UInt32.size s).map fun (n, rest) => (n.toUInt32, rest)

def large : Reader UInt64 := fun s =>
  (naturalValue "u64" UInt64.size s).map fun (n, rest) => (n.toUInt64, rest)

def timestampExpected : String := "an RFC 3339 formatted date and time string"

def timestamp : Reader Timestamp :=
  textValue timestampExpected fun s =>
    (Calendar.readTimestamp s).mapError Calendar.ReadError.message

def date : Reader Date :=
  textValue "a formatted date string" fun s =>
    (Calendar.readDate s).mapError Calendar.ReadError.message

def venue : Reader VenueId := fun s => (anyText s).map fun (t, rest) => (⟨t⟩, rest)

def customer : Reader CustomerId := fun s => (anyText s).map fun (t, rest) => (⟨t⟩, rest)

def tableId : Reader TableId := fun s => (small s).map fun (n, rest) => (⟨n⟩, rest)

def bookingId : Reader BookingId := fun s => (large s).map fun (n, rest) => (⟨n⟩, rest)

structure TableDraft where
  id : Option TableId := none
  name : Option String := none
  capacity : Option UInt32 := none

def TableDraft.finish (d : TableDraft) : Except Cause Table := do
  let id ← required "id" d.id
  let name ← required "name" d.name
  let capacity ← required "capacity" d.capacity
  pure { id, name, capacity }

def table : Reader Table :=
  readRecord "Table"
    [ field "id" TableDraft.id (fun d v => { d with id := some v }) tableId,
      field "name" TableDraft.name (fun d v => { d with name := some v }) anyText,
      field "capacity" TableDraft.capacity (fun d v => { d with capacity := some v }) small ]
    {} TableDraft.finish

/-- The ends of a window before they are compared. -/
structure Endpoints where
  startsAt : Timestamp
  endsAt : Timestamp

structure EndpointsDraft where
  startsAt : Option Timestamp := none
  endsAt : Option Timestamp := none

def EndpointsDraft.finish (d : EndpointsDraft) : Except Cause Endpoints := do
  let startsAt ← required "starts_at" d.startsAt
  let endsAt ← required "ends_at" d.endsAt
  pure { startsAt, endsAt }

def endpoints : Reader Endpoints :=
  readRecord "RawWindow"
    [ field "starts_at" EndpointsDraft.startsAt (fun d v => { d with startsAt := some v })
        timestamp,
      field "ends_at" EndpointsDraft.endsAt (fun d v => { d with endsAt := some v }) timestamp ]
    {} EndpointsDraft.finish

/-- A window. The rule it breaks, if any, is a fault of the value and not of the text. -/
def window : Reader Window := fun s =>
  match endpoints s with
  | .error fault => .error fault
  | .ok (e, rest) =>
    match Window.make e.startsAt e.endsAt with
    | .ok w => .ok (w, rest)
    | .error rule => .error (.floating (.refused rule.message) rest)

structure EnquiryDraft where
  venue : Option VenueId := none
  customer : Option CustomerId := none
  partySize : Option UInt32 := none
  date : Option Date := none
  window : Option Window := none

def EnquiryDraft.finish (d : EnquiryDraft) : Except Cause Enquiry := do
  let venue ← required "venue_id" d.venue
  let customer ← required "customer_id" d.customer
  let partySize ← required "party_size" d.partySize
  let date ← required "date" d.date
  let window ← required "window" d.window
  pure { venue, customer, partySize, date, window }

def enquiry : Reader Enquiry :=
  readRecord "BookingEnquiry"
    [ field "venue_id" EnquiryDraft.venue (fun d v => { d with venue := some v }) venue,
      field "customer_id" EnquiryDraft.customer (fun d v => { d with customer := some v }) customer,
      field "party_size" EnquiryDraft.partySize (fun d v => { d with partySize := some v }) small,
      field "date" EnquiryDraft.date (fun d v => { d with date := some v }) date,
      field "window" EnquiryDraft.window (fun d v => { d with window := some v }) window ]
    {} EnquiryDraft.finish

/-- The fields of a proposal whose window is read as a `W`. -/
structure ProposalParts (W : Type) where
  venue : VenueId
  customer : CustomerId
  table : TableId
  partySize : UInt32
  date : Date
  window : W

structure ProposalDraft (W : Type) where
  venue : Option VenueId := none
  customer : Option CustomerId := none
  table : Option TableId := none
  partySize : Option UInt32 := none
  date : Option Date := none
  window : Option W := none

def ProposalDraft.finish {W : Type} (d : ProposalDraft W) : Except Cause (ProposalParts W) := do
  let venue ← required "venue_id" d.venue
  let customer ← required "customer_id" d.customer
  let table ← required "table_id" d.table
  let partySize ← required "party_size" d.partySize
  let date ← required "date" d.date
  let window ← required "window" d.window
  pure { venue, customer, table, partySize, date, window }

def proposalParts {W : Type} (name : String) (window : Reader W) : Reader (ProposalParts W) :=
  readRecord name
    [ field "venue_id" ProposalDraft.venue (fun d v => { d with venue := some v }) venue,
      field "customer_id" ProposalDraft.customer (fun d v => { d with customer := some v })
        customer,
      field "table_id" ProposalDraft.table (fun d v => { d with table := some v }) tableId,
      field "party_size" ProposalDraft.partySize (fun d v => { d with partySize := some v }) small,
      field "date" ProposalDraft.date (fun d v => { d with date := some v }) date,
      field "window" ProposalDraft.window (fun d v => { d with window := some v }) window ]
    {} ProposalDraft.finish

def ProposalParts.proposal (p : ProposalParts Window) : Proposal :=
  { venue := p.venue, customer := p.customer, table := p.table, partySize := p.partySize,
    date := p.date, window := p.window }

def proposal : Reader Proposal := fun s =>
  (proposalParts "ProposedBooking" window s).map fun (p, rest) => (p.proposal, rest)

structure BookingDraft where
  id : Option BookingId := none
  venue : Option VenueId := none
  customer : Option CustomerId := none
  table : Option TableId := none
  partySize : Option UInt32 := none
  date : Option Date := none
  window : Option Window := none

def BookingDraft.finish (d : BookingDraft) : Except Cause Booking := do
  let id ← required "id" d.id
  let venue ← required "venue_id" d.venue
  let customer ← required "customer_id" d.customer
  let table ← required "table_id" d.table
  let partySize ← required "party_size" d.partySize
  let date ← required "date" d.date
  let window ← required "window" d.window
  pure { id, venue, customer, table, partySize, date, window }

def booking : Reader Booking :=
  readRecord "Booking"
    [ field "id" BookingDraft.id (fun d v => { d with id := some v }) bookingId,
      field "venue_id" BookingDraft.venue (fun d v => { d with venue := some v }) venue,
      field "customer_id" BookingDraft.customer (fun d v => { d with customer := some v }) customer,
      field "table_id" BookingDraft.table (fun d v => { d with table := some v }) tableId,
      field "party_size" BookingDraft.partySize (fun d v => { d with partySize := some v }) small,
      field "date" BookingDraft.date (fun d v => { d with date := some v }) date,
      field "window" BookingDraft.window (fun d v => { d with window := some v }) window ]
    {} BookingDraft.finish

end TableBooking.Wire

namespace TableBooking

open TableBooking.Json

/-- Reads a proposal that a client hands back. The text is judged as a whole before its window. -/
def Proposal.ofJson (text : String) : Except Rule Proposal :=
  let whole := utf8 text
  match readWhole (Wire.proposalParts "RawProposal" Wire.endpoints) whole with
  | .error fault => .error (.malformedProposal (fault.message whole))
  | .ok p =>
    match Window.make p.window.startsAt p.window.endsAt with
    | .error rule => .error rule
    | .ok window =>
      .ok { venue := p.venue, customer := p.customer, table := p.table, partySize := p.partySize,
            date := p.date, window }

def Json.decode {α : Type} (reader : Reader α) (whole : Bytes) : Except String α :=
  (readWhole reader whole).mapError (Fault.message whole)

end TableBooking
