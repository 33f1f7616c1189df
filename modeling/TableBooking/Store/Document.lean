import TableBooking.Store.Basic
import TableBooking.Wire.Decode
import TableBooking.Wire.Encode

/-!
The bookings document: all bookings and the last number given out, as one JSON text. Each request
reads the whole text, and one that changes something writes a whole new text. A missing text and an
empty one stand for the document without bookings.
-/
namespace TableBooking

structure Document where
  lastId : UInt64 := 0
  bookings : List Booking := []
  deriving DecidableEq

namespace Document

open TableBooking.Json

structure Draft where
  lastId : Option UInt64 := none
  bookings : Option (List Booking) := none

def Draft.finish (d : Draft) : Except Cause Document := do
  let lastId ← Wire.required "last_id" d.lastId
  let bookings ← Wire.required "bookings" d.bookings
  pure { lastId, bookings }

def reader : Reader Document :=
  readRecord "BookingsDocument"
    [ Wire.field "last_id" Draft.lastId (fun d v => { d with lastId := some v }) Wire.large,
      Wire.field "bookings" Draft.bookings (fun d v => { d with bookings := some v })
        (listOf Wire.booking) ]
    {} Draft.finish

def toValue (document : Document) : Value :=
  .object [
    ("last_id", .number document.lastId.toNat),
    ("bookings", .list (document.bookings.map Booking.toValue))]

def text (document : Document) : Bytes :=
  utf8 (document.toValue.write .pretty)

def ofContent (content : Option Bytes) : Except StoreError Document :=
  match content with
  | none => .ok {}
  | some [] => .ok {}
  | some bytes => (decode reader bytes).mapError .serialization

/-- The document with a proposal at its end, under the number after the last one, unless a booking
of the document clashes with it. -/
def insert (document : Document) (proposal : Proposal) : Except StoreError (Booking × Document) :=
  match document.bookings.find? (·.clashesWith proposal) with
  | some clash => .error (.exclusion clash.id)
  | none =>
    let booking := proposal.booked ⟨document.lastId + 1⟩
    .ok (booking,
      { lastId := document.lastId + 1, bookings := document.bookings ++ [booking] })

/-- The numbers among `ids` that the document has, in the order of the document. -/
def present (document : Document) (ids : List BookingId) : List BookingId :=
  (document.bookings.map (·.id)).filter (ids.contains ·)

def without (document : Document) (ids : List BookingId) : Document :=
  { document with bookings := document.bookings.filter fun b => !ids.contains b.id }

def query (document : Document) (filter : Filter) : List Booking :=
  document.bookings.filter filter.admits

def onDate (document : Document) (venue : VenueId) (date : Date) : List Booking :=
  document.bookings.filter (·.isAt venue date)

end Document

end TableBooking
