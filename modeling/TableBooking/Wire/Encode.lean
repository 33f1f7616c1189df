import TableBooking.Booking
import TableBooking.Json.Writer

/-!
The JSON forms of the booking types, written. The members stand in the order in which a record's
values stand when it is read from an array.
-/
namespace TableBooking

open TableBooking.Json

def Table.toValue (t : Table) : Value :=
  .object [
    ("id", .number t.id.number.toNat),
    ("name", .text t.name),
    ("capacity", .number t.capacity.toNat)]

def Window.toValue (w : Window) : Value :=
  .object [
    ("starts_at", .text (toString w.startsAt)),
    ("ends_at", .text (toString w.endsAt))]

def Enquiry.toValue (e : Enquiry) : Value :=
  .object [
    ("venue_id", .text e.venue.text),
    ("customer_id", .text e.customer.text),
    ("party_size", .number e.partySize.toNat),
    ("date", .text (toString e.date)),
    ("window", e.window.toValue)]

/-- The members of a proposal, which a booking has as well. -/
def Proposal.members (p : Proposal) : List (String × Value) :=
  [ ("venue_id", .text p.venue.text),
    ("customer_id", .text p.customer.text),
    ("table_id", .number p.table.number.toNat),
    ("party_size", .number p.partySize.toNat),
    ("date", .text (toString p.date)),
    ("window", p.window.toValue)]

def Proposal.toValue (p : Proposal) : Value :=
  .object p.members

def Booking.toValue (b : Booking) : Value :=
  .object (("id", .number b.id.number.toNat) :: b.proposal.members)

end TableBooking
