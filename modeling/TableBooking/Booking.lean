import TableBooking.Text.Blank
import TableBooking.Window

/-!
Enquiries, proposals and bookings, and the rules that a request has to obey before any collaborator
is asked.
-/
namespace TableBooking

structure Enquiry where
  venue : VenueId
  customer : CustomerId
  partySize : UInt32
  date : Date
  window : Window
  deriving DecidableEq

/-- A table and a window that suit an enquiry but are not booked yet. -/
structure Proposal where
  venue : VenueId
  customer : CustomerId
  table : TableId
  partySize : UInt32
  date : Date
  window : Window
  deriving DecidableEq

/-- A proposal that a store has accepted under a number of its own. -/
structure Booking where
  id : BookingId
  venue : VenueId
  customer : CustomerId
  table : TableId
  partySize : UInt32
  date : Date
  window : Window
  deriving DecidableEq

def Enquiry.proposing (enquiry : Enquiry) (table : TableId) : Proposal :=
  { venue := enquiry.venue, customer := enquiry.customer, table,
    partySize := enquiry.partySize, date := enquiry.date, window := enquiry.window }

def Proposal.booked (proposal : Proposal) (id : BookingId) : Booking :=
  { id, venue := proposal.venue, customer := proposal.customer, table := proposal.table,
    partySize := proposal.partySize, date := proposal.date, window := proposal.window }

def Booking.proposal (booking : Booking) : Proposal :=
  { venue := booking.venue, customer := booking.customer, table := booking.table,
    partySize := booking.partySize, date := booking.date, window := booking.window }

@[simp] theorem Proposal.proposal_booked (p : Proposal) (id : BookingId) :
    (p.booked id).proposal = p := rfl

/-- Whether a booking takes the proposed table away: same venue, table and date, and windows that
overlap. -/
def Booking.clashesWith (booking : Booking) (proposal : Proposal) : Bool :=
  booking.venue = proposal.venue && booking.table = proposal.table &&
    booking.date = proposal.date && booking.window.overlaps proposal.window

structure Filter where
  venue : VenueId
  tables : List TableId
  date : Date
  deriving DecidableEq

def Filter.admits (filter : Filter) (booking : Booking) : Bool :=
  booking.venue = filter.venue && booking.date = filter.date &&
    filter.tables.contains booking.table

def overlapping (bookings : List Booking) (table : TableId) (window : Window) : List Booking :=
  bookings.filter fun b => b.table = table && b.window.overlaps window

/-- The first table, in the given order, that no booking keeps from being free. -/
def firstFree (tables : List Table) (bookings : List Booking) (window : Window) : Option Table :=
  tables.find? fun table => (overlapping bookings table.id window).isEmpty

/-- The first rule that a request breaks, in a fixed order: venue, customer, party, date, window. -/
def checkRequest (venue : VenueId) (customer : CustomerId) (partySize : UInt32) (date : Date)
    (window : Window) (today : Date) : Except Rule Unit :=
  if Text.allBlank venue.text then .error .venueMissing
  else if Text.allBlank customer.text then .error .customerMissing
  else if partySize = 0 then .error .partySizeNotPositive
  else if date < today then .error .dateInPast
  else if !window.liesWithin date then .error .windowOutsideDate
  else .ok ()

def Enquiry.check (enquiry : Enquiry) (today : Date) : Except Rule Unit :=
  checkRequest enquiry.venue enquiry.customer enquiry.partySize enquiry.date enquiry.window today

def Proposal.check (proposal : Proposal) (today : Date) : Except Rule Unit :=
  checkRequest proposal.venue proposal.customer proposal.partySize proposal.date proposal.window
    today

end TableBooking
