import TableBooking.Booking
import TableBooking.Failure

/-!
Booking stores: what holds the bookings that were accepted. A store over states `σ` says how each
request is answered in a state and which state follows.
-/
namespace TableBooking

structure Store (σ : Type) where
  query : Filter → σ → Except StoreError (List Booking)
  onDate : VenueId → Date → σ → Except StoreError (List Booking)
  /-- Takes a proposal under a new number, unless a stored booking clashes with it. -/
  insert : Proposal → σ → Except StoreError Booking × σ
  /-- Removes bookings and says which of the numbers were stored. -/
  delete : List BookingId → σ → Except StoreError (List BookingId) × σ

def Booking.isAt (booking : Booking) (venue : VenueId) (date : Date) : Bool :=
  booking.venue = venue && booking.date = date

end TableBooking
