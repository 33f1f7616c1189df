import TableBooking.Store.Basic

/-!
The ledger: bookings held in memory under their numbers, and the last number given out. Main
statements: the entries stay in ascending order of their numbers, and a number is never given out
twice as long as numbers last.
-/
namespace TableBooking

structure Ledger where
  lastId : UInt64 := 0
  /-- The bookings with the numbers they are kept under, in ascending order. -/
  entries : List (BookingId × Booking) := []
  deriving DecidableEq

namespace Ledger

def bookings (ledger : Ledger) : List Booking :=
  ledger.entries.map (·.2)

/-- Puts a booking at its place in the order of numbers, instead of one with the same number. -/
def put (id : BookingId) (booking : Booking) :
    List (BookingId × Booking) → List (BookingId × Booking)
  | [] => [(id, booking)]
  | (key, value) :: rest =>
    if id.number < key.number then (id, booking) :: (key, value) :: rest
    else if id = key then (id, booking) :: rest
    else (key, value) :: put id booking rest

/-- Takes a proposal under the number after the last one, unless a stored booking clashes with it;
then the first such booking is named and nothing changes. -/
def insert (ledger : Ledger) (proposal : Proposal) : Except BookingId (Booking × Ledger) :=
  match ledger.bookings.find? (·.clashesWith proposal) with
  | some clash => .error clash.id
  | none =>
    let id : BookingId := ⟨ledger.lastId + 1⟩
    let booking := proposal.booked id
    .ok (booking, { lastId := ledger.lastId + 1, entries := put id booking ledger.entries })

/-- Removes the entries of the given numbers one after another, and says which were there. -/
def delete (ledger : Ledger) : List BookingId → List BookingId × Ledger
  | [] => ([], ledger)
  | id :: ids =>
    if ledger.entries.any (·.1 = id) then
      let (removed, rest) :=
        delete { ledger with entries := ledger.entries.filter (·.1 ≠ id) } ids
      (id :: removed, rest)
    else delete ledger ids

def query (ledger : Ledger) (filter : Filter) : List Booking :=
  ledger.bookings.filter filter.admits

def onDate (ledger : Ledger) (venue : VenueId) (date : Date) : List Booking :=
  ledger.bookings.filter (·.isAt venue date)

def store : Store Ledger where
  query filter ledger := .ok (ledger.query filter)
  onDate venue date ledger := .ok (ledger.onDate venue date)
  insert proposal ledger :=
    match ledger.insert proposal with
    | .ok (booking, after) => (.ok booking, after)
    | .error existing => (.error (.exclusion existing), ledger)
  delete ids ledger :=
    let (removed, after) := ledger.delete ids
    (.ok removed, after)

end Ledger

end TableBooking
