/-!
Venues, their customers and their tables.
-/
namespace TableBooking

structure VenueId where
  text : String
  deriving DecidableEq

structure CustomerId where
  text : String
  deriving DecidableEq

/-- The number of a table within its venue. Tables are proposed in the order of their numbers. -/
structure TableId where
  number : UInt32
  deriving DecidableEq

structure BookingId where
  number : UInt64
  deriving DecidableEq

instance : ToString VenueId := ⟨VenueId.text⟩

instance : ToString CustomerId := ⟨CustomerId.text⟩

instance : ToString TableId := ⟨fun t => toString t.number.toNat⟩

instance : ToString BookingId := ⟨fun b => toString b.number.toNat⟩

structure Table where
  id : TableId
  name : String
  capacity : UInt32
  deriving DecidableEq

def Table.seats (table : Table) (partySize : UInt32) : Bool :=
  partySize ≤ table.capacity

theorem Table.seats_iff (table : Table) (partySize : UInt32) :
    table.seats partySize = true ↔ partySize.toNat ≤ table.capacity.toNat := by
  simp [Table.seats, UInt32.le_iff_toNat_le]

end TableBooking
