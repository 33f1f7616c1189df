import TableBooking.Failure

/-!
Table directories: where a venue's tables are looked up. The plain directory is a map from venues
to their tables, each in the order in which it was added.
-/
namespace TableBooking

/-- Looks up a venue's tables. The engine relies neither on the order nor on the capacities of the
tables listed. -/
structure Directory where
  list : VenueId → UInt32 → Except DirectoryError (List Table)
  get : VenueId → TableId → Except DirectoryError (Option Table)

/-- The tables of each venue. A venue that is listed twice has the tables listed first. -/
structure TableMap where
  venues : List (VenueId × List Table) := []

namespace TableMap

def tables (map : TableMap) (venue : VenueId) : List Table :=
  (map.venues.lookup venue).getD []

def setTables (map : TableMap) (venue : VenueId) (tables : List Table) : TableMap :=
  ⟨(venue, tables) :: map.venues.filter (·.1 ≠ venue)⟩

/-- A map from a list in which the later of two entries for one venue counts. -/
def ofEntries (entries : List (VenueId × List Table)) : TableMap :=
  entries.foldl (fun map (venue, tables) => map.setTables venue tables) {}

/-- A table at the end of a venue's tables, in place of any with its number. -/
def addTable (tables : List Table) (table : Table) : List Table :=
  tables.filter (·.id ≠ table.id) ++ [table]

def insert (map : TableMap) (venue : VenueId) (tables : List Table) : TableMap :=
  map.setTables venue (tables.foldl addTable (map.tables venue))

def list (map : TableMap) (venue : VenueId) (leastCapacity : UInt32) : List Table :=
  (map.tables venue).filter (·.seats leastCapacity)

def get? (map : TableMap) (venue : VenueId) (table : TableId) : Option Table :=
  (map.tables venue).find? (·.id = table)

def directory (map : TableMap) : Directory where
  list venue leastCapacity := .ok (map.list venue leastCapacity)
  get venue table := .ok (map.get? venue table)

end TableMap

end TableBooking
