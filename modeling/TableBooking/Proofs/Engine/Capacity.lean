import Mathlib.Data.List.Perm.Basic
import TableBooking.Proofs.Engine.Selection

/-!
The tables found for a party. Whatever the directory answers, its first table of each number that
seats the party is found, and the tables are in the order of their numbers.
-/
namespace TableBooking

/-- Of the tables of its number, the first in the list that is large enough. -/
def Table.FirstSeating (partySize : UInt32) (tables : List Table) (table : Table) : Prop :=
  ∃ front behind, tables = front ++ table :: behind ∧ partySize ≤ table.capacity ∧
    ∀ other ∈ front, other.id = table.id → other.capacity < partySize

variable {partySize : UInt32} {tables : List Table} {table : Table}

theorem mem_candidates_iff_firstSeating :
    table ∈ candidates tables partySize ↔ table.FirstSeating partySize tables := by
  rw [mem_candidates_iff, List.find?_filter, List.find?_eq_some_iff_append]
  simp only [Table.seats, decide_eq_true_eq, and_true, Bool.not_eq_true', decide_eq_false_iff_not,
    not_and', UInt32.not_le]
  constructor
  · rintro ⟨fits, front, behind, split, smaller⟩
    exact ⟨front, behind, split, fits, smaller⟩
  · rintro ⟨front, behind, split, fits, smaller⟩
    exact ⟨fits, front, behind, split, smaller⟩

instance (partySize : UInt32) (tables : List Table) (table : Table) :
    Decidable (table.FirstSeating partySize tables) :=
  decidable_of_iff ((tables.filter (·.seats partySize)).find? (·.id = table.id) = some table)
    (mem_candidates_iff.symm.trans mem_candidates_iff_firstSeating)

/-- Rising lists of the same tables are the same list. -/
theorem eq_of_ascending {found other : List Table}
    (hfound : found.Pairwise fun a b => a.id.number < b.id.number)
    (hother : other.Pairwise fun a b => a.id.number < b.id.number)
    (same : ∀ table, table ∈ found ↔ table ∈ other) : found = other := by
  have perm : found.Perm other :=
    (List.perm_ext_iff_of_nodup (List.Nodup.of_map _ (ids_nodup_of_ascending hfound))
      (List.Nodup.of_map _ (ids_nodup_of_ascending hother))).2 same
  refine perm.eq_of_pairwise ?_ hfound hother
  intro a b _ _ below above
  exact absurd above (UInt32.lt_asymm below)

namespace Engine

variable {σ : Type} {serve : Dialogue.Serving σ} {venue : VenueId} {s t : σ}

/-- For a party of one or more the directory's answer is cut down to the first table of each number
that seats the party, in the order of the numbers; and these properties leave no other list. -/
theorem first_seating_tables_found (positive : partySize ≠ 0)
    (answered : serve (.listTables venue partySize) s = (.answered tables, t))
    (timeout : Duration) :
    ∃ found, (findTables timeout venue partySize).run serve s = (.ok found, t) ∧
      (found.Pairwise fun a b => a.id.number < b.id.number) ∧
      (∀ table, table ∈ found ↔ table.FirstSeating partySize tables) ∧
      (∀ id, (∃ table ∈ found, table.id = id) ↔
        ∃ table ∈ tables, table.id = id ∧ partySize ≤ table.capacity) ∧
      ∀ other : List Table, (other.Pairwise fun a b => a.id.number < b.id.number) →
        (∀ table, table ∈ other ↔ table.FirstSeating partySize tables) → other = found := by
  have ascending := candidates_ascending tables partySize
  refine ⟨_, run_findTables positive answered, ascending, ?_, ?_, ?_⟩
  · intro table
    exact mem_candidates_iff_firstSeating
  · intro id
    simpa [Table.seats] using exists_candidate_iff
  · intro other rising members
    apply eq_of_ascending rising ascending
    intro table
    rw [members, mem_candidates_iff_firstSeating]

/-- A directory tells of the window table between two others of its number, of which the first is
too small, and of a bar that is too small as well. -/
theorem window_and_booth_found :
    let stool : Table := ⟨⟨7⟩, "stool", 1⟩
    let window : Table := ⟨⟨7⟩, "window", 6⟩
    let bench : Table := ⟨⟨7⟩, "bench", 8⟩
    let bar : Table := ⟨⟨2⟩, "bar", 1⟩
    let booth : Table := ⟨⟨3⟩, "booth", 4⟩
    let told := [stool, window, bar, booth, bench, window]
    let serve := faulty (hearsay told []) (.ofMillis 50)
      (serving TableMap.sample.directory Ledger.store)
    let venue : VenueId := ⟨"hop-and-vine"⟩
    (2 : UInt32) ≠ 0 ∧ serve (.listTables venue 2) {} = (.answered told, {}) ∧
      (findTables (.ofMillis 50) venue 2).run serve {} = (.ok [booth, window], {}) := by
  intro stool window bench bar booth told serve venue
  have positive : (2 : UInt32) ≠ 0 := by decide
  have answered : serve (.listTables venue 2) {} = (.answered told, {}) := rfl
  obtain ⟨found, run, -, members, -, only⟩ :=
    first_seating_tables_found positive answered (.ofMillis 50)
  have chosen : ∀ table, table ∈ [booth, window] ↔ table.FirstSeating 2 told := by
    intro table
    constructor
    · intro listed
      have both : ∀ table ∈ [booth, window], table.FirstSeating 2 told := by decide
      exact both table listed
    · intro first
      have all : ∀ table ∈ told, table.FirstSeating 2 told → table ∈ [booth, window] := by decide
      obtain ⟨front, behind, split, _⟩ := id first
      exact all table (split ▸ List.mem_append_right _ List.mem_cons_self) first
  rw [only [booth, window] (by decide) chosen]
  exact ⟨positive, answered, run⟩

end Engine

end TableBooking
