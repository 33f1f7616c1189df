import Mathlib.Data.List.Nodup
import TableBooking.Proofs.Engine.Candidates
import TableBooking.Proofs.Engine.Requests

/-!
Matching and committing agree. The table that is proposed is the one of the least number for which
a commit in the same state would succeed, and none is proposed exactly when no commit would.
-/
namespace TableBooking

namespace Engine

section Matching

variable {σ : Type} {serve : Dialogue.Serving σ} {timeout : Duration} {today : Date}
  {enquiry : Enquiry} {tables : List Table} {s t u : σ}

theorem run_findTables {venue : VenueId} {partySize : UInt32} (positive : partySize ≠ 0)
    (listed : serve (.listTables venue partySize) s = (.answered tables, t)) :
    (findTables timeout venue partySize).run serve s = (.ok (candidates tables partySize), t) := by
  unfold findTables
  rw [if_neg positive, Dialogue.run_call_answered listed]
  rfl

theorem positive_of_check (valid : enquiry.check today = .ok ()) : enquiry.partySize ≠ 0 :=
  ((checkRequest_eq_ok_iff ..).1 valid).2.2.1

theorem run_matchSlot_of_no_candidates (valid : enquiry.check today = .ok ())
    (listed : serve (.listTables enquiry.venue enquiry.partySize) s = (.answered tables, t))
    (empty : candidates tables enquiry.partySize = []) :
    (matchSlot timeout today enquiry).run serve s =
      (.error (.noAvailableSlots enquiry.venue enquiry.partySize), t) := by
  simp only [matchSlot, valid, Dialogue.obeying, Dialogue.done_bind]
  rw [Dialogue.run_bind, run_findTables (positive_of_check valid) listed]
  simp only [empty, if_true]
  rfl

/-- With candidates and bookings answered, the first candidate without an overlapping booking
decides. -/
theorem run_matchSlot_of_candidates {bookings : List Booking}
    (valid : enquiry.check today = .ok ())
    (listed : serve (.listTables enquiry.venue enquiry.partySize) s = (.answered tables, t))
    (some : candidates tables enquiry.partySize ≠ [])
    (queried : serve (.query ⟨enquiry.venue, (candidates tables enquiry.partySize).map (·.id),
      enquiry.date⟩) t = (.answered bookings, u)) :
    (matchSlot timeout today enquiry).run serve s =
      (match firstFree (candidates tables enquiry.partySize)
          (bookings.filter (Filter.admits ⟨enquiry.venue,
            (candidates tables enquiry.partySize).map (·.id), enquiry.date⟩)) enquiry.window with
        | .some table => .ok (enquiry.proposing table.id)
        | .none => .error (.noAvailableSlots enquiry.venue enquiry.partySize), u) := by
  have ids : (candidates tables enquiry.partySize).map (·.id) ≠ [] := by simpa using some
  simp only [matchSlot, valid, Dialogue.obeying, Dialogue.done_bind]
  rw [Dialogue.run_bind, run_findTables (positive_of_check valid) listed]
  simp only [some, if_false, bookingsFor, ids]
  rw [bind_assoc, Dialogue.run_call_answered queried]
  simp only [Dialogue.pure_eq, Dialogue.done_bind]
  generalize firstFree _ _ _ = chosen
  cases chosen <;> rfl

end Matching

theorem firstFree_eq_find? {tables : List Table} {bookings : List Booking} {window : Window}
    {free : Table → Prop} [DecidablePred free]
    (h : ∀ table ∈ tables, overlapping bookings table.id window = [] ↔ free table) :
    firstFree tables bookings window = tables.find? fun table => free table := by
  unfold firstFree
  rw [← List.head?_filter, ← List.head?_filter]
  refine congrArg List.head? (List.filter_congr fun table ht => ?_)
  rw [Bool.eq_iff_iff, List.isEmpty_iff, decide_eq_true_eq]
  exact h table ht

/-- The candidates of which no stored booking takes away the enquiry's window. -/
theorem firstFree_query (ledger : Ledger) (enquiry : Enquiry) (tables : List Table) :
    firstFree tables ((ledger.query ⟨enquiry.venue, tables.map (·.id), enquiry.date⟩).filter
        (Filter.admits ⟨enquiry.venue, tables.map (·.id), enquiry.date⟩)) enquiry.window =
      tables.find? fun table => ledger.Free (enquiry.proposing table.id) := by
  refine firstFree_eq_find? fun table ht => ?_
  exact overlapping_query_eq_nil_iff ledger (enquiry.proposing table.id)
    (List.mem_map_of_mem ht)

theorem run_matchSlot {directory : Directory} {timeout : Duration} {today : Date}
    {enquiry : Enquiry} {tables : List Table} (valid : enquiry.check today = .ok ())
    (listed : directory.list enquiry.venue enquiry.partySize = .ok tables) (ledger : Ledger) :
    (matchSlot timeout today enquiry).run (serving directory Ledger.store) ledger =
      (match (candidates tables enquiry.partySize).find? fun table =>
          ledger.Free (enquiry.proposing table.id) with
        | some table => .ok (enquiry.proposing table.id)
        | none => .error (.noAvailableSlots enquiry.venue enquiry.partySize), ledger) := by
  by_cases empty : candidates tables enquiry.partySize = []
  · rw [run_matchSlot_of_no_candidates valid (serving_listTables listed) empty, empty]
    rfl
  · rw [run_matchSlot_of_candidates valid (serving_listTables listed) empty
      (serving_query _ ledger), firstFree_query]

/-- Whether a commit of the proposal, made in this state, would book it. -/
def Bookable (directory : Directory) (timeout : Duration) (today : Date) (ledger : Ledger)
    (p : Proposal) : Prop :=
  ∃ b after, (commit timeout today p).run (serving directory Ledger.store) ledger = (.ok b, after)

section Map

variable {map : TableMap} {timeout : Duration} {today : Date} {enquiry : Enquiry}

theorem get?_eq_some_iff {venue : VenueId} (unique : ((map.tables venue).map (·.id)).Nodup)
    {id : TableId} {table : Table} :
    map.get? venue id = some table ↔ table ∈ map.tables venue ∧ table.id = id := by
  unfold TableMap.get?
  constructor
  · intro found
    exact ⟨List.mem_of_find?_eq_some found, by simpa using List.find?_some found⟩
  · rintro ⟨hmem, rfl⟩
    exact find?_eq_some_of_nodup unique hmem

/-- Where numbers are unique, a commit would book a table exactly when it is a candidate and
free. -/
theorem bookable_iff (unique : ((map.tables enquiry.venue).map (·.id)).Nodup)
    (valid : enquiry.check today = .ok ()) (ledger : Ledger) (id : TableId) :
    Bookable map.directory timeout today ledger (enquiry.proposing id) ↔
      (∃ table ∈ candidates (map.list enquiry.venue enquiry.partySize) enquiry.partySize,
        table.id = id) ∧ ledger.Free (enquiry.proposing id) := by
  have admissible : Admissible map.directory today (enquiry.proposing id) ↔
      ∃ table ∈ map.list enquiry.venue enquiry.partySize,
        table.id = id ∧ table.seats enquiry.partySize = true := by
    constructor
    · rintro ⟨_, table, found, seats⟩
      obtain ⟨hmem, hid⟩ := (get?_eq_some_iff unique).1 (Except.ok.inj found)
      exact ⟨table, List.mem_filter.2 ⟨hmem, seats⟩, hid, seats⟩
    · rintro ⟨table, hmem, hid, seats⟩
      have found := (get?_eq_some_iff unique).2 ⟨(List.mem_filter.1 hmem).1, hid⟩
      exact ⟨valid, table, congrArg Except.ok found, seats⟩
  rw [exists_candidate_iff, ← admissible]
  exact run_commit_succeeds_iff

/-- The first free candidate is bookable, and no table of a lower number is. -/
theorem least_of_chosen {ledger : Ledger} {table : Table}
    (unique : ((map.tables enquiry.venue).map (·.id)).Nodup) (valid : enquiry.check today = .ok ())
    (chosen : (candidates (map.list enquiry.venue enquiry.partySize) enquiry.partySize).find?
      (fun table => ledger.Free (enquiry.proposing table.id)) = some table) :
    Bookable map.directory timeout today ledger (enquiry.proposing table.id) ∧
      ∀ other, Bookable map.directory timeout today ledger (enquiry.proposing other) →
        table.id.number ≤ other.number := by
  have free : ledger.Free (enquiry.proposing table.id) := by
    simpa using List.find?_some chosen
  constructor
  · exact (bookable_iff unique valid ledger table.id).2
      ⟨⟨table, List.mem_of_find?_eq_some chosen, rfl⟩, free⟩
  · intro other books
    obtain ⟨⟨candidate, hmem, rfl⟩, hfree⟩ := (bookable_iff unique valid ledger other).1 books
    exact number_le_of_find? (candidates_ascending _ _) chosen hmem (by simpa using hfree)

theorem not_bookable_of_none_chosen {ledger : Ledger}
    (unique : ((map.tables enquiry.venue).map (·.id)).Nodup) (valid : enquiry.check today = .ok ())
    (chosen : (candidates (map.list enquiry.venue enquiry.partySize) enquiry.partySize).find?
      (fun table => ledger.Free (enquiry.proposing table.id)) = none) (id : TableId) :
    ¬ Bookable map.directory timeout today ledger (enquiry.proposing id) := by
  intro books
  obtain ⟨⟨table, hmem, rfl⟩, free⟩ := (bookable_iff unique valid ledger id).1 books
  simpa [free] using List.find?_eq_none.1 chosen table hmem

/-- For a valid enquiry against a map of uniquely numbered tables: the table proposed is the one of
the least number that a commit in the same ledger would book; none is proposed exactly when a commit
would book none; and the commit of what was proposed books it under a number that is new. -/
theorem matchSlot_agrees_with_commit {ledger : Ledger} (reachable : ledger.Reachable)
    (left : ledger.lastId.toNat < 2 ^ 64 - 1)
    (unique : ∀ venue, ((map.tables venue).map (·.id)).Nodup)
    (valid : enquiry.check today = .ok ()) :
    let serve := serving map.directory Ledger.store
    let matched := (matchSlot timeout today enquiry).run serve ledger
    let bookable := fun id => Bookable map.directory timeout today ledger (enquiry.proposing id)
    (∀ p, matched = (.ok p, ledger) ↔ ∃ id, p = enquiry.proposing id ∧ bookable id ∧
      ∀ other, bookable other → id.number ≤ other.number) ∧
    (matched = (.error (.noAvailableSlots enquiry.venue enquiry.partySize), ledger) ↔
      ∀ id, ¬ bookable id) ∧
    (∀ p after, matched = (.ok p, after) →
      (commit timeout today p).run serve after =
        (.ok (p.booked ledger.nextId), ledger.accept p) ∧
      ledger.lastId < ledger.nextId.number ∧
      ∀ b ∈ ledger.bookings, b.id.number < ledger.nextId.number) := by
  intro serve matched bookable
  have numbers : ledger.lastId.toNat + 1 < UInt64.size := by
    simp only [UInt64.size]
    omega
  have ran : matched = _ := run_matchSlot valid rfl ledger
  cases chosen : (candidates (map.list enquiry.venue enquiry.partySize) enquiry.partySize).find?
      fun table => ledger.Free (enquiry.proposing table.id) with
  | none =>
    have nothing : ∀ id, ¬ bookable id := not_bookable_of_none_chosen (unique _) valid chosen
    rw [chosen] at ran
    refine ⟨fun p => ?_, ?_, fun p after h => ?_⟩
    · simp [ran, nothing]
    · simpa [ran] using nothing
    · simp [ran] at h
  | some table =>
    obtain ⟨books, least⟩ : bookable table.id ∧
        ∀ other, bookable other → table.id.number ≤ other.number :=
      least_of_chosen (unique _) valid chosen
    rw [chosen] at ran
    simp only at ran
    refine ⟨fun p => ?_, ?_, fun p after h => ?_⟩
    · rw [ran]
      constructor
      · rintro ⟨⟩
        exact ⟨table.id, rfl, books, least⟩
      · rintro ⟨id, rfl, hid, hleast⟩
        have above := least id hid
        have below := hleast table.id books
        rw [UInt32.le_iff_toNat_le] at above below
        rw [TableId.ext_number (le_antisymm above below)]
    · refine iff_of_false (by simp [ran]) fun nothing => nothing table.id books
    · rw [ran] at h
      obtain ⟨⟨⟩, rfl⟩ := Prod.mk.inj h
      obtain ⟨admissible, free⟩ := run_commit_succeeds_iff.1 books
      refine ⟨run_commit_of_free admissible free, ?_, ?_⟩
      · rw [UInt64.lt_iff_toNat_lt, Ledger.toNat_nextId numbers]
        exact Nat.lt_succ_self _
      · exact reachable.numbered.id_lt_nextId numbers

end Map

/-- With the first table taken, an enquiry for its time is offered the second one, and that one
could be booked. -/
theorem second_table_offered :
    let ledger := (Ledger.store.insert Proposal.supper {}).2
    let enquiry : Enquiry :=
      { venue := Proposal.supper.venue, customer := ⟨"a@b.c"⟩, partySize := 2,
        date := Proposal.supper.date, window := Proposal.supper.window }
    let bookable := fun id => Bookable TableMap.sample.directory (.ofMillis 50) enquiry.date ledger
      (enquiry.proposing id)
    ledger.Reachable ∧ ledger.lastId.toNat < 2 ^ 64 - 1 ∧
      (∀ venue, ((TableMap.sample.tables venue).map (·.id)).Nodup) ∧
      enquiry.check enquiry.date = .ok () ∧
      ∃ id, enquiry.proposing ⟨2⟩ = enquiry.proposing id ∧ bookable id ∧
        ∀ other, bookable other → id.number ≤ other.number := by
  intro ledger enquiry bookable
  have reachable : ledger.Reachable := .insert _ .empty (by decide)
  have left : ledger.lastId.toNat < 2 ^ 64 - 1 := by decide
  have unique : ∀ venue, ((TableMap.sample.tables venue).map (·.id)).Nodup := by
    intro venue
    unfold TableMap.tables TableMap.sample
    rw [List.lookup_cons]
    split
    · decide
    · exact List.nodup_nil
  have valid : enquiry.check enquiry.date = .ok () := by decide
  have matched : (matchSlot (.ofMillis 50) enquiry.date enquiry).run
      (serving TableMap.sample.directory Ledger.store) ledger =
        (.ok (enquiry.proposing ⟨2⟩), ledger) := by
    have tables : TableMap.sample.list enquiry.venue enquiry.partySize =
        [⟨⟨2⟩, "booth", 6⟩, ⟨⟨1⟩, "window", 2⟩] := by decide
    have sorted : candidates [⟨⟨2⟩, "booth", 6⟩, ⟨⟨1⟩, "window", 2⟩] enquiry.partySize =
        [⟨⟨1⟩, "window", 2⟩, ⟨⟨2⟩, "booth", 6⟩] := by
      simp [candidates, dropRepeats, Table.seats, List.mergeSort,
        List.MergeSort.Internal.splitInTwo, enquiry]
    refine (run_matchSlot valid rfl ledger).trans ?_
    rw [tables, sorted]
    decide
  exact ⟨reachable, left, unique, valid,
    ((matchSlot_agrees_with_commit reachable left unique valid).1 _).1 matched⟩

end Engine

end TableBooking
