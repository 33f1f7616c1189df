import TableBooking.Proofs.Engine.Agreement

/-!
Listing the tables for a party and looking up one of them. A map may hold several tables of one
number; the listing counts the first that seats the party, the lookup the first of all. The two
agree exactly where, of the tables of one number, the first seats the most.
-/
namespace TableBooking

/-- No table of a venue seats more than the first table of its number. -/
def TableMap.LargestFirst (map : TableMap) (venue : VenueId) : Prop :=
  ∀ table ∈ map.tables venue, ∃ first,
    map.get? venue table.id = some first ∧ table.capacity ≤ first.capacity

namespace Engine

/-- A number is listed for a party exactly when the table that is looked up seats the party. -/
def ListingAgrees (map : TableMap) (venue : VenueId) (partySize : UInt32) (listed : List Table) :
    Prop :=
  ∀ id, (∃ table ∈ listed, table.id = id) ↔
    ∃ table, map.directory.get venue id = .ok (some table) ∧ table.seats partySize = true

variable {map : TableMap} {venue : VenueId} {partySize : UInt32}

theorem exists_candidate_of_map {id : TableId} :
    (∃ table ∈ candidates (map.list venue partySize) partySize, table.id = id) ↔
      ∃ table ∈ map.tables venue, table.id = id ∧ table.seats partySize = true := by
  rw [exists_candidate_iff]
  constructor
  · rintro ⟨table, hmem, same, seats⟩
    exact ⟨table, (List.mem_filter.1 hmem).1, same, seats⟩
  · rintro ⟨table, hmem, same, seats⟩
    exact ⟨table, List.mem_filter.2 ⟨hmem, seats⟩, same, seats⟩

theorem listingAgrees_of_largestFirst (largest : map.LargestFirst venue) :
    ListingAgrees map venue partySize (candidates (map.list venue partySize) partySize) := by
  intro id
  rw [exists_candidate_of_map]
  constructor
  · rintro ⟨table, hmem, rfl, seats⟩
    obtain ⟨first, found, above⟩ := largest table hmem
    refine ⟨first, congrArg Except.ok found, ?_⟩
    rw [Table.seats_iff] at seats ⊢
    rw [UInt32.le_iff_toNat_le] at above
    omega
  · rintro ⟨table, found, seats⟩
    have found := Except.ok.inj found
    exact ⟨table, List.mem_of_find?_eq_some found, by simpa using List.find?_some found, seats⟩

/-- A party as large as a table makes the difference: the table is listed for it, so the first table
of its number has to seat as many. -/
theorem largestFirst_of_listingAgrees
    (agrees : ∀ partySize, partySize ≠ 0 →
      ListingAgrees map venue partySize (candidates (map.list venue partySize) partySize)) :
    map.LargestFirst venue := by
  intro table hmem
  by_cases empty : table.capacity = 0
  · cases found : map.get? venue table.id with
    | none => simpa using List.find?_eq_none.1 found table hmem
    | some first =>
      refine ⟨first, rfl, ?_⟩
      rw [empty]
      exact UInt32.zero_le
  · have listed := exists_candidate_of_map.2 ⟨table, hmem, rfl, (table.seats_iff _).2 le_rfl⟩
    obtain ⟨first, found, seats⟩ := (agrees table.capacity empty table.id).1 listed
    refine ⟨first, Except.ok.inj found, ?_⟩
    rw [UInt32.le_iff_toNat_le]
    exact (first.seats_iff _).1 seats

variable {σ : Type} {serve : Dialogue.Serving σ} {store : Store σ} {timeout : Duration}
  {today : Date} {enquiry : Enquiry} {p : Proposal} {tables : List Table} {s t u : σ}

/-- Whatever the store replies, what is proposed is a candidate among the listed tables. -/
theorem proposed_candidate
    (listed : serve (.listTables enquiry.venue enquiry.partySize) s = (.answered tables, t))
    (proposed : (matchSlot timeout today enquiry).run serve s = (.ok p, u)) :
    ∃ table ∈ candidates tables enquiry.partySize, p = enquiry.proposing table.id := by
  cases valid : enquiry.check today with
  | error rule =>
    simp only [matchSlot, valid, Dialogue.obeying, Dialogue.refused_bind, Dialogue.run] at proposed
    cases proposed
  | ok _ =>
    simp only [matchSlot, valid, Dialogue.obeying, Dialogue.done_bind] at proposed
    rw [Dialogue.run_bind, run_findTables (positive_of_check valid) listed] at proposed
    by_cases empty : candidates tables enquiry.partySize = []
    · simp only [empty, if_true, Dialogue.run] at proposed
      cases proposed
    · simp only [empty, if_false] at proposed
      rw [Dialogue.run_bind] at proposed
      split at proposed
      · split at proposed
        · rename_i table chosen
          cases proposed
          exact ⟨table, List.mem_of_find?_eq_some chosen, rfl⟩
        · cases proposed
      · cases proposed

theorem run_checkTable_of_seated {table : Table}
    (found : map.directory.get p.venue p.table = .ok (some table))
    (seats : table.seats p.partySize = true) :
    (checkTable timeout p).run (serving map.directory store) s = (.ok (), s) := by
  unfold checkTable
  rw [Dialogue.run_call_answered (serving_getTable found)]
  simp only [seats, if_true]
  rfl

/-- Listing and lookup agree on a venue, for parties of every size, exactly where the first table of
each number seats the most. There a commit never finds a table missing or too small that was just
proposed from the same map. -/
theorem listing_agrees_iff_largest_first (map : TableMap) (venue : VenueId) (store : Store σ)
    (timeout : Duration) (s : σ) :
    ((∀ partySize, partySize ≠ 0 → ∃ listed,
        (findTables timeout venue partySize).run (serving map.directory store) s =
          (.ok listed, s) ∧ ListingAgrees map venue partySize listed) ↔
      map.LargestFirst venue) ∧
    (map.LargestFirst venue → ∀ today enquiry p t, enquiry.venue = venue →
      (matchSlot timeout today enquiry).run (serving map.directory store) s = (.ok p, t) →
      (checkTable timeout p).run (serving map.directory store) t = (.ok (), t)) := by
  have listed : ∀ partySize, serving map.directory store (.listTables venue partySize) s =
      (.answered (map.list venue partySize), s) := fun _ => serving_listTables rfl
  refine ⟨⟨?_, ?_⟩, ?_⟩
  · intro agree
    apply largestFirst_of_listingAgrees
    intro partySize positive
    obtain ⟨tables, found, agrees⟩ := agree partySize positive
    rw [run_findTables positive (listed partySize)] at found
    cases found
    exact agrees
  · intro largest partySize positive
    exact ⟨_, run_findTables positive (listed partySize), listingAgrees_of_largestFirst largest⟩
  · rintro largest today enquiry p t rfl proposed
    obtain ⟨table, candidate, rfl⟩ := proposed_candidate (listed _) proposed
    obtain ⟨first, found, seats⟩ :=
      (listingAgrees_of_largestFirst largest table.id).1 ⟨table, candidate, rfl⟩
    exact run_checkTable_of_seated found seats

/-- Two tables of one number, the smaller one first: the larger one is proposed for a party of four,
and the commit of that proposal finds the smaller one. -/
theorem small_table_in_front :
    let map : TableMap := ⟨[(⟨"hop-and-vine"⟩, [⟨⟨1⟩, "stool", 2⟩, ⟨⟨1⟩, "booth", 6⟩])]⟩
    let enquiry : Enquiry :=
      { venue := ⟨"hop-and-vine"⟩, customer := ⟨"test@test.test"⟩, partySize := 4,
        date := Proposal.supper.date, window := Proposal.supper.window }
    let serve := serving map.directory Ledger.store
    (findTables (.ofMillis 50) enquiry.venue 4).run serve {} = (.ok [⟨⟨1⟩, "booth", 6⟩], {}) ∧
      map.directory.get enquiry.venue ⟨1⟩ = .ok (some ⟨⟨1⟩, "stool", 2⟩) ∧
      (matchSlot (.ofMillis 50) enquiry.date enquiry).run serve {} =
        (.ok (enquiry.proposing ⟨1⟩), {}) ∧
      (commit (.ofMillis 50) enquiry.date (enquiry.proposing ⟨1⟩)).run serve {} =
        (.error (.invalidRequest (.tableTooSmall ⟨1⟩ 2 4)), {}) := by
  intro map enquiry serve
  have tables : map.list enquiry.venue 4 = [⟨⟨1⟩, "booth", 6⟩] := by decide
  have sole : candidates [⟨⟨1⟩, "booth", 6⟩] 4 = [⟨⟨1⟩, "booth", 6⟩] := by
    simp [candidates, dropRepeats, Table.seats]
  refine ⟨?_, by decide, ?_, by decide⟩
  · refine (run_findTables (by decide) (serving_listTables rfl)).trans ?_
    rw [tables, sole]
  · refine (run_matchSlot (by decide) rfl {}).trans ?_
    have partySize : enquiry.partySize = 4 := rfl
    rw [partySize, tables, sole]
    decide

end Engine

end TableBooking
