import TableBooking.Engine.Fault
import TableBooking.Proofs.Engine.Agreement

/-!
What a match proposes when neither collaborator is trusted. Of the tables and bookings that are
answered only their presence counts, and of the bookings only those at the enquiry's venue and date;
where no listed table seats the party, the store is not asked.
-/
namespace TableBooking

/-- A table number that may be proposed, as far as the answers tell: a listed table of this number
seats the party, and no listed booking of it at the enquiry's venue and date overlaps its window. -/
def Enquiry.OpenAt (enquiry : Enquiry) (tables : List Table) (bookings : List Booking)
    (id : TableId) : Prop :=
  (∃ table ∈ tables, table.id = id ∧ table.seats enquiry.partySize = true) ∧
    ∀ b ∈ bookings, b.venue = enquiry.venue → b.date = enquiry.date → b.table = id →
      b.window.overlaps enquiry.window = false

instance (enquiry : Enquiry) (tables : List Table) (bookings : List Booking) (id : TableId) :
    Decidable (enquiry.OpenAt tables bookings id) :=
  inferInstanceAs (Decidable (_ ∧ _))

/-- Neither the order of the answers, nor repetitions in them, nor bookings elsewhere or on other
dates matter. -/
theorem Enquiry.openAt_congr {enquiry : Enquiry} {tables tables' : List Table}
    {bookings bookings' : List Booking} (sameTables : ∀ table, table ∈ tables ↔ table ∈ tables')
    (sameBookings : ∀ b : Booking, b.venue = enquiry.venue → b.date = enquiry.date →
      (b ∈ bookings ↔ b ∈ bookings')) (id : TableId) :
    enquiry.OpenAt tables bookings id ↔ enquiry.OpenAt tables' bookings' id := by
  refine and_congr (exists_congr fun table => and_congr_left' (sameTables table)) ?_
  constructor
  · intro h b hb hvenue hdate
    exact h b ((sameBookings b hvenue hdate).2 hb) hvenue hdate
  · intro h b hb hvenue hdate
    exact h b ((sameBookings b hvenue hdate).1 hb) hvenue hdate

namespace Engine

def candidateFilter (enquiry : Enquiry) (tables : List Table) : Filter :=
  ⟨enquiry.venue, (candidates tables enquiry.partySize).map (·.id), enquiry.date⟩

structure Told {σ : Type} (serve : Dialogue.Serving σ) (s : σ) (enquiry : Enquiry)
    (tables : List Table) (bookings : List Booking) : Prop where
  listed : (serve (.listTables enquiry.venue enquiry.partySize) s).1 = .answered tables
  queried : (serve (.query (candidateFilter enquiry tables))
    (serve (.listTables enquiry.venue enquiry.partySize) s).2).1 = .answered bookings

/-- Asking a candidate's bookings among those answered finds it free exactly when its number is
open. -/
theorem overlapping_answered_eq_nil_iff {enquiry : Enquiry} {tables : List Table}
    {bookings : List Booking} {table : Table}
    (candidate : table ∈ candidates tables enquiry.partySize) :
    overlapping (bookings.filter (candidateFilter enquiry tables).admits) table.id
      enquiry.window = [] ↔ enquiry.OpenAt tables bookings table.id := by
  have seated := exists_candidate_iff.1 ⟨table, candidate, rfl⟩
  have asked : table.id ∈ (candidateFilter enquiry tables).tables :=
    List.mem_map_of_mem candidate
  rw [List.eq_nil_iff_forall_not_mem]
  simp only [mem_overlapping, List.mem_filter, Filter.admits_iff]
  constructor
  · intro none
    refine ⟨seated, fun b hb hvenue hdate htable => Bool.eq_false_iff.2 fun overlaps => ?_⟩
    exact none b ⟨⟨hb, hvenue, hdate, htable ▸ asked⟩, htable, overlaps⟩
  · rintro ⟨_, free⟩ b ⟨⟨hb, hvenue, hdate, _⟩, htable, overlaps⟩
    have apart := free b hb hvenue hdate htable
    simp [overlaps] at apart

/-- The first free candidate is the one of the least open number. -/
theorem firstFree_answered (enquiry : Enquiry) (tables : List Table) (bookings : List Booking) :
    firstFree (candidates tables enquiry.partySize)
        (bookings.filter (candidateFilter enquiry tables).admits) enquiry.window =
      (candidates tables enquiry.partySize).find? fun table =>
        enquiry.OpenAt tables bookings table.id :=
  firstFree_eq_find? fun _ => overlapping_answered_eq_nil_iff

variable {σ : Type} {serve : Dialogue.Serving σ} {today : Date} {enquiry : Enquiry}
  {tables : List Table} {bookings : List Booking} {s : σ} (timeout : Duration)

/-- Without a listed table for the party a match ends before it asks the store. -/
theorem run_matchSlot_of_none_seated (valid : enquiry.check today = .ok ())
    (listed : (serve (.listTables enquiry.venue enquiry.partySize) s).1 = .answered tables)
    (small : ∀ table ∈ tables, table.seats enquiry.partySize = false) :
    (matchSlot timeout today enquiry).run serve s =
      (.error (.noAvailableSlots enquiry.venue enquiry.partySize),
        (serve (.listTables enquiry.venue enquiry.partySize) s).2) := by
  have empty : candidates tables enquiry.partySize = [] := by
    refine List.eq_nil_iff_forall_not_mem.2 fun table ht => ?_
    obtain ⟨other, hother, _, seats⟩ := exists_candidate_iff.1 ⟨table, ht, rfl⟩
    simp [small other hother] at seats
  exact run_matchSlot_of_no_candidates valid (Prod.ext listed rfl) empty

theorem run_matchSlot_of_told (valid : enquiry.check today = .ok ())
    (told : Told serve s enquiry tables bookings) :
    ((matchSlot timeout today enquiry).run serve s).1 =
      match (candidates tables enquiry.partySize).find? fun table =>
          enquiry.OpenAt tables bookings table.id with
      | some table => .ok (enquiry.proposing table.id)
      | none => .error (.noAvailableSlots enquiry.venue enquiry.partySize) := by
  by_cases empty : candidates tables enquiry.partySize = []
  · rw [run_matchSlot_of_no_candidates valid (Prod.ext told.listed rfl) empty, empty]
    rfl
  · rw [run_matchSlot_of_candidates valid (Prod.ext told.listed rfl) empty
      (Prod.ext told.queried rfl), ← firstFree_answered]
    rfl

/-- A match either proposes the least open number, or there is none. -/
theorem matchSlot_decided (valid : enquiry.check today = .ok ())
    (told : Told serve s enquiry tables bookings) :
    (∃ id, ((matchSlot timeout today enquiry).run serve s).1 = .ok (enquiry.proposing id) ∧
      enquiry.OpenAt tables bookings id ∧
      ∀ other, enquiry.OpenAt tables bookings other → id.number ≤ other.number) ∨
    (((matchSlot timeout today enquiry).run serve s).1 =
        .error (.noAvailableSlots enquiry.venue enquiry.partySize) ∧
      ∀ id, ¬ enquiry.OpenAt tables bookings id) := by
  have ran := run_matchSlot_of_told timeout valid told
  cases chosen : (candidates tables enquiry.partySize).find? fun table =>
      enquiry.OpenAt tables bookings table.id with
  | some table =>
    rw [chosen] at ran
    refine Or.inl ⟨table.id, ran, by simpa using List.find?_some chosen, fun other isOpen => ?_⟩
    obtain ⟨candidate, hmem, rfl⟩ := exists_candidate_iff.2 isOpen.1
    exact number_le_of_find? (candidates_ascending _ _) chosen hmem (by simpa using isOpen)
  | none =>
    rw [chosen] at ran
    refine Or.inr ⟨ran, fun id isOpen => ?_⟩
    obtain ⟨candidate, hmem, rfl⟩ := exists_candidate_iff.2 isOpen.1
    simpa [isOpen] using List.find?_eq_none.1 chosen candidate hmem

theorem least_open_unique {id id' : TableId} (isOpen : enquiry.OpenAt tables bookings id)
    (least : ∀ other, enquiry.OpenAt tables bookings other → id.number ≤ other.number)
    (isOpen' : enquiry.OpenAt tables bookings id')
    (least' : ∀ other, enquiry.OpenAt tables bookings other → id'.number ≤ other.number) :
    id = id' := by
  have above := least id' isOpen'
  have below := least' id isOpen
  rw [UInt32.le_iff_toNat_le] at above below
  exact TableId.ext_number (le_antisymm above below)

/-- Whatever the collaborators are, they decide a match through which numbers are open only. -/
theorem matchSlot_eq_of_open_iff (timeout' : Duration) {τ : Type} {serve' : Dialogue.Serving τ}
    {s' : τ} {tables' : List Table} {bookings' : List Booking}
    (valid : enquiry.check today = .ok ()) (told : Told serve s enquiry tables bookings)
    (told' : Told serve' s' enquiry tables' bookings')
    (same : ∀ id, enquiry.OpenAt tables bookings id ↔ enquiry.OpenAt tables' bookings' id) :
    ((matchSlot timeout' today enquiry).run serve' s').1 =
      ((matchSlot timeout today enquiry).run serve s).1 := by
  rcases matchSlot_decided timeout valid told with ⟨id, ran, isOpen, least⟩ | ⟨ran, none⟩
  · rcases matchSlot_decided timeout' valid told' with
      ⟨id', ran', isOpen', least'⟩ | ⟨_, none'⟩
    · have : id' = id := least_open_unique ((same id').2 isOpen')
        (fun other h => least' other ((same other).1 h)) isOpen least
      rw [ran, ran', this]
    · exact absurd ((same id).1 isOpen) (none' id)
  · rcases matchSlot_decided timeout' valid told' with
      ⟨id', _, isOpen', _⟩ | ⟨ran', _⟩
    · exact absurd ((same id').2 isOpen') (none id')
    · rw [ran, ran']

/-- For a valid enquiry and whatever tables are listed. Whatever bookings are answered, the table
proposed is the one of the least open number, and none is proposed exactly when no number is open;
collaborators that list the same tables and answer the same bookings of the enquiry's venue and
date, in any order and any number of times, lead to the same. Where no listed table seats the party,
there is no proposal and the store is not asked. -/
theorem matchSlot_selects_least_open (valid : enquiry.check today = .ok ())
    (listed : (serve (.listTables enquiry.venue enquiry.partySize) s).1 = .answered tables) :
    (∀ bookings, Told serve s enquiry tables bookings →
      (∀ p, ((matchSlot timeout today enquiry).run serve s).1 = .ok p ↔
        ∃ id, p = enquiry.proposing id ∧ enquiry.OpenAt tables bookings id ∧
          ∀ other, enquiry.OpenAt tables bookings other → id.number ≤ other.number) ∧
      (((matchSlot timeout today enquiry).run serve s).1 =
          .error (.noAvailableSlots enquiry.venue enquiry.partySize) ↔
        ∀ id, ¬ enquiry.OpenAt tables bookings id) ∧
      ∀ (τ : Type) (serve' : Dialogue.Serving τ) (s' : τ) (timeout' : Duration)
        (tables' : List Table) (bookings' : List Booking),
        Told serve' s' enquiry tables' bookings' →
        (∀ table, table ∈ tables ↔ table ∈ tables') →
        (∀ b : Booking, b.venue = enquiry.venue → b.date = enquiry.date →
          (b ∈ bookings ↔ b ∈ bookings')) →
        ((matchSlot timeout' today enquiry).run serve' s').1 =
          ((matchSlot timeout today enquiry).run serve s).1) ∧
    ((∀ table ∈ tables, table.seats enquiry.partySize = false) →
      (matchSlot timeout today enquiry).run serve s =
        (.error (.noAvailableSlots enquiry.venue enquiry.partySize),
          (serve (.listTables enquiry.venue enquiry.partySize) s).2)) := by
  refine ⟨fun bookings told => ⟨?_, ?_, ?_⟩, run_matchSlot_of_none_seated timeout valid listed⟩
  · intro p
    rcases matchSlot_decided timeout valid told with ⟨id, ran, isOpen, least⟩ | ⟨ran, none⟩
    · rw [ran]
      constructor
      · rintro ⟨⟩
        exact ⟨id, rfl, isOpen, least⟩
      · rintro ⟨id', rfl, isOpen', least'⟩
        rw [least_open_unique isOpen least isOpen' least']
    · simp [ran, none]
  · rcases matchSlot_decided timeout valid told with ⟨id, ran, isOpen, _⟩ | ⟨ran, none⟩
    · exact iff_of_false (by simp [ran]) fun none => none id isOpen
    · exact iff_of_true ran none
  · intro τ serve' s' timeout' tables' bookings' told' sameTables sameBookings
    exact matchSlot_eq_of_open_iff timeout timeout' valid told told'
      (Enquiry.openAt_congr sameTables sameBookings)

def hearsay (tables : List Table) (bookings : List Booking) : Faults where
  directory := some { misbehaviour := .answers tables [] [] }
  store := some { misbehaviour := .answers [] bookings [] }

theorem told_hearsay {σ : Type} (tables : List Table) (bookings : List Booking)
    (timeout : Duration) (serve : Dialogue.Serving σ) (enquiry : Enquiry) (s : σ) :
    Told (faulty (hearsay tables bookings) timeout serve) s enquiry tables bookings :=
  ⟨rfl, rfl⟩

/-- Four people are told of a table twice with different capacities, of a booking of it, and of
bookings that do not concern them. They are offered the next table, and the same if they are told in
another order and of less. -/
theorem hearsay_offers_booth :
    let enquiry : Enquiry :=
      { venue := Proposal.supper.venue, customer := ⟨"a@b.c"⟩, partySize := 4,
        date := Proposal.supper.date, window := Proposal.supper.window }
    let bar : Table := ⟨⟨1⟩, "bar", 8⟩
    let booth : Table := ⟨⟨3⟩, "booth", 4⟩
    let stool : Table := ⟨⟨1⟩, "stool", 1⟩
    let taken := Proposal.supper.booked ⟨1⟩
    let elsewhere := { (enquiry.proposing ⟨3⟩).booked ⟨2⟩ with venue := ⟨"elsewhere"⟩ }
    let later := Proposal.nightcap.booked ⟨3⟩
    let serve := faulty (hearsay [booth, stool, bar, booth] [elsewhere, taken, taken, later])
      (.ofMillis 50) (serving TableMap.sample.directory Ledger.store)
    let serve' := faulty (hearsay [stool, bar, booth] [later, taken])
      (.ofMillis 50) (serving TableMap.sample.directory Ledger.store)
    let matched := fun serve => ((matchSlot (.ofMillis 50) enquiry.date enquiry).run serve {}).1
    enquiry.check enquiry.date = .ok () ∧
      Told serve {} enquiry [booth, stool, bar, booth] [elsewhere, taken, taken, later] ∧
      Told serve' {} enquiry [stool, bar, booth] [later, taken] ∧
      matched serve = .ok (enquiry.proposing ⟨3⟩) ∧ matched serve' = matched serve := by
  intro enquiry bar booth stool taken elsewhere later serve serve' matched
  have valid : enquiry.check enquiry.date = .ok () := by decide
  have told : Told serve {} enquiry [booth, stool, bar, booth] [elsewhere, taken, taken, later] :=
    told_hearsay ..
  have told' : Told serve' {} enquiry [stool, bar, booth] [later, taken] := told_hearsay ..
  have isOpen : enquiry.OpenAt [booth, stool, bar, booth] [elsewhere, taken, taken, later] ⟨3⟩ := by
    decide
  have least : ∀ other,
      enquiry.OpenAt [booth, stool, bar, booth] [elsewhere, taken, taken, later] other →
        (3 : UInt32) ≤ other.number := by
    rintro other h
    obtain ⟨table, hmem, rfl, _⟩ := h.1
    have seen : ∀ table ∈ [booth, stool, bar, booth], table.id.number < 3 →
        ¬ enquiry.OpenAt [booth, stool, bar, booth] [elsewhere, taken, taken, later] table.id := by
      decide
    exact UInt32.not_lt.1 fun below => seen table hmem below h
  have same : ∀ b : Booking, b.venue = enquiry.venue → b.date = enquiry.date →
      (b ∈ [elsewhere, taken, taken, later] ↔ b ∈ [later, taken]) := by
    intro b hvenue _
    have here : b ≠ elsewhere := fun h => by rw [h] at hvenue; exact absurd hvenue (by decide)
    simp only [List.mem_cons, List.not_mem_nil, here, or_false, false_or]
    tauto
  obtain ⟨proposed, _, unchanged⟩ :=
    (matchSlot_selects_least_open (.ofMillis 50) valid told.listed).1 _ told
  refine ⟨valid, told, told', (proposed _).2 ⟨⟨3⟩, rfl, isOpen, least⟩, ?_⟩
  exact unchanged Ledger serve' {} (.ofMillis 50) _ _ told' (by simp [or_comm, or_left_comm]) same

end Engine

end TableBooking
