import TableBooking.Engine.Requests
import TableBooking.Proofs.Ledger.Invariant

/-!
What single requests come to when they are run against collaborators that reply in time. A commit
is decided by the rules, the table and whether the ledger is free; its own look at the bookings and
the ledger's exclusion decide the same question.
-/
namespace TableBooking

theorem checkRequest_eq_ok_iff (venue : VenueId) (customer : CustomerId) (partySize : UInt32)
    (date : Date) (window : Window) (today : Date) :
    checkRequest venue customer partySize date window today = .ok () ↔
      Text.allBlank venue.text = false ∧ Text.allBlank customer.text = false ∧ partySize ≠ 0 ∧
        ¬ date < today ∧ window.liesWithin date = true := by
  unfold checkRequest
  split
  · simp [*]
  split
  · simp [*]
  split
  · simp [*]
  split
  · simp [*]
  split <;> simp_all

theorem Proposal.liesWithin_of_check {p : Proposal} {today : Date} (h : p.check today = .ok ()) :
    p.window.liesWithin p.date = true :=
  ((checkRequest_eq_ok_iff ..).1 h).2.2.2.2

theorem Filter.admits_iff (filter : Filter) (b : Booking) :
    filter.admits b = true ↔
      b.venue = filter.venue ∧ b.date = filter.date ∧ b.table ∈ filter.tables := by
  simp [Filter.admits, and_assoc]

theorem mem_overlapping {bookings : List Booking} {table : TableId} {window : Window}
    {b : Booking} : b ∈ overlapping bookings table window ↔
      b ∈ bookings ∧ b.table = table ∧ b.window.overlaps window = true := by
  simp [overlapping]

/-- Of the bookings that are answered for some tables, those on a proposed table overlap that clash
with the proposal. -/
theorem overlapping_admitted_eq_nil_iff (bookings : List Booking) (p : Proposal)
    {tables : List TableId} (h : p.table ∈ tables) :
    overlapping (bookings.filter (Filter.admits ⟨p.venue, tables, p.date⟩)) p.table p.window = [] ↔
      ∀ b ∈ bookings, b.clashesWith p = false := by
  rw [List.eq_nil_iff_forall_not_mem]
  simp only [mem_overlapping, List.mem_filter, Filter.admits_iff]
  constructor
  · intro none b hb
    rw [Bool.eq_false_iff]
    intro clash
    obtain ⟨hv, ht, hd, hw⟩ := (Booking.clashesWith_iff b p).1 clash
    have admitted : b.venue = p.venue ∧ b.date = p.date ∧ b.table ∈ tables := ⟨hv, hd, ht ▸ h⟩
    exact none b ⟨⟨hb, admitted⟩, ht, hw⟩
  · rintro free b ⟨⟨hb, hv, hd, _⟩, ht, hw⟩
    have clash := (Booking.clashesWith_iff b p).2 ⟨hv, ht, hd, hw⟩
    simp [free b hb] at clash

/-- Looking at the bookings of some tables finds a table taken exactly when a stored booking
clashes with the proposal of it. -/
theorem overlapping_query_eq_nil_iff (ledger : Ledger) (p : Proposal) {tables : List TableId}
    (h : p.table ∈ tables) :
    overlapping ((ledger.query ⟨p.venue, tables, p.date⟩).filter
        (Filter.admits ⟨p.venue, tables, p.date⟩)) p.table p.window = [] ↔ ledger.Free p := by
  rw [Ledger.query, List.filter_filter]
  simp only [Bool.and_self]
  exact overlapping_admitted_eq_nil_iff ledger.bookings p h

namespace Dialogue

variable {σ α : Type} {serve : Serving σ} {timeout : Duration} {call : Call} {s t : σ}

theorem run_call_answered {answer : call.Answer} (h : serve call s = (.answered answer, t))
    (f : call.Answer → Dialogue α) :
    (Dialogue.call timeout call >>= f).run serve s = (f answer).run serve t := by
  simp only [Dialogue.call, ask_bind, run, h, done_bind]

theorem run_call_failed {failure : call.Failure} (h : serve call s = (.failed failure, t))
    (f : call.Answer → Dialogue α) :
    (Dialogue.call timeout call >>= f).run serve s =
      (.error (.unavailable call.collaborator (call.failureMessage failure)), t) := by
  simp only [Dialogue.call, ask_bind, run, h, refused_bind]

end Dialogue

section Serving

variable {σ : Type} {directory : Directory} {store : Store σ} {s : σ}

theorem serving_listTables {venue : VenueId} {leastCapacity : UInt32} {tables : List Table}
    (h : directory.list venue leastCapacity = .ok tables) :
    serving directory store (.listTables venue leastCapacity) s = (.answered tables, s) := by
  simp only [serving, h, Reply.ofExcept]

theorem serving_listTables_failed {venue : VenueId} {leastCapacity : UInt32} {e : DirectoryError}
    (h : directory.list venue leastCapacity = .error e) :
    serving directory store (.listTables venue leastCapacity) s = (.failed e, s) := by
  simp only [serving, h, Reply.ofExcept]

theorem serving_getTable {venue : VenueId} {table : TableId} {found : Option Table}
    (h : directory.get venue table = .ok found) :
    serving directory store (.getTable venue table) s = (.answered found, s) := by
  simp only [serving, h, Reply.ofExcept]

theorem serving_getTable_failed {venue : VenueId} {table : TableId} {e : DirectoryError}
    (h : directory.get venue table = .error e) :
    serving directory store (.getTable venue table) s = (.failed e, s) := by
  simp only [serving, h, Reply.ofExcept]

theorem serving_query (filter : Filter) (ledger : Ledger) :
    serving directory Ledger.store (.query filter) ledger =
      (.answered (ledger.query filter), ledger) :=
  rfl

theorem serving_delete (ids : List BookingId) (ledger : Ledger) :
    serving directory Ledger.store (.delete ids) ledger =
      (.answered (ledger.delete ids).1, (ledger.delete ids).2) :=
  rfl

theorem serving_onDate (venue : VenueId) (date : Date) (ledger : Ledger) :
    serving directory Ledger.store (.onDate venue date) ledger =
      (.answered (ledger.onDate venue date), ledger) :=
  rfl

theorem serving_insert_of_free {p : Proposal} {ledger : Ledger} (free : ledger.Free p) :
    serving directory Ledger.store (.insert p) ledger =
      (.answered (p.booked ledger.nextId), ledger.accept p) := by
  simp only [serving, Ledger.store_insert_of_free free, Reply.ofExcept]

theorem serving_insert_of_not_free (directory : Directory) {p : Proposal} {ledger : Ledger}
    (taken : ¬ ledger.Free p) :
    ∃ existing, serving directory Ledger.store (.insert p) ledger =
      (.failed (.exclusion existing), ledger) := by
  obtain ⟨clash, _, _, refused⟩ := Ledger.store_insert_of_not_free taken
  exact ⟨clash.id, by simp only [serving, refused, Reply.ofExcept]⟩

end Serving

namespace Engine

/-- What a commit wants of a proposal before it looks at the bookings. -/
structure Admissible (directory : Directory) (today : Date) (p : Proposal) : Prop where
  obeys : p.check today = .ok ()
  seated : ∃ table, directory.get p.venue p.table = .ok (some table) ∧
    table.seats p.partySize = true

variable {directory : Directory} {timeout : Duration} {today : Date} {p : Proposal}

/-- What is left of a commit once it has been told of these bookings. -/
def place (timeout : Duration) (p : Proposal) (existing : List Booking) : Dialogue Booking :=
  match overlapping existing p.table p.window with
  | _ :: _ => .refused (.conflict p.table p.date)
  | [] => insertProposal timeout p

theorem place_of_nil {existing : List Booking}
    (none : overlapping existing p.table p.window = []) :
    place timeout p existing = insertProposal timeout p := by
  simp only [place, none]

theorem place_of_ne_nil {existing : List Booking}
    (some : overlapping existing p.table p.window ≠ []) :
    place timeout p existing = .refused (.conflict p.table p.date) := by
  obtain ⟨b, rest, listed⟩ := List.exists_cons_of_ne_nil some
  simp only [place, listed]

/-- What is left of a commit once the rules are kept and the table is found: the look at the
bookings, and the insertion. -/
def secure (timeout : Duration) (p : Proposal) : Dialogue Booking :=
  bookingsFor timeout p.venue [p.table] p.date >>= place timeout p

theorem commit_of_check (h : p.check today = .ok ()) :
    commit timeout today p = checkTable timeout p >>= fun _ => secure timeout p := by
  simp only [commit, h, Dialogue.obeying, Dialogue.done_bind]
  rfl

theorem commit_of_broken_rule {rule : Rule} (h : p.check today = .error rule) :
    commit timeout today p = .refused (.invalidRequest rule) := by
  simp only [commit, h, Dialogue.obeying, Dialogue.refused_bind]

theorem run_checkTable {found : Option Table}
    (h : directory.get p.venue p.table = .ok found) (ledger : Ledger) :
    (checkTable timeout p).run (serving directory Ledger.store) ledger =
      (match found with
        | none => .error (.invalidRequest (.unknownTable p.table))
        | some table =>
          if table.seats p.partySize then .ok ()
          else .error (.invalidRequest (.tableTooSmall table.id table.capacity p.partySize)),
        ledger) := by
  unfold checkTable
  rw [Dialogue.run_call_answered (serving_getTable h)]
  cases found with
  | none => rfl
  | some table => by_cases seats : table.seats p.partySize = true <;> simp [seats, Dialogue.run]

theorem run_checkTable_failed {e : DirectoryError}
    (h : directory.get p.venue p.table = .error e) (ledger : Ledger) :
    (checkTable timeout p).run (serving directory Ledger.store) ledger =
      (.error (.unavailable .tableDirectory e.message), ledger) := by
  unfold checkTable
  rw [Dialogue.run_call_failed (serving_getTable_failed h)]
  rfl

theorem run_bookingsFor {venue : VenueId} {tables : List TableId} (h : tables ≠ []) (date : Date)
    (ledger : Ledger) :
    (bookingsFor timeout venue tables date).run (serving directory Ledger.store) ledger =
      (.ok ((ledger.query ⟨venue, tables, date⟩).filter (Filter.admits ⟨venue, tables, date⟩)),
        ledger) := by
  unfold bookingsFor
  rw [if_neg h, Dialogue.run_call_answered (serving_query _ ledger)]
  rfl

theorem run_insertProposal_of_free {ledger : Ledger} (free : ledger.Free p) :
    (insertProposal timeout p).run (serving directory Ledger.store) ledger =
      (.ok (p.booked ledger.nextId), ledger.accept p) := by
  simp only [insertProposal, Dialogue.run, serving_insert_of_free free]

theorem run_secure_of_free {ledger : Ledger} (free : ledger.Free p) :
    (secure timeout p).run (serving directory Ledger.store) ledger =
      (.ok (p.booked ledger.nextId), ledger.accept p) := by
  have none := (overlapping_query_eq_nil_iff ledger p (List.mem_singleton.2 rfl)).2 free
  unfold secure
  rw [Dialogue.run_bind, run_bookingsFor (List.cons_ne_nil _ _)]
  simp only [place_of_nil none]
  exact run_insertProposal_of_free free

theorem run_secure_of_not_free {ledger : Ledger} (taken : ¬ ledger.Free p) :
    (secure timeout p).run (serving directory Ledger.store) ledger =
      (.error (.conflict p.table p.date), ledger) := by
  have some := mt (overlapping_query_eq_nil_iff ledger p (List.mem_singleton.2 rfl)).1 taken
  unfold secure
  rw [Dialogue.run_bind, run_bookingsFor (List.cons_ne_nil _ _)]
  simp only [place_of_ne_nil some]
  rfl

theorem run_commit_of_admissible (h : Admissible directory today p) (ledger : Ledger) :
    (commit timeout today p).run (serving directory Ledger.store) ledger =
      (secure timeout p).run (serving directory Ledger.store) ledger := by
  obtain ⟨table, found, seats⟩ := h.seated
  rw [commit_of_check h.obeys, Dialogue.run_bind, run_checkTable found]
  simp only [seats, if_true]

theorem run_commit_of_free (h : Admissible directory today p) {ledger : Ledger}
    (free : ledger.Free p) :
    (commit timeout today p).run (serving directory Ledger.store) ledger =
      (.ok (p.booked ledger.nextId), ledger.accept p) :=
  (run_commit_of_admissible h ledger).trans (run_secure_of_free free)

theorem run_commit_of_not_free (h : Admissible directory today p) {ledger : Ledger}
    (taken : ¬ ledger.Free p) :
    (commit timeout today p).run (serving directory Ledger.store) ledger =
      (.error (.conflict p.table p.date), ledger) :=
  (run_commit_of_admissible h ledger).trans (run_secure_of_not_free taken)

/-- A proposal that breaks a rule or has no table of its size is refused in every state for the same
reason, which is no conflict. -/
theorem run_commit_of_not_admissible (timeout : Duration) (h : ¬ Admissible directory today p) :
    ∃ e, (∀ table date, e ≠ .conflict table date) ∧ ∀ ledger : Ledger,
      (commit timeout today p).run (serving directory Ledger.store) ledger =
        (.error e, ledger) := by
  cases checked : p.check today with
  | error rule =>
    refine ⟨.invalidRequest rule, by simp, fun ledger => ?_⟩
    rw [commit_of_broken_rule checked]
    rfl
  | ok _ =>
    cases got : directory.get p.venue p.table with
    | error failure =>
      refine ⟨.unavailable .tableDirectory failure.message, by simp, fun ledger => ?_⟩
      rw [commit_of_check checked, Dialogue.run_bind, run_checkTable_failed got]
    | ok found =>
      cases found with
      | none =>
        refine ⟨.invalidRequest (.unknownTable p.table), by simp, fun ledger => ?_⟩
        rw [commit_of_check checked, Dialogue.run_bind, run_checkTable got]
      | some table =>
        have small : ¬ table.seats p.partySize = true := fun seats => h ⟨checked, table, got, seats⟩
        refine ⟨.invalidRequest (.tableTooSmall table.id table.capacity p.partySize), by simp,
          fun ledger => ?_⟩
        rw [commit_of_check checked, Dialogue.run_bind, run_checkTable got]
        simp only [small, Bool.false_eq_true, if_false]

/-- A commit succeeds exactly for an admissible proposal whose place is free. -/
theorem run_commit_succeeds_iff {ledger : Ledger} :
    (∃ b after, (commit timeout today p).run (serving directory Ledger.store) ledger =
      (.ok b, after)) ↔ Admissible directory today p ∧ ledger.Free p := by
  constructor
  · rintro ⟨b, after, ran⟩
    by_cases h : Admissible directory today p
    · by_cases free : ledger.Free p
      · exact ⟨h, free⟩
      · rw [run_commit_of_not_free h free] at ran
        cases ran
    · obtain ⟨e, _, refused⟩ := run_commit_of_not_admissible timeout h
      rw [refused] at ran
      cases ran
  · rintro ⟨h, free⟩
    exact ⟨_, _, run_commit_of_free h free⟩

end Engine

/-- Two tables of one venue, the higher number first. -/
def TableMap.sample : TableMap :=
  ⟨[(⟨"hop-and-vine"⟩, [⟨⟨2⟩, "booth", 6⟩, ⟨⟨1⟩, "window", 2⟩])]⟩

end TableBooking
