import Mathlib.Data.List.Perm.Basic
import TableBooking.Proofs.Engine.Requests
import TableBooking.Proofs.Ledger.History

/-!
Commits made one after another. Which of several proposals are booked depends on their order, but in
every order no two of them clash and none is refused that clashes with nothing; proposals that leave
room for each other and for the earlier bookings are all booked, with the same bookings in the end.
-/
namespace TableBooking

/-- Only one of two rivals can be booked: same venue, table and date, and windows that overlap. -/
def Proposal.Rivals (p q : Proposal) : Prop :=
  p.venue = q.venue ∧ p.table = q.table ∧ p.date = q.date ∧ p.window.overlaps q.window = true

instance (p q : Proposal) : Decidable (p.Rivals q) :=
  inferInstanceAs (Decidable (_ ∧ _))

theorem Proposal.Rivals.symm {p q : Proposal} (h : p.Rivals q) : q.Rivals p := by
  rcases h with ⟨venue, table, date, overlaps⟩
  rw [Window.overlaps_comm] at overlaps
  exact ⟨venue.symm, table.symm, date.symm, overlaps⟩

namespace Ledger

variable {ledger : Ledger}

theorem free_iff {p : Proposal} :
    ledger.Free p ↔ ∀ b ∈ ledger.bookings, ¬ b.proposal.Rivals p := by
  constructor
  · intro free b hb rivals
    have clash := (Booking.clashesWith_iff b p).2 rivals
    simp [free b hb] at clash
  · intro apart b hb
    rw [Bool.eq_false_iff]
    intro clash
    exact apart b hb ((Booking.clashesWith_iff b p).1 clash)

theorem Invariant.apart (h : Invariant ledger) :
    ledger.bookings.Pairwise fun a b => ¬ a.proposal.Rivals b.proposal := by
  apply List.pairwise_map.2
  apply h.exclusive.imp
  intro d e apart rivals
  exact apart ((Booking.clashesWith_iff d.2 e.2.proposal).2 rivals)

/-- Taking one proposal leaves room for those that are no rivals of it. -/
theorem free_accept (h : Numbered ledger) (left : ledger.lastId.toNat + 1 < UInt64.size)
    {p q : Proposal} (free : ledger.Free q) (apart : ¬ p.Rivals q) : (ledger.accept p).Free q := by
  rw [free_iff] at free ⊢
  intro b hb
  rw [bookings_accept h left p] at hb
  rcases List.mem_append.1 hb with earlier | new
  · exact free b earlier
  · rw [List.mem_singleton.1 new]
    exact apart

end Ledger

namespace Engine

def commits (directory : Directory) (timeout : Duration) (today : Date) :
    List Proposal → Ledger → List (Except BookingError Booking) × Ledger
  | [], ledger => ([], ledger)
  | p :: order, ledger =>
    let (result, after) := (commit timeout today p).run (serving directory Ledger.store) ledger
    let (results, last) := commits directory timeout today order after
    (result :: results, last)

def accepted (results : List (Except BookingError Booking)) : List Booking :=
  results.filterMap Except.toOption

/-- A proposal was booked, or it met with a conflict and the ledger has a rival of it. -/
def Decided (last : Ledger) (p : Proposal) (result : Except BookingError Booking) : Prop :=
  (∃ b, result = .ok b ∧ b.proposal = p) ∨
    result = .error (.conflict p.table p.date) ∧ ∃ b ∈ last.bookings, b.proposal.Rivals p

structure Succession (ledger : Ledger) (order : List Proposal)
    (results : List (Except BookingError Booking)) (last : Ledger) : Prop where
  numbered : last.Numbered
  kept : last.bookings = ledger.bookings ++ accepted results
  decided : List.Forall₂ (Decided last) order results

variable {directory : Directory} {timeout : Duration} {today : Date} {ledger after last : Ledger}
  {p : Proposal} {order : List Proposal} {results : List (Except BookingError Booking)}

theorem Succession.booked (h : Succession (ledger.accept p) order results last)
    (numbered : ledger.Numbered) (left : ledger.lastId.toNat + 1 < UInt64.size) :
    Succession ledger (p :: order) (.ok (p.booked ledger.nextId) :: results) last := by
  constructor
  · exact h.numbered
  · rw [h.kept, Ledger.bookings_accept numbered left, List.append_assoc]
    rfl
  · exact .cons (Or.inl ⟨_, rfl, rfl⟩) h.decided

theorem Succession.refused (h : Succession ledger order results last)
    (taken : ¬ ledger.Free p) :
    Succession ledger (p :: order) (.error (.conflict p.table p.date) :: results) last := by
  constructor
  · exact h.numbered
  · exact h.kept
  · obtain ⟨b, hb, rivals⟩ := Ledger.not_free_iff.1 taken
    have stays : b ∈ last.bookings := by
      rw [h.kept]
      exact List.mem_append_left _ hb
    exact .cons (Or.inr ⟨rfl, b, stays, rivals⟩) h.decided

theorem commits_succession (numbered : ledger.Numbered)
    (admissible : ∀ p ∈ order, Admissible directory today p)
    (left : ledger.lastId.toNat + order.length < UInt64.size) :
    Succession ledger order (commits directory timeout today order ledger).1
      (commits directory timeout today order ledger).2 := by
  induction order generalizing ledger with
  | nil => exact ⟨numbered, (List.append_nil _).symm, .nil⟩
  | cons p order ih =>
    have first := admissible p List.mem_cons_self
    have others : ∀ q ∈ order, Admissible directory today q :=
      fun q hq => admissible q (List.mem_cons_of_mem _ hq)
    rw [List.length_cons] at left
    unfold commits
    by_cases free : ledger.Free p
    · have next : (ledger.accept p).lastId.toNat = ledger.lastId.toNat + 1 :=
        Ledger.toNat_nextId (by omega)
      rw [run_commit_of_free first free]
      have rest := ih (Ledger.accept_numbered numbered (by omega) free) others (by omega)
      exact rest.booked numbered (by omega)
    · rw [run_commit_of_not_free first free]
      exact (ih numbered others (by omega)).refused free

/-- Proposals without rivals among themselves and in the ledger are all booked. -/
theorem commits_of_no_rivals (numbered : ledger.Numbered)
    (admissible : ∀ p ∈ order, Admissible directory today p)
    (left : ledger.lastId.toNat + order.length < UInt64.size)
    (free : ∀ p ∈ order, ledger.Free p) (apart : order.Pairwise fun p q => ¬ p.Rivals q) :
    ∃ bookings : List Booking,
      (commits directory timeout today order ledger).1 = bookings.map .ok ∧
        bookings.map Booking.proposal = order := by
  induction order generalizing ledger with
  | nil => exact ⟨[], rfl, rfl⟩
  | cons p order ih =>
    obtain ⟨beside, apart⟩ := List.pairwise_cons.1 apart
    have first := admissible p List.mem_cons_self
    have others : ∀ q ∈ order, Admissible directory today q :=
      fun q hq => admissible q (List.mem_cons_of_mem _ hq)
    rw [List.length_cons] at left
    have free' := free p List.mem_cons_self
    have next : (ledger.accept p).lastId.toNat = ledger.lastId.toNat + 1 :=
      Ledger.toNat_nextId (by omega)
    have still : ∀ q ∈ order, (ledger.accept p).Free q := by
      intro q hq
      exact Ledger.free_accept numbered (by omega) (free q (List.mem_cons_of_mem _ hq))
        (beside q hq)
    obtain ⟨bookings, ran, same⟩ :=
      ih (Ledger.accept_numbered numbered (by omega) free') others (by omega) still apart
    refine ⟨p.booked ledger.nextId :: bookings, ?_, ?_⟩
    · unfold commits
      rw [run_commit_of_free first free']
      exact congrArg (_ :: ·) ran
    · exact congrArg (p :: ·) same

theorem accepted_ok (bookings : List Booking) : accepted (bookings.map .ok) = bookings := by
  unfold accepted
  rw [List.filterMap_map]
  exact List.filterMap_some

/-- Proposals that keep the rules and have their tables are committed in some order, while numbers
last. The earlier bookings stay and, with those accepted, have no rivals among them; a proposal that
is not accepted meets with a conflict and has a rival among them. Proposals that have no rivals among
each other and in the ledger are all accepted, and whatever the order was, the same has been booked
in the end. -/
theorem commits_in_any_order (reachable : ledger.Reachable) {proposals : List Proposal}
    (admissible : ∀ p ∈ proposals, Admissible directory today p)
    (left : ledger.lastId.toNat + proposals.length < UInt64.size)
    (ordered : order.Perm proposals) :
    let results := (commits directory timeout today order ledger).1
    let last := (commits directory timeout today order ledger).2
    last.bookings = ledger.bookings ++ accepted results ∧
      (last.bookings.Pairwise fun a b => ¬ a.proposal.Rivals b.proposal) ∧
      List.Forall₂ (Decided last) order results ∧
      ((∀ p ∈ proposals, ∀ b ∈ ledger.bookings, ¬ b.proposal.Rivals p) →
        (proposals.Pairwise fun p q => ¬ p.Rivals q) →
        (∀ result ∈ results, ∃ b, result = .ok b) ∧
          (last.bookings.map Booking.proposal).Perm
            (ledger.bookings.map Booking.proposal ++ proposals)) := by
  intro results last
  have numbered := reachable.numbered
  have admissible : ∀ p ∈ order, Admissible directory today p :=
    fun p hp => admissible p (ordered.mem_iff.1 hp)
  rw [← ordered.length_eq] at left
  have settled : Succession ledger order results last :=
    commits_succession numbered admissible left
  refine ⟨settled.kept, settled.numbered.invariant.apart, settled.decided, ?_⟩
  intro free apart
  have free : ∀ p ∈ order, ledger.Free p :=
    fun p hp => Ledger.free_iff.2 (free p (ordered.mem_iff.1 hp))
  have apart : order.Pairwise fun p q => ¬ p.Rivals q :=
    (ordered.pairwise_iff fun different rivals => different rivals.symm).2 apart
  obtain ⟨bookings, ran, same⟩ :
      ∃ bookings : List Booking,
        results = bookings.map .ok ∧ bookings.map Booking.proposal = order :=
    commits_of_no_rivals numbered admissible left free apart
  constructor
  · intro result hresult
    rw [ran] at hresult
    obtain ⟨b, _, rfl⟩ := List.mem_map.1 hresult
    exact ⟨b, rfl⟩
  · rw [settled.kept, ran, accepted_ok, List.map_append, same]
    exact ordered.append_left _

/-- With a supper booked, the nightcap behind it and a supper at the other table are proposed and
committed the other way round. -/
theorem nightcap_and_booth_booked :
    let ledger := (Ledger.store.insert .supper {}).2
    let booth : Proposal := { Proposal.supper with table := ⟨2⟩, partySize := 6 }
    let ran := commits TableMap.sample.directory (.ofMillis 50) booth.date [booth, .nightcap] ledger
    ledger.Reachable ∧
      (∀ p ∈ [.nightcap, booth], Admissible TableMap.sample.directory booth.date p) ∧
      ledger.lastId.toNat + [.nightcap, booth].length < UInt64.size ∧
      [booth, .nightcap].Perm [.nightcap, booth] ∧
      (ran.2.bookings.Pairwise fun a b => ¬ a.proposal.Rivals b.proposal) ∧
      (∀ result ∈ ran.1, ∃ b, result = .ok b) ∧
      (ran.2.bookings.map Booking.proposal).Perm [.supper, .nightcap, booth] := by
  intro ledger booth ran
  have reachable : ledger.Reachable := .insert _ .empty (by decide)
  have admissible : ∀ p ∈ [.nightcap, booth],
      Admissible TableMap.sample.directory booth.date p := by
    intro p hp
    rcases List.mem_pair.1 hp with rfl | rfl
    · exact ⟨by decide, ⟨⟨1⟩, "window", 2⟩, by decide, by decide⟩
    · exact ⟨by decide, ⟨⟨2⟩, "booth", 6⟩, by decide, by decide⟩
  have left : ledger.lastId.toNat + [.nightcap, booth].length < UInt64.size := by decide
  have swapped : [booth, .nightcap].Perm [.nightcap, booth] := .swap _ _ _
  obtain ⟨_, apart, _, compatible⟩ :=
    @commits_in_any_order _ (.ofMillis 50) _ _ _ reachable _ admissible left swapped
  obtain ⟨all, same⟩ := compatible (by decide) (by decide)
  exact ⟨reachable, admissible, left, swapped, apart, all, same⟩

end Engine

end TableBooking
