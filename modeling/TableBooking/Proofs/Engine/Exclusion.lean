import TableBooking.Proofs.Engine.Run

/-!
No table is booked twice for one instant. The ledger compares bookings of one date only; bookings of
different dates are kept apart because nothing is inserted whose window leaves its date. Neither
depends on what the collaborators reply.
-/
namespace TableBooking

/-- Two bookings that are not of the same table of the same venue, or share no instant. -/
def Booking.Apart (a b : Booking) : Prop :=
  a.venue = b.venue → a.table = b.table → ∀ t, ¬ (a.window.Covers t ∧ b.window.Covers t)

/-- Bookings within their dates are apart unless they clash. -/
theorem Booking.apart_of_not_clash {a b : Booking} (ha : a.window.liesWithin a.date = true)
    (hb : b.window.liesWithin b.date = true) (h : ¬ Ledger.Clash a b) : a.Apart b := by
  rintro hvenue htable t ⟨hat, hbt⟩
  have hdate : a.date = b.date :=
    (Window.date_of_covers ha hat).symm.trans (Window.date_of_covers hb hbt)
  have hoverlap := (Window.overlaps_iff_covers a.window b.window).2 ⟨t, hat, hbt⟩
  exact h ((Booking.clashesWith_iff a b.proposal).2 ⟨hvenue, htable, hdate, hoverlap⟩)

namespace Ledger

/-- The ledger's own invariant, and every window on the date of its booking. -/
structure Dated (ledger : Ledger) : Prop where
  invariant : Invariant ledger
  within : ∀ e ∈ ledger.entries, e.2.window.liesWithin e.2.date = true

theorem empty_dated : Dated {} :=
  ⟨empty_invariant, by simp⟩

theorem affected_dated {ledger : Ledger} (h : Dated ledger) {call : Call} (checked : call.Checked) :
    Dated (ledger.affected call) := by
  cases call with
  | insert p =>
    obtain ⟨today, obeys⟩ := checked
    by_cases free : ledger.Free p
    · simp only [affected, store_insert_of_free free]
      refine ⟨accept_invariant h.invariant free, ?_⟩
      intro e he
      rcases eq_or_mem_of_mem_put he with rfl | he
      · exact Proposal.liesWithin_of_check obeys
      · exact h.within e he
    · obtain ⟨clash, _, _, refused⟩ := store_insert_of_not_free free
      simp only [affected, refused]
      exact h
  | delete ids =>
    refine ⟨delete_invariant h.invariant ids, ?_⟩
    intro e he
    simp only [affected, store, delete_snd] at he
    exact h.within e (List.mem_filter.1 he).1
  | listTables => exact h
  | getTable => exact h
  | query => exact h
  | onDate => exact h

theorem untrusted_dated (call : Call) (ledger : Ledger) (reply : Reply call.Failure call.Answer)
    (after : Ledger) (checked : call.Checked) (h : Dated ledger)
    (replied : untrusted call ledger reply after) : Dated after := by
  rcases replied with rfl | rfl
  · exact h
  · exact affected_dated h checked

theorem Dated.bookings_apart {ledger : Ledger} (h : Dated ledger) :
    ledger.bookings.Pairwise Booking.Apart := by
  refine List.pairwise_map.2 (h.invariant.exclusive.imp_of_mem ?_)
  intro a b ha hb apart
  exact Booking.apart_of_not_clash (h.within a ha) (h.within b hb) apart

end Ledger

namespace Engine

theorem reached_dated {ledger : Ledger} (h : Reached untrusted ledger) : ledger.Dated := by
  induction h with
  | empty => exact Ledger.empty_dated
  | serve request _ run ih =>
    exact run.preserves Ledger.untrusted_dated (asks_dialogue _ _ request) ih

/-- Whatever requests are made, at whatever dates and with whatever replies of the collaborators,
no instant is in the windows of two bookings of one table. -/
theorem reached_bookings_apart {ledger : Ledger} (h : Reached untrusted ledger) :
    ledger.bookings.Pairwise fun a b =>
      a.venue = b.venue → a.table = b.table → ∀ t, ¬ (a.window.Covers t ∧ b.window.Covers t) :=
  (reached_dated h).bookings_apart

def denial : Faults := { store := some ⟨.answers [] [] [], some .query⟩ }

/-- The ledger behind commits of both and of `supper` once more, made against a store that denies
its bookings. -/
theorem denied_bookings_apart :
    let ledger : Ledger :=
      { lastId := 2
        entries := [(⟨1⟩, Proposal.supper.booked ⟨1⟩), (⟨2⟩, Proposal.nightcap.booked ⟨2⟩)] }
    Reached untrusted ledger ∧ ledger.bookings.Pairwise fun a b =>
      a.venue = b.venue → a.table = b.table → ∀ t, ¬ (a.window.Covers t ∧ b.window.Covers t) := by
  intro ledger
  have first := Reached.empty.faulty denial (.ofMillis 50) Proposal.supper.date
    TableMap.sample.directory (.commit Proposal.supper)
  have second := first.faulty denial (.ofMillis 50) Proposal.supper.date
    TableMap.sample.directory (.commit Proposal.supper)
  have third := second.faulty denial (.ofMillis 50) Proposal.supper.date
    TableMap.sample.directory (.commit Proposal.nightcap)
  have reached : Reached untrusted ledger := by
    convert third using 1
    decide
  exact ⟨reached, reached_bookings_apart reached⟩

end Engine

end TableBooking
