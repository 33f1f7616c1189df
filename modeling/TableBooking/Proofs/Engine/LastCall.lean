import TableBooking.Proofs.Engine.Agreement
import TableBooking.Proofs.Engine.Run

/-!
The last call of a request decides it. The calls before it change nothing, and whatever state they
found, the end is that of the whole request run at once when the last call is made.
-/
namespace TableBooking

namespace Dialogue

def ended? {α : Type} : Dialogue α → Option (Except BookingError α)
  | .done value => some (.ok value)
  | .refused error => some (.error error)
  | .ask _ _ => none

theorem run_of_ended {σ α : Type} {serve : Serving σ} {p : Dialogue α}
    {result : Except BookingError α} (h : p.ended? = some result) (s : σ) :
    p.run serve s = (result, s) := by
  cases p with
  | done value => exact Option.some.inj h ▸ rfl
  | refused error => exact Option.some.inj h ▸ rfl
  | ask call next => cases h

/-- What is left of `whole` changes nothing before its last call, and the last call ends it as a run
of `whole` from the state of that call would. -/
def LastDecides {σ α : Type} (serve : Serving σ) (whole : Dialogue α) : Dialogue α → Prop
  | .done _ | .refused _ => True
  | .ask call next => ∀ s,
    match (next (serve call s).1).ended? with
    | some result => whole.run serve s = (result, (serve call s).2)
    | none => (serve call s).2 = s ∧ LastDecides serve whole (next (serve call s).1)

theorem lastDecides_of_ended {σ α : Type} {serve : Serving σ} {whole p : Dialogue α}
    (h : p.ended?.isSome = true) : LastDecides serve whole p := by
  cases p with
  | done value => trivial
  | refused error => trivial
  | ask call next => cases h

theorem LastDecides.next {σ α : Type} {serve : Serving σ} {whole : Dialogue α} {call : Call}
    {next : Reply call.Failure call.Answer → Dialogue α}
    (h : LastDecides serve whole (.ask call next)) (s : σ) :
    LastDecides serve whole (next (serve call s).1) := by
  have hs := h s
  cases ended : (next (serve call s).1).ended? with
  | none =>
    rw [ended] at hs
    exact hs.2
  | some result => exact lastDecides_of_ended (by rw [ended]; rfl)

theorem ended?_map {α β : Type} (f : α → β) (p : Dialogue α) :
    (f <$> p).ended? = p.ended?.map fun result => result.map f := by
  cases p <;> rfl

theorem run_map {σ α β : Type} (serve : Serving σ) (f : α → β) (p : Dialogue α) (s : σ) :
    (f <$> p).run serve s = ((p.run serve s).1.map f, (p.run serve s).2) := by
  refine (run_bind serve p _ s).trans ?_
  rcases p.run serve s with ⟨_ | _, _⟩ <;> rfl

/-- Renaming the result of a dialogue leaves its last call the one that decides. -/
theorem LastDecides.map {σ α β : Type} {serve : Serving σ} {whole : Dialogue α} (f : α → β)
    {p : Dialogue α} (h : LastDecides serve whole p) :
    LastDecides serve (f <$> whole) (f <$> p) := by
  induction p with
  | done value => trivial
  | refused error => trivial
  | ask call next ih =>
    intro s
    have hs := h s
    have mapped : ((f <$> next (serve call s).1).ended?) =
        (next (serve call s).1).ended?.map fun result => result.map f := ended?_map f _
    change match (f <$> next (serve call s).1).ended? with
      | some result => (f <$> whole).run serve s = (result, (serve call s).2)
      | none => (serve call s).2 = s ∧ LastDecides serve (f <$> whole) (f <$> next (serve call s).1)
    rw [mapped]
    cases ended : (next (serve call s).1).ended? with
    | none =>
      rw [ended] at hs
      exact ⟨hs.1, ih _ hs.2⟩
    | some result =>
      rw [ended] at hs
      simp only [Option.map_some, run_map]
      rw [hs]

/-- Only what a run of the whole comes to matters. -/
theorem LastDecides.congr {σ α : Type} {serve : Serving σ} {whole other p : Dialogue α}
    (same : ∀ s, other.run serve s = whole.run serve s) (h : LastDecides serve whole p) :
    LastDecides serve other p := by
  induction p with
  | done value => trivial
  | refused error => trivial
  | ask call next ih =>
    intro s
    have hs := h s
    cases ended : (next (serve call s).1).ended? with
    | none =>
      simp only [ended] at hs ⊢
      exact ⟨hs.1, ih _ hs.2⟩
    | some result =>
      simp only [ended] at hs ⊢
      rw [same, hs]

section Calls

variable {σ α : Type} {serve : Serving σ} {timeout : Duration} {c : Call}
  {f : c.Answer → Dialogue α}

theorem lastDecides_of_answered_call {whole : Dialogue α}
    (h : ∀ s, ∃ answer t, serve c s = (.answered answer, t) ∧
      match (f answer).ended? with
      | some result => whole.run serve s = (result, t)
      | none => t = s ∧ LastDecides serve whole (f answer)) :
    LastDecides serve whole (call timeout c >>= f) := by
  intro s
  obtain ⟨answer, t, replied, decided⟩ := h s
  simp only [replied]
  exact decided

/-- A dialogue that ends with its first reply. -/
theorem lastDecides_of_single_call
    (h : ∀ s, ∃ answer t, serve c s = (.answered answer, t) ∧ (f answer).ended?.isSome = true) :
    LastDecides serve (call timeout c >>= f) (call timeout c >>= f) := by
  refine lastDecides_of_answered_call fun s => ?_
  obtain ⟨answer, t, replied, ends⟩ := h s
  obtain ⟨result, ended⟩ := Option.isSome_iff_exists.1 ends
  refine ⟨answer, t, replied, ?_⟩
  simp only [ended]
  exact (run_call_answered replied f).trans (run_of_ended ended t)

/-- A first call that is always answered the same and changes nothing can be left out. -/
theorem lastDecides_of_constant_call {answer : c.Answer}
    (h : ∀ s, serve c s = (.answered answer, s))
    (rest : LastDecides serve (f answer) (f answer)) :
    LastDecides serve (call timeout c >>= f) (call timeout c >>= f) := by
  have same : ∀ s, (call timeout c >>= f).run serve s = (f answer).run serve s :=
    fun s => run_call_answered (h s) f
  refine lastDecides_of_answered_call fun s => ⟨answer, s, h s, ?_⟩
  cases ended : (f answer).ended? with
  | none => exact ⟨rfl, rest.congr same⟩
  | some result => exact (same s).trans (run_of_ended ended s)

theorem lastDecides_of_failing_call {failure : c.Failure}
    (h : ∀ s, serve c s = (.failed failure, s)) :
    LastDecides serve (call timeout c >>= f) (call timeout c >>= f) := by
  intro s
  simp only [h s]
  exact run_call_failed (h s) f

end Calls

end Dialogue

namespace Engine

variable {directory : Directory} (timeout : Duration) (today : Date)

open Dialogue

theorem matchSlot_lastDecides (enquiry : Enquiry) :
    LastDecides (serving directory Ledger.store) (matchSlot timeout today enquiry)
      (matchSlot timeout today enquiry) := by
  cases checked : enquiry.check today with
  | error rule =>
    simp only [matchSlot, checked, Dialogue.obeying, Dialogue.refused_bind]
    trivial
  | ok _ =>
    simp only [matchSlot, checked, Dialogue.obeying, Dialogue.done_bind, findTables,
      if_neg (positive_of_check checked)]
    rw [bind_assoc]
    cases listed : directory.list enquiry.venue enquiry.partySize with
    | error failure => exact lastDecides_of_failing_call fun s => serving_listTables_failed listed
    | ok tables =>
      refine lastDecides_of_constant_call (fun s => serving_listTables listed) ?_
      simp only [Dialogue.pure_eq, Dialogue.done_bind]
      split
      · trivial
      · rename_i some
        have ids : (candidates tables enquiry.partySize).map (·.id) ≠ [] := by simpa using some
        simp only [bookingsFor, if_neg ids]
        rw [bind_assoc]
        refine lastDecides_of_single_call fun ledger => ⟨_, _, serving_query _ ledger, ?_⟩
        simp only [Dialogue.pure_eq, Dialogue.done_bind]
        split <;> rfl

/-- The look at the bookings and the ledger's exclusion decide the same, so a commit may be thought
of as made when the later of the two is asked. -/
theorem secure_lastDecides (p : Proposal) :
    LastDecides (serving directory Ledger.store) (secure timeout p) (secure timeout p) := by
  have inserting : LastDecides (serving directory Ledger.store) (secure timeout p)
      (insertProposal timeout p) := by
    intro ledger
    by_cases free : ledger.Free p
    · simp only [serving_insert_of_free free, ended?]
      exact run_secure_of_free free
    · obtain ⟨existing, excluded⟩ := serving_insert_of_not_free directory free
      simp only [excluded, ended?]
      exact run_secure_of_not_free free
  have looking : LastDecides (serving directory Ledger.store) (secure timeout p)
      (Dialogue.call timeout (.query ⟨p.venue, [p.table], p.date⟩) >>= fun answer =>
        place timeout p (answer.filter (Filter.admits ⟨p.venue, [p.table], p.date⟩))) := by
    refine lastDecides_of_answered_call fun ledger => ⟨_, _, serving_query _ ledger, ?_⟩
    have decides := overlapping_query_eq_nil_iff ledger p (List.mem_singleton.2 rfl)
    by_cases free : ledger.Free p
    · rw [place_of_nil (decides.2 free)]
      exact ⟨rfl, inserting⟩
    · rw [place_of_ne_nil (mt decides.1 free)]
      exact run_secure_of_not_free free
  refine (congrArg (LastDecides _ (secure timeout p)) ?_).mp looking
  simp only [secure, bookingsFor, List.cons_ne_nil, if_false]
  rw [Dialogue.bind_assoc]
  rfl

theorem commit_lastDecides (p : Proposal) :
    LastDecides (serving directory Ledger.store) (commit timeout today p)
      (commit timeout today p) := by
  cases checked : p.check today with
  | error rule =>
    rw [commit_of_broken_rule checked]
    trivial
  | ok _ =>
    rw [commit_of_check checked]
    unfold checkTable
    rw [bind_assoc]
    cases got : directory.get p.venue p.table with
    | error failure => exact lastDecides_of_failing_call fun s => serving_getTable_failed got
    | ok found =>
      refine lastDecides_of_constant_call (fun s => serving_getTable got) ?_
      split
      · trivial
      · split
        · exact secure_lastDecides timeout p
        · trivial

theorem commitText_lastDecides (text : String) :
    LastDecides (serving directory Ledger.store) (commitText timeout today text)
      (commitText timeout today text) := by
  unfold commitText
  split
  · exact commit_lastDecides timeout today _
  · trivial

theorem cancel_lastDecides (id : BookingId) :
    LastDecides (serving directory Ledger.store) (cancel timeout id) (cancel timeout id) := by
  refine lastDecides_of_single_call fun ledger => ⟨_, _, serving_delete _ ledger, ?_⟩
  split <;> rfl

theorem bookingsOn_lastDecides (venue : VenueId) (date : Date) :
    LastDecides (serving directory Ledger.store) (bookingsOn timeout venue date)
      (bookingsOn timeout venue date) :=
  lastDecides_of_single_call fun ledger => ⟨_, _, serving_onDate _ _ ledger, rfl⟩

theorem dialogue_lastDecides (request : Request) :
    LastDecides (serving directory Ledger.store) (request.dialogue timeout today)
      (request.dialogue timeout today) := by
  cases request with
  | matchSlot enquiry => exact (matchSlot_lastDecides timeout today enquiry).map _
  | commit proposal => exact (commit_lastDecides timeout today proposal).map _
  | commitText text => exact (commitText_lastDecides timeout today text).map _
  | cancel id => exact (cancel_lastDecides timeout id).map _
  | bookingsOn venue date => exact (bookingsOn_lastDecides timeout venue date).map _

end Engine

end TableBooking
