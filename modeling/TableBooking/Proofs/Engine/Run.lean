import TableBooking.Engine.Fault
import TableBooking.Proofs.Engine.Requests

/-!
Runs of the engine. A run serves requests one after another; what a call may be replied, and what
it may leave behind, is a relation, so one notion of a run covers collaborators that serve every
call, that fail, and that lie.
-/
namespace TableBooking

inductive Engine.Request where
  | matchSlot (enquiry : Enquiry)
  | commit (proposal : Proposal)
  | commitText (text : String)
  | cancel (id : BookingId)
  | bookingsOn (venue : VenueId) (date : Date)

inductive Engine.Response where
  | proposed (proposal : Proposal)
  | booked (booking : Booking)
  | cancelled
  | listed (bookings : List Booking)
  deriving DecidableEq

def Engine.Request.dialogue (timeout : Duration) (today : Date) :
    Engine.Request → Dialogue Engine.Response
  | .matchSlot enquiry => Response.proposed <$> Engine.matchSlot timeout today enquiry
  | .commit proposal => Response.booked <$> Engine.commit timeout today proposal
  | .commitText text => Response.booked <$> Engine.commitText timeout today text
  | .cancel id => (fun _ => Response.cancelled) <$> Engine.cancel timeout id
  | .bookingsOn venue date => Response.listed <$> Engine.bookingsOn timeout venue date

namespace Dialogue

/-- Which replies a call may get in a state, and which states may follow. -/
abbrev Conduct (σ : Type) := (call : Call) → σ → Reply call.Failure call.Answer → σ → Prop

inductive Runs {σ α : Type} (conduct : Conduct σ) :
    Dialogue α → σ → Except BookingError α → σ → Prop where
  | done (value : α) (s : σ) : Runs conduct (.done value) s (.ok value) s
  | refused (error : BookingError) (s : σ) : Runs conduct (.refused error) s (.error error) s
  | ask {call next s reply t result u} : conduct call s reply t →
      Runs conduct (next reply) t result u → Runs conduct (.ask call next) s result u

def Asks (P : Call → Prop) {α : Type} : Dialogue α → Prop
  | .done _ | .refused _ => True
  | .ask call next => P call ∧ ∀ reply, (next reply).Asks P

theorem asks_bind {α β : Type} {P : Call → Prop} {p : Dialogue α} {f : α → Dialogue β}
    (hp : p.Asks P) (hf : ∀ value, (f value).Asks P) : (p >>= f).Asks P := by
  induction p with
  | done value => exact hf value
  | refused error => trivial
  | ask call next ih => exact ⟨hp.1, fun reply => ih reply (hp.2 reply)⟩

theorem asks_map {α β : Type} {P : Call → Prop} {p : Dialogue α} (hp : p.Asks P) (f : α → β) :
    (f <$> p).Asks P :=
  asks_bind hp fun _ => trivial

theorem asks_call {P : Call → Prop} {c : Call} (h : P c) (timeout : Duration) :
    (call timeout c).Asks P := by
  refine ⟨h, fun reply => ?_⟩
  cases reply <;> trivial

/-- What each allowed reply keeps is kept by a whole run. -/
theorem Runs.preserves {σ α : Type} {conduct : Conduct σ} {P : Call → Prop} {I : σ → Prop}
    (step : ∀ call s reply t, P call → I s → conduct call s reply t → I t)
    {p : Dialogue α} {s t : σ} {result : Except BookingError α} (asks : p.Asks P)
    (run : Runs conduct p s result t) (hs : I s) : I t := by
  induction run with
  | done => exact hs
  | refused => exact hs
  | ask replied _ ih => exact ih (asks.2 _) (step _ _ _ _ asks.1 hs replied)

/-- A dialogue that goes on with another has ended in the first, or in the second after it. -/
theorem Runs.bind_cases {σ α β : Type} {conduct : Conduct σ} {p : Dialogue α} {f : α → Dialogue β}
    {s u : σ} {result : Except BookingError β} (run : Runs conduct (p >>= f) s result u) :
    (∃ error, Runs conduct p s (.error error) u ∧ result = .error error) ∨
      ∃ value t, Runs conduct p s (.ok value) t ∧ Runs conduct (f value) t result u := by
  induction p generalizing s with
  | done value => exact Or.inr ⟨value, s, .done value s, run⟩
  | refused error =>
    cases run
    exact Or.inl ⟨error, .refused error _, rfl⟩
  | ask call next ih =>
    cases run with
    | ask replied rest =>
      rcases ih _ rest with ⟨error, first, ended⟩ | ⟨value, t, first, second⟩
      · exact Or.inl ⟨error, .ask replied first, ended⟩
      · exact Or.inr ⟨value, t, .ask replied first, second⟩

theorem Runs.map_cases {σ α β : Type} {conduct : Conduct σ} {p : Dialogue α} {f : α → β}
    {s u : σ} {result : Except BookingError β} (run : Runs conduct (f <$> p) s result u) :
    ∃ inner, Runs conduct p s inner u ∧ result = inner.map f := by
  rcases Runs.bind_cases run with ⟨error, first, ended⟩ | ⟨value, t, first, second⟩
  · exact ⟨.error error, first, ended⟩
  · cases second
    exact ⟨.ok value, first, rfl⟩

/-- Collaborators whose replies are all allowed lead a dialogue to an allowed end. -/
theorem runs_run {σ α : Type} {conduct : Conduct σ} {serve : Serving σ}
    (allowed : ∀ call s, conduct call s (serve call s).1 (serve call s).2) (p : Dialogue α)
    (s : σ) : Runs conduct p s (p.run serve s).1 (p.run serve s).2 := by
  induction p generalizing s with
  | done value => exact .done value s
  | refused error => exact .refused error s
  | ask call next ih => exact .ask (allowed call s) (ih (serve call s).1 (serve call s).2)

end Dialogue

def Ledger.affected : Call → Ledger → Ledger
  | .insert p, ledger => (Ledger.store.insert p ledger).2
  | .delete ids, ledger => (Ledger.store.delete ids ledger).2
  | _, ledger => ledger

theorem serving_snd (directory : Directory) (call : Call) (ledger : Ledger) :
    (serving directory Ledger.store call ledger).2 = ledger.affected call := by
  cases call <;> rfl

/-- Collaborators of which nothing is known: a call takes effect or not, and any reply may follow,
be it a failure, a delay or something that was never stored. -/
def untrusted : Dialogue.Conduct Ledger := fun call ledger _ after =>
  after = ledger ∨ after = ledger.affected call

/-- Faulty collaborators do what is allowed if serving, failing, being late and answering in the
collaborator's place are. -/
theorem faulty_allowed {σ : Type} {conduct : Dialogue.Conduct σ} {faults : Faults}
    {serve : Dialogue.Serving σ} {call : Call} {s : σ}
    (served : conduct call s (serve call s).1 (serve call s).2)
    (failed : ∀ failure, conduct call s (.failed failure) s) (late : conduct call s .timedOut s)
    (told : ∀ m ∈ faults.meets call, ∀ answer, m.answer? call = some answer →
      conduct call s (.answered answer) s) (timeout : Duration) :
    conduct call s (faulty faults timeout serve call s).1 (faulty faults timeout serve call s).2 := by
  unfold faulty
  split
  · exact served
  · rename_i m met
    split
    · exact late
    · split
      · exact failed _
      · split
        · exact told m met _ ‹_›
        · exact served

theorem untrusted_faulty (faults : Faults) (timeout : Duration) (directory : Directory)
    (call : Call) (ledger : Ledger) :
    untrusted call ledger (faulty faults timeout (serving directory Ledger.store) call ledger).1
      (faulty faults timeout (serving directory Ledger.store) call ledger).2 := by
  refine faulty_allowed (Or.inr (serving_snd directory call ledger)) ?_ (Or.inl rfl) ?_ timeout
  · intro failure
    exact Or.inl rfl
  · intro m _ answer _
    exact Or.inl rfl

namespace Engine

/-- The ledgers that requests lead to from an empty one. Clock and timeout may differ from request
to request. -/
inductive Reached (conduct : Dialogue.Conduct Ledger) : Ledger → Prop where
  | empty : Reached conduct {}
  | serve {ledger after timeout today result} (request : Request) : Reached conduct ledger →
      Dialogue.Runs conduct (request.dialogue timeout today) ledger result after →
      Reached conduct after

theorem Reached.faulty {ledger : Ledger} (h : Reached untrusted ledger) (faults : Faults)
    (timeout : Duration) (today : Date) (directory : Directory) (request : Request) :
    Reached untrusted ((request.dialogue timeout today).run
      (faulty faults timeout (serving directory Ledger.store)) ledger).2 :=
  .serve request h (Dialogue.runs_run (untrusted_faulty faults timeout directory) _ _)

end Engine

def Call.Checked : Call → Prop
  | .insert p => ∃ today, p.check today = .ok ()
  | _ => True

theorem Call.checked_of_reading {call : Call} (h : call.changes = false) : call.Checked := by
  cases call with
  | insert => cases h
  | _ => trivial

namespace Engine

section Reading

variable {P : Call → Prop} (reading : ∀ call : Call, call.changes = false → P call)
  (timeout : Duration) (today : Date)

include reading

theorem asks_bookingsFor (venue : VenueId) (tables : List TableId) (date : Date) :
    (bookingsFor timeout venue tables date).Asks P := by
  unfold bookingsFor
  split
  · trivial
  · exact Dialogue.asks_bind (Dialogue.asks_call (reading _ rfl) timeout) fun _ => trivial

theorem asks_findTables (venue : VenueId) (partySize : UInt32) :
    (findTables timeout venue partySize).Asks P := by
  unfold findTables
  split
  · trivial
  · exact Dialogue.asks_bind (Dialogue.asks_call (reading _ rfl) timeout) fun _ => trivial

theorem asks_matchSlot (enquiry : Enquiry) : (matchSlot timeout today enquiry).Asks P := by
  cases checked : enquiry.check today with
  | error rule => simp only [matchSlot, checked, Dialogue.obeying, Dialogue.refused_bind,
      Dialogue.Asks]
  | ok _ =>
    simp only [matchSlot, checked, Dialogue.obeying, Dialogue.done_bind]
    refine Dialogue.asks_bind (asks_findTables reading timeout _ _) fun tables => ?_
    split
    · trivial
    · refine Dialogue.asks_bind (asks_bookingsFor reading timeout _ _ _) fun bookings => ?_
      split <;> trivial

theorem asks_checkTable (p : Proposal) : (checkTable timeout p).Asks P := by
  refine Dialogue.asks_bind (Dialogue.asks_call (reading _ rfl) timeout) fun found => ?_
  split
  · trivial
  · split <;> trivial

theorem asks_bookingsOn (venue : VenueId) (date : Date) :
    (bookingsOn timeout venue date).Asks P :=
  Dialogue.asks_bind (Dialogue.asks_call (reading _ rfl) timeout) fun _ => trivial

end Reading

variable (timeout : Duration) (today : Date)

theorem asks_insertProposal {p : Proposal} (h : p.check today = .ok ()) :
    (insertProposal timeout p).Asks Call.Checked := by
  refine ⟨⟨today, h⟩, fun reply => ?_⟩
  dsimp only
  split <;> trivial

theorem asks_secure {p : Proposal} (h : p.check today = .ok ()) :
    (secure timeout p).Asks Call.Checked := by
  refine Dialogue.asks_bind (asks_bookingsFor (fun _ => Call.checked_of_reading) timeout _ _ _)
    fun existing => ?_
  unfold place
  split
  · trivial
  · exact asks_insertProposal timeout today h

theorem asks_commit (p : Proposal) : (commit timeout today p).Asks Call.Checked := by
  cases checked : p.check today with
  | error rule =>
    rw [commit_of_broken_rule checked]
    trivial
  | ok _ =>
    rw [commit_of_check checked]
    exact Dialogue.asks_bind (asks_checkTable (fun _ => Call.checked_of_reading) timeout p)
      fun _ => asks_secure timeout today checked

theorem asks_commitText (text : String) : (commitText timeout today text).Asks Call.Checked := by
  unfold commitText
  split
  · exact asks_commit timeout today _
  · trivial

theorem asks_cancel (id : BookingId) : (cancel timeout id).Asks Call.Checked := by
  refine Dialogue.asks_bind (Dialogue.asks_call trivial timeout) fun removed => ?_
  split <;> trivial

theorem asks_dialogue (request : Request) :
    (request.dialogue timeout today).Asks Call.Checked := by
  cases request with
  | matchSlot enquiry =>
    exact Dialogue.asks_map (asks_matchSlot (fun _ => Call.checked_of_reading) timeout today _) _
  | commit proposal => exact Dialogue.asks_map (asks_commit timeout today proposal) _
  | commitText text => exact Dialogue.asks_map (asks_commitText timeout today text) _
  | cancel id => exact Dialogue.asks_map (asks_cancel timeout id) _
  | bookingsOn venue date =>
    exact Dialogue.asks_map (asks_bookingsOn (fun _ => Call.checked_of_reading) timeout _ _) _

end Engine

end TableBooking
