import TableBooking.Proofs.Engine.Exclusion
import TableBooking.Proofs.Engine.Stages

/-!
What the callers were told accounts for what the ledger holds. Every acknowledged request has
exactly one effect and every refused one has none, and a number is never given out twice; so the
history of requests and results determines the bookings.
-/
namespace TableBooking

/-- Collaborators that may fail, be late, or answer anything to a call that changes nothing, but
that answer an insertion or a deletion only with what the ledger made of it. A call that failed or
came too late has had no effect. -/
def truthful : Dialogue.Conduct Ledger
  | .insert p, ledger, .answered b, after => Ledger.store.insert p ledger = (.ok b, after)
  | .delete ids, ledger, .answered removed, after => ledger.delete ids = (removed, after)
  | _, ledger, _, after => after = ledger

def answering : Dialogue.Conduct Ledger := fun call ledger reply after =>
  truthful call ledger reply after ∧ ∃ answer, reply = .answered answer

/-- No deletion is answered in the ledger's place. -/
def Faults.Honest (faults : Faults) : Prop :=
  ∀ ids, ∀ m ∈ faults.meets (.delete ids), m.answer? (.delete ids) = none

theorem truthful_serving (directory : Directory) (call : Call) (ledger : Ledger) :
    truthful call ledger (serving directory Ledger.store call ledger).1
      (serving directory Ledger.store call ledger).2 := by
  cases call with
  | listTables venue leastCapacity => cases directory.list venue leastCapacity <;> rfl
  | getTable venue table => cases directory.get venue table <;> rfl
  | query filter => rfl
  | onDate venue date => rfl
  | delete ids => rfl
  | insert p =>
    by_cases free : ledger.Free p
    · rw [serving_insert_of_free free]
      exact Ledger.store_insert_of_free free
    · obtain ⟨existing, refused⟩ := serving_insert_of_not_free directory free
      rw [refused]
      rfl

theorem answering_delete (ids : List BookingId) (ledger : Ledger) :
    answering (.delete ids) ledger (.answered (ledger.delete ids).1) (ledger.delete ids).2 :=
  ⟨rfl, _, rfl⟩

theorem truthful_failed (call : Call) (failure : call.Failure) (ledger : Ledger) :
    truthful call ledger (.failed failure) ledger := by
  cases call <;> rfl

theorem truthful_timedOut (call : Call) (ledger : Ledger) :
    truthful call ledger .timedOut ledger := by
  cases call <;> rfl

theorem truthful_faulty {faults : Faults} (honest : faults.Honest) (timeout : Duration)
    (directory : Directory) (call : Call) (ledger : Ledger) :
    truthful call ledger (faulty faults timeout (serving directory Ledger.store) call ledger).1
      (faulty faults timeout (serving directory Ledger.store) call ledger).2 := by
  refine faulty_allowed (truthful_serving directory call ledger)
    (truthful_failed call · ledger) (truthful_timedOut call ledger) ?_ timeout
  intro m met answer answered
  cases call with
  | insert p => cases answered
  | delete ids => exact absurd answered (by simp [honest ids m met])
  | _ => rfl

namespace Engine

open Dialogue

def Request.proposal? : Request → Option Proposal
  | .commit p => some p
  | .commitText text => (Proposal.ofJson text).toOption
  | _ => none

structure Exchange where
  request : Request
  result : Except BookingError Response

namespace Exchange

def booked? (x : Exchange) : Option Booking :=
  match x.result with
  | .ok (.booked b) => some b
  | _ => none

def Books (x : Exchange) (b : Booking) : Prop :=
  x.result = .ok (.booked b)

def Cancels (x : Exchange) (id : BookingId) : Prop :=
  x.request = .cancel id ∧ x.result = .ok .cancelled

end Exchange

/-- The exchanges that lead from an empty ledger to another, in their order. Clock, timeout and the
collaborators' misbehaviour may differ from request to request. -/
inductive History : List Exchange → Ledger → Prop where
  | empty : History [] {}
  | serve {history ledger after timeout today result} (request : Request) :
      History history ledger → Runs truthful (request.dialogue timeout today) ledger result after →
      History (history ++ [⟨request, result⟩]) after

theorem History.faulty {history : List Exchange} {ledger : Ledger} (h : History history ledger)
    {faults : Faults} (honest : faults.Honest) (timeout : Duration) (today : Date)
    (directory : Directory) (request : Request) :
    let ran := (request.dialogue timeout today).run
      (faulty faults timeout (serving directory Ledger.store)) ledger
    History (history ++ [⟨request, ran.1⟩]) ran.2 :=
  h.serve request (runs_run (truthful_faulty honest timeout directory) _ _)

/-- An acknowledged booking that no acknowledged cancellation took back. -/
def Stands (history : List Exchange) (b : Booking) : Prop :=
  ∃ earlier x later, history = earlier ++ x :: later ∧ x.Books b ∧ ∀ y ∈ later, ¬ y.Cancels b.id

def Outstanding (history : List Exchange) (id : BookingId) : Prop :=
  (∃ x ∈ history, ∃ b, x.Books b ∧ b.id = id) ∧ ∀ x ∈ history, ¬ x.Cancels id

theorem stands_append {history : List Exchange} {x : Exchange} {b : Booking} :
    Stands (history ++ [x]) b ↔ x.Books b ∨ Stands history b ∧ ¬ x.Cancels b.id := by
  constructor
  · rintro ⟨earlier, y, later, split, books, kept⟩
    rcases List.eq_nil_or_concat later with rfl | ⟨rest, last, rfl⟩
    · obtain ⟨-, same⟩ := List.append_inj' split rfl
      cases same
      exact Or.inl books
    · have split : history ++ [x] = (earlier ++ y :: rest) ++ [last] := by simp [split]
      obtain ⟨rfl, same⟩ := List.append_inj' split rfl
      cases same
      refine Or.inr ⟨⟨earlier, y, rest, rfl, books, ?_⟩, kept x (by simp)⟩
      intro z hz
      exact kept z (by simp [hz])
  · rintro (books | ⟨⟨earlier, y, later, rfl, books, kept⟩, spared⟩)
    · exact ⟨history, x, [], rfl, books, by simp⟩
    · refine ⟨earlier, y, later ++ [x], by simp, books, ?_⟩
      intro z hz
      rcases List.mem_append.1 hz with hz | hz
      · exact kept z hz
      · rw [List.mem_singleton.1 hz]
        exact spared

/-- What a request may come to: a booking or a cancellation with its one effect, or anything else
without one. -/
inductive Effect (request : Request) (ledger : Ledger) :
    Except BookingError Response → Ledger → Prop where
  | booked {p} : request.proposal? = some p → ledger.Free p →
      Effect request ledger (.ok (.booked (p.booked ledger.nextId))) (ledger.accept p)
  | cancelled {id} : request = .cancel id → (∃ b, (id, b) ∈ ledger.entries) →
      Effect request ledger (.ok .cancelled) (ledger.delete [id]).2
  | none {result} : (∀ b, result ≠ .ok (.booked b)) → result ≠ .ok .cancelled →
      Effect request ledger result ledger

theorem Effect.refused {request : Request} {ledger : Ledger} (e : BookingError) :
    Effect request ledger (.error e) ledger :=
  .none (by simp) (by simp)

/-- An attempt at a booking that failed without a trace. -/
def Refused (ledger : Ledger) (result : Except BookingError Booking) (after : Ledger) : Prop :=
  ∃ e, result = .error e ∧ after = ledger

structure Accepted (p : Proposal) (ledger : Ledger) (result : Except BookingError Booking)
    (after : Ledger) : Prop where
  free : ledger.Free p
  told : result = .ok (p.booked ledger.nextId)
  left : after = ledger.accept p

section Effects

variable {timeout : Duration} {today : Date} {ledger after : Ledger}

theorem truthful_reads : truthful.Reads := by
  intro call ledger reply after reading replied
  cases call with
  | insert => cases reading
  | delete => cases reading
  | _ => exact replied

theorem insertProposal_effect {p : Proposal} {result : Except BookingError Booking}
    (run : Runs truthful (insertProposal timeout p) ledger result after) :
    Refused ledger result after ∨ Accepted p ledger result after := by
  rcases insertProposal_runs run with ⟨b, rfl, replied⟩ | ⟨e, reply, rfl, replied, unanswered⟩
  · have inserted : Ledger.store.insert p ledger = (.ok b, after) := replied
    by_cases free : ledger.Free p
    · rw [Ledger.store_insert_of_free free] at inserted
      cases inserted
      exact Or.inr ⟨free, rfl, rfl⟩
    · obtain ⟨clash, -, -, refused⟩ := Ledger.store_insert_of_not_free free
      rw [refused] at inserted
      cases inserted
  · cases reply with
    | answered b => exact absurd rfl (unanswered b)
    | failed failure => exact Or.inl ⟨e, rfl, replied⟩
    | timedOut => exact Or.inl ⟨e, rfl, replied⟩

theorem commit_effect {p : Proposal} {result : Except BookingError Booking}
    (run : Runs truthful (commit timeout today p) ledger result after) :
    Refused ledger result after ∨ Accepted p ledger result after := by
  rcases commit_runs truthful_reads run with refused | ⟨_, _, inserted⟩
  · exact Or.inl refused
  · exact insertProposal_effect inserted

theorem commitText_effect {text : String} {result : Except BookingError Booking}
    (run : Runs truthful (commitText timeout today text) ledger result after) :
    Refused ledger result after ∨
      ∃ p, Proposal.ofJson text = .ok p ∧ Accepted p ledger result after := by
  rcases commitText_runs run with refused | ⟨p, decoded, committed⟩
  · exact Or.inl refused
  · rcases commit_effect committed with refused | accepted
    · exact Or.inl refused
    · exact Or.inr ⟨p, decoded, accepted⟩

theorem delete_of_absent {id : BookingId} (absent : ¬ ∃ b, (id, b) ∈ ledger.entries) :
    (ledger.delete [id]).2 = ledger := by
  rw [Ledger.delete_snd]
  have all : ledger.entries.filter (fun e => e.1 ∉ [id]) = ledger.entries := by
    rw [List.filter_eq_self]
    rintro ⟨key, b⟩ he
    have : key ≠ id := fun same => absent ⟨b, same ▸ he⟩
    simpa using this
  rw [all]

/-- What an answered deletion of a number names is decided by whether something is kept under it. -/
theorem delete_answered {id : BookingId} {removed : List BookingId}
    (deleted : ledger.delete [id] = (removed, after)) :
    (∃ b, (id, b) ∈ ledger.entries) ∧ id ∈ removed ∧ after = (ledger.delete [id]).2 ∨
      (¬ ∃ b, (id, b) ∈ ledger.entries) ∧ id ∉ removed ∧ after = ledger := by
  have named : id ∈ (ledger.delete [id]).1 ↔ ∃ b, (id, b) ∈ ledger.entries := by
    simp [Ledger.mem_delete_fst]
  rw [deleted] at named
  by_cases stored : ∃ b, (id, b) ∈ ledger.entries
  · exact Or.inl ⟨stored, named.2 stored, by rw [deleted]⟩
  · have left := delete_of_absent stored
    rw [deleted] at left
    exact Or.inr ⟨stored, mt named.1 stored, left⟩

theorem cancel_effect {id : BookingId} {result : Except BookingError Unit}
    (run : Runs truthful (cancel timeout id) ledger result after) :
    (∃ e, result = .error e ∧ after = ledger) ∨
      (∃ b, (id, b) ∈ ledger.entries) ∧ result = .ok () ∧ after = (ledger.delete [id]).2 := by
  rcases cancel_runs run with ⟨removed, replied, rfl⟩ | ⟨e, reply, rfl, replied, unanswered⟩
  · rcases delete_answered replied with ⟨stored, named, left⟩ | ⟨-, unnamed, same⟩
    · exact Or.inr ⟨stored, if_pos named, left⟩
    · exact Or.inl ⟨_, if_neg unnamed, same⟩
  · cases reply with
    | answered removed => exact absurd rfl (unanswered removed)
    | failed failure => exact Or.inl ⟨e, rfl, replied⟩
    | timedOut => exact Or.inl ⟨e, rfl, replied⟩

theorem effect_of_run {request : Request} {result : Except BookingError Response}
    (run : Runs truthful (request.dialogue timeout today) ledger result after) :
    Effect request ledger result after := by
  cases request with
  | matchSlot enquiry =>
    obtain ⟨inner, served, rfl⟩ := run.map_cases
    obtain rfl := served.unchanged truthful_reads
      (asks_matchSlot (fun _ h => h) timeout today enquiry)
    cases inner with
    | error e => exact .refused e
    | ok proposal => exact .none (by simp [Except.map]) (by simp [Except.map])
  | commit p =>
    obtain ⟨inner, served, rfl⟩ := run.map_cases
    rcases commit_effect served with ⟨e, rfl, rfl⟩ | ⟨free, rfl, rfl⟩
    · exact .refused e
    · exact .booked rfl free
  | commitText text =>
    obtain ⟨inner, served, rfl⟩ := run.map_cases
    rcases commitText_effect served with ⟨e, rfl, rfl⟩ | ⟨p, decoded, free, rfl, rfl⟩
    · exact .refused e
    · have asked : (Request.commitText text).proposal? = some p := by
        simp only [Request.proposal?, decoded, Except.toOption]
      exact .booked asked free
  | cancel id =>
    obtain ⟨inner, served, rfl⟩ := run.map_cases
    rcases cancel_effect served with ⟨e, rfl, rfl⟩ | ⟨stored, rfl, rfl⟩
    · exact .refused e
    · exact .cancelled rfl stored
  | bookingsOn venue date =>
    obtain ⟨inner, served, rfl⟩ := run.map_cases
    obtain rfl := served.unchanged truthful_reads
      (asks_bookingsOn (fun _ h => h) timeout venue date)
    cases inner with
    | error e => exact .refused e
    | ok listed => exact .none (by simp [Except.map]) (by simp [Except.map])

end Effects

structure Account (history : List Exchange) (ledger : Ledger) : Prop where
  numbered : ledger.Numbered
  issued : (history.filterMap Exchange.booked?).map (·.id.number.toNat) =
    List.range' 1 ledger.lastId.toNat
  stored : ∀ b, b ∈ ledger.bookings ↔ Stands history b
  gone : ∀ x ∈ history, ∀ id, x.Cancels id →
    id.number.toNat ≤ ledger.lastId.toNat ∧ ∀ b ∈ ledger.bookings, b.id ≠ id
  faithful : ∀ x ∈ history, ∀ b, x.Books b → x.request.proposal? = some b.proposal

section Accounts

variable {history : List Exchange} {ledger : Ledger} {x : Exchange}

theorem empty_account : Account [] {} where
  numbered := Ledger.empty_numbered
  issued := rfl
  stored b := by simp [Stands, Ledger.bookings]
  gone := by simp
  faithful := by simp

theorem Account.lastId_eq (h : Account history ledger) :
    ledger.lastId.toNat = (history.filterMap Exchange.booked?).length := by
  have lengths := congrArg List.length h.issued
  simpa using lengths.symm

theorem Account.accept (h : Account history ledger) {p : Proposal}
    (left : ledger.lastId.toNat + 1 < UInt64.size) (free : ledger.Free p)
    (asked : x.request.proposal? = some p)
    (told : x.result = .ok (.booked (p.booked ledger.nextId))) :
    Account (history ++ [x]) (ledger.accept p) := by
  have next : ledger.nextId.number.toNat = ledger.lastId.toNat + 1 := Ledger.toNat_nextId left
  have last : (ledger.accept p).lastId.toNat = ledger.lastId.toNat + 1 := next
  have spares : ∀ id, ¬ x.Cancels id := by
    rintro id ⟨-, result⟩
    rw [told] at result
    cases result
  have books : ∀ b, x.Books b ↔ b = p.booked ledger.nextId := by
    intro b
    simp [Exchange.Books, told, eq_comm]
  refine ⟨Ledger.accept_numbered h.numbered left free, ?_, ?_, ?_, ?_⟩
  · have acknowledged : x.booked? = some (p.booked ledger.nextId) := by
      simp [Exchange.booked?, told]
    have number : (p.booked ledger.nextId).id.number.toNat = 1 + 1 * ledger.lastId.toNat := by
      rw [Nat.one_mul, Nat.add_comm]
      exact next
    rw [List.filterMap_append, List.map_append, h.issued, last, List.range'_concat,
      List.filterMap_cons_some acknowledged, List.filterMap_nil, List.map_singleton, number]
  · intro b
    rw [Ledger.bookings_accept h.numbered left, List.mem_append, h.stored, List.mem_singleton,
      stands_append, books]
    simp only [spares, not_false_eq_true, and_true]
    exact or_comm
  · rw [List.forall_mem_append, List.forall_mem_singleton]
    refine ⟨?_, fun id cancels => absurd cancels (spares id)⟩
    intro y hy id cancels
    obtain ⟨issued, absent⟩ := h.gone y hy id cancels
    refine ⟨by omega, fun b hb same => ?_⟩
    rw [Ledger.bookings_accept h.numbered left, List.mem_append, List.mem_singleton] at hb
    rcases hb with hb | rfl
    · exact absent b hb same
    · -- the cancelled number was given out before, the new one was not
      have : ledger.nextId = id := same
      rw [← this] at issued
      omega
  · rw [List.forall_mem_append, List.forall_mem_singleton]
    refine ⟨h.faithful, fun b booked => ?_⟩
    rw [(books b).1 booked]
    exact asked

theorem Account.cancel (h : Account history ledger) {id : BookingId}
    (asked : x.request = .cancel id) (told : x.result = .ok .cancelled)
    (stored : ∃ b, (id, b) ∈ ledger.entries) :
    Account (history ++ [x]) (ledger.delete [id]).2 := by
  have last : (ledger.delete [id]).2.lastId = ledger.lastId := by
    rw [Ledger.delete_snd]
  have left : ∀ b, b ∈ (ledger.delete [id]).2.bookings ↔ b ∈ ledger.bookings ∧ b.id ≠ id := by
    intro b
    rw [Ledger.mem_bookings_delete h.numbered.invariant, List.mem_singleton]
  have cancels : ∀ other, x.Cancels other ↔ id = other := by
    intro other
    simp [Exchange.Cancels, asked, told]
  have silent : ∀ b, ¬ x.Books b := by
    intro b
    simp [Exchange.Books, told]
  refine ⟨Ledger.delete_numbered h.numbered [id], ?_, ?_, ?_, ?_⟩
  · have unacknowledged : x.booked? = none := by simp [Exchange.booked?, told]
    rw [List.filterMap_append, List.filterMap_cons_none unacknowledged, List.filterMap_nil,
      List.append_nil, h.issued, last]
  · intro b
    rw [left, h.stored, stands_append, cancels]
    simp only [silent, false_or]
    exact and_congr_right fun _ => ne_comm
  · rw [List.forall_mem_append, List.forall_mem_singleton, last]
    constructor
    · intro y hy other cancelled
      obtain ⟨issued, absent⟩ := h.gone y hy other cancelled
      exact ⟨issued, fun b hb => absent b ((left b).1 hb).1⟩
    · intro other cancelled
      obtain rfl := (cancels other).1 cancelled
      obtain ⟨b, hb⟩ := stored
      exact ⟨h.numbered.bounded _ hb, fun b hb => ((left b).1 hb).2⟩
  · rw [List.forall_mem_append, List.forall_mem_singleton]
    exact ⟨h.faithful, fun b booked => absurd booked (silent b)⟩

theorem Account.idle (h : Account history ledger) (unbooked : ∀ b, x.result ≠ .ok (.booked b))
    (uncancelled : x.result ≠ .ok .cancelled) : Account (history ++ [x]) ledger := by
  have spares : ∀ id, ¬ x.Cancels id := fun id cancels => uncancelled cancels.2
  have silent : x.booked? = none := by
    unfold Exchange.booked?
    split
    · rename_i b told
      exact absurd told (unbooked b)
    · rfl
  refine ⟨h.numbered, ?_, ?_, ?_, ?_⟩
  · rw [List.filterMap_append, List.filterMap_cons_none silent, List.filterMap_nil,
      List.append_nil, h.issued]
  · intro b
    rw [h.stored, stands_append]
    simp only [spares, not_false_eq_true, and_true]
    exact (or_iff_right (unbooked b)).symm
  · rw [List.forall_mem_append, List.forall_mem_singleton]
    exact ⟨h.gone, fun id cancels => absurd cancels (spares id)⟩
  · rw [List.forall_mem_append, List.forall_mem_singleton]
    exact ⟨h.faithful, fun b booked => absurd booked (unbooked b)⟩

theorem account_of_history (h : History history ledger)
    (few : (history.filterMap Exchange.booked?).length < UInt64.size) :
    Account history ledger := by
  induction h with
  | empty => exact empty_account
  | @serve history ledger after timeout today result request h run ih =>
    rw [List.filterMap_append, List.length_append] at few
    have before := ih (by omega)
    cases effect_of_run run with
    | booked asked free =>
      refine before.accept ?_ free asked rfl
      rw [before.lastId_eq]
      exact few
    | cancelled asked stored => exact before.cancel asked rfl stored
    | none unbooked uncancelled => exact before.idle unbooked uncancelled

theorem Account.outstanding_iff (h : Account history ledger) {id : BookingId} :
    Outstanding history id ↔ ∃ b, (id, b) ∈ ledger.entries := by
  constructor
  · rintro ⟨⟨x, hx, b, books, rfl⟩, kept⟩
    obtain ⟨earlier, later, rfl⟩ := List.append_of_mem hx
    have stands : Stands (earlier ++ x :: later) b :=
      ⟨earlier, x, later, rfl, books, fun y hy => kept y (by simp [hy])⟩
    exact ⟨b, (Ledger.mem_bookings_iff_entry h.numbered.invariant).1 ((h.stored b).2 stands)⟩
  · rintro ⟨b, he⟩
    have same : b.id = id := h.numbered.invariant.keyed _ he
    have hb : b ∈ ledger.bookings := Ledger.mem_bookings.2 ⟨id, he⟩
    obtain ⟨earlier, x, later, rfl, books, -⟩ := (h.stored b).1 hb
    refine ⟨⟨x, by simp, b, books, same⟩, ?_⟩
    intro y hy cancels
    exact (h.gone y hy id cancels).2 b hb same

theorem Account.cancel_answer (h : Account history ledger) {timeout : Duration} {today : Date}
    {id : BookingId} {result : Except BookingError Response} {after : Ledger}
    (run : Runs answering ((Request.cancel id).dialogue timeout today) ledger result after) :
    (result = .ok .cancelled ↔ Outstanding history id) ∧
      (¬ Outstanding history id → result = .error (.notFound id) ∧ after = ledger) := by
  obtain ⟨inner, served, rfl⟩ := run.map_cases
  rw [h.outstanding_iff]
  rcases cancel_runs served with ⟨removed, replied, rfl⟩ | ⟨_, _, _, replied, unanswered⟩
  · rcases delete_answered replied.1 with ⟨stored, named, -⟩ | ⟨absent, unnamed, rfl⟩
    · rw [if_pos named]
      exact ⟨iff_of_true rfl stored, fun absent => absurd stored absent⟩
    · rw [if_neg unnamed]
      exact ⟨iff_of_false (by simp [Except.map]) absent, fun _ => ⟨rfl, rfl⟩⟩
  · obtain ⟨-, removed, rfl⟩ := replied
    exact absurd rfl (unanswered removed)

theorem unchanged_of_error {timeout : Duration} {today : Date} {request : Request}
    {error : BookingError} {after : Ledger}
    (run : Runs truthful (request.dialogue timeout today) ledger (.error error) after) :
    after = ledger := by
  cases effect_of_run run
  rfl

/-- No booking is lost and none is made up. After any history of requests the ledger holds the
bookings that were acknowledged and not acknowledged to be cancelled, as they were proposed and each
once; an answered cancellation succeeds exactly for the number of such a booking; and a request that
ends in an error leaves the ledger as it was. -/
theorem acknowledgements_account_for_bookings (h : History history ledger)
    (few : (history.filterMap Exchange.booked?).length < UInt64.size) :
    (∀ b, b ∈ ledger.bookings ↔ Stands history b) ∧
      ledger.bookings.Nodup ∧
      (∀ x ∈ history, ∀ b, x.Books b → x.request.proposal? = some b.proposal) ∧
      (∀ timeout today id result after,
        Runs answering ((Request.cancel id).dialogue timeout today) ledger result after →
          (result = .ok .cancelled ↔ Outstanding history id) ∧
            (¬ Outstanding history id → result = .error (.notFound id) ∧ after = ledger)) ∧
      ∀ timeout today (request : Request) error after,
        Runs truthful (request.dialogue timeout today) ledger (.error error) after →
          after = ledger := by
  have account := account_of_history h few
  have once := Ledger.bookings_nodup account.numbered.invariant
  refine ⟨account.stored, once, account.faithful, ?_, ?_⟩
  · intro timeout today id result after run
    exact account.cancel_answer run
  · intro timeout today request error after run
    exact unchanged_of_error run

end Accounts

def tardiness : Faults := { store := some ⟨.delays 60_000, some .delete⟩ }

theorem tardiness_honest : tardiness.Honest := by
  intro ids m met
  cases met
  rfl

theorem denial_honest : denial.Honest := by
  intro ids m met
  cases met

/-- A supper is booked, its cancellation is late once and then made, and its table is booked anew
while the store denies its bookings. The first number stays given up. -/
theorem retaken_supper_accounted :
    let history : List Exchange :=
      [⟨.commit .supper, .ok (.booked (Proposal.supper.booked ⟨1⟩))⟩,
        ⟨.cancel ⟨1⟩, .error (.unavailable .bookingStore "timed out after 50ms")⟩,
        ⟨.cancel ⟨1⟩, .ok .cancelled⟩,
        ⟨.commit .supper, .ok (.booked (Proposal.supper.booked ⟨2⟩))⟩]
    let ledger : Ledger := { lastId := 2, entries := [(⟨2⟩, Proposal.supper.booked ⟨2⟩)] }
    History history ledger ∧ (history.filterMap Exchange.booked?).length < UInt64.size ∧
      (∀ b, b ∈ ledger.bookings ↔ Stands history b) ∧
      Outstanding history ⟨2⟩ ∧ ¬ Outstanding history ⟨1⟩ := by
  intro history ledger
  have first := History.empty.faulty tardiness_honest (.ofMillis 50) Proposal.supper.date
    TableMap.sample.directory (.commit .supper)
  have second := first.faulty tardiness_honest (.ofMillis 50) Proposal.supper.date
    TableMap.sample.directory (.cancel ⟨1⟩)
  have third := second.faulty denial_honest (.ofMillis 50) Proposal.supper.date
    TableMap.sample.directory (.cancel ⟨1⟩)
  have fourth := third.faulty denial_honest (.ofMillis 50) Proposal.supper.date
    TableMap.sample.directory (.commit .supper)
  have reached : History history ledger := fourth
  have few : (history.filterMap Exchange.booked?).length < UInt64.size := by decide
  obtain ⟨stored, -, -, cancels, -⟩ := acknowledgements_account_for_bookings reached few
  have removed : Runs answering ((Request.cancel ⟨2⟩).dialogue (.ofMillis 50) Proposal.supper.date)
      ledger (.ok .cancelled) { lastId := 2 } :=
    .ask (answering_delete [⟨2⟩] ledger) (.done Response.cancelled _)
  have refused : Runs answering ((Request.cancel ⟨1⟩).dialogue (.ofMillis 50) Proposal.supper.date)
      ledger (.error (.notFound ⟨1⟩)) ledger :=
    .ask (answering_delete [⟨1⟩] ledger) (.refused _ _)
  have standing := (cancels _ _ _ _ _ removed).1.1 rfl
  have revoked := mt (cancels _ _ _ _ _ refused).1.2 (by simp)
  exact ⟨reached, few, stored, standing, revoked⟩

end Engine

end TableBooking
