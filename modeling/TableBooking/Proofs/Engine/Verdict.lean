import TableBooking.Proofs.Engine.Acknowledgement

/-!
The verdict on a commit. A commit goes through stages, each with the call it makes and the failure
it may find. The first stage that fails decides, no call is made behind it, and the ledger changes
only where none fails.
-/
namespace TableBooking

namespace Engine

/-- A stage of a request: the call that it makes, if any, and the failure that it finds, if any. -/
structure Stage where
  call : Option Call := none
  failure : Option BookingError

namespace Stage

def asked : List Stage → List Call
  | [] => []
  | stage :: rest => stage.call.toList ++ if stage.failure.isSome then [] else asked rest

def verdict {α : Type} (stages : List Stage) (value : α) : Except BookingError α :=
  match stages.findSome? (·.failure) with
  | some error => .error error
  | none => .ok value

end Stage

end Engine

namespace Dialogue

open Engine (Stage)

variable {σ α β : Type}

def calls (serve : Serving σ) : Dialogue α → σ → List Call
  | .done _, _ | .refused _, _ => []
  | .ask call next, s => call :: (next (serve call s).1).calls serve (serve call s).2

/-- The dialogue makes the calls of its stages and is refused as they say. -/
structure DecidedBy (serve : Serving σ) (p : Dialogue α) (s : σ) (stages : List Stage) : Prop where
  asked : p.calls serve s = Stage.asked stages
  refused : ∀ e, (p.run serve s).1 = .error e ↔ stages.findSome? (·.failure) = some e

variable {serve : Serving σ} {s : σ} {p : Dialogue α} {rest : List Stage}

theorem decidedBy_done (value : α) : DecidedBy serve (.done value) s [] where
  asked := rfl
  refused e := by simp [run]

theorem decidedBy_refused (e : BookingError) (rest : List Stage) :
    DecidedBy serve (.refused e : Dialogue α) s ({ failure := some e } :: rest) where
  asked := rfl
  refused e' := by simp [run]

theorem DecidedBy.passed (h : DecidedBy serve p s rest) :
    DecidedBy serve p s ({ failure := none } :: rest) where
  asked := by simpa [Stage.asked] using h.asked
  refused e := by simpa using h.refused e

theorem decidedBy_ask {call : Call} {next : Reply call.Failure call.Answer → Dialogue α}
    {failure : Option BookingError}
    (h : DecidedBy serve (next (serve call s).1) (serve call s).2 ({ failure } :: rest)) :
    DecidedBy serve (.ask call next) s ({ call := some call, failure } :: rest) where
  asked := congrArg (call :: ·) h.asked
  refused e := h.refused e

def unavailability (timeout : Duration) (call : Call) :
    Reply call.Failure call.Answer → Option BookingError
  | .answered _ => none
  | .failed failure => some (.unavailable call.collaborator (call.failureMessage failure))
  | .timedOut => some (.unavailable call.collaborator s!"timed out after {timeout}")

theorem decidedBy_call {timeout : Duration} {c : Call} {f : c.Answer → Dialogue α}
    (h : ∀ answer, (serve c s).1 = .answered answer →
      DecidedBy serve (f answer) (serve c s).2 rest) :
    DecidedBy serve (call timeout c >>= f) s
      ({ call := some c, failure := unavailability timeout c (serve c s).1 } :: rest) := by
  apply decidedBy_ask
  cases replied : (serve c s).1 with
  | answered answer => exact (h answer replied).passed
  | failed failure => exact decidedBy_refused _ rest
  | timedOut => exact decidedBy_refused _ rest

def broken : Except Rule Unit → Option BookingError
  | .ok _ => none
  | .error rule => some (.invalidRequest rule)

theorem decidedBy_obeying {obeyed : Except Rule Unit} (h : DecidedBy serve p s rest) :
    DecidedBy serve (obeying obeyed >>= fun _ => p) s ({ failure := broken obeyed } :: rest) := by
  cases obeyed with
  | ok _ => exact h.passed
  | error rule => exact decidedBy_refused _ rest

end Dialogue

namespace Engine

open Dialogue

section Stages

variable (p : Proposal)

def unknownTable : Reply DirectoryError (Option Table) → Option BookingError
  | .answered none => some (.invalidRequest (.unknownTable p.table))
  | _ => none

def smallTable : Reply DirectoryError (Option Table) → Option BookingError
  | .answered (some table) =>
    if table.capacity < p.partySize then
      some (.invalidRequest (.tableTooSmall table.id table.capacity p.partySize))
    else none
  | _ => none

def clash : Reply StoreError (List Booking) → Option BookingError
  | .answered bookings =>
    if ∃ b ∈ bookings, b.clashesWith p = true then some (.conflict p.table p.date) else none
  | _ => none

/-- An insertion that is late, or fails otherwise than by an exclusion. -/
def uninserted (timeout : Duration) : Reply StoreError Booking → Option BookingError
  | .timedOut => some (.unavailable .bookingStore s!"timed out after {timeout}")
  | .failed (.exclusion _) | .answered _ => none
  | .failed failure => some (.unavailable .bookingStore failure.message)

def excluded : Reply StoreError Booking → Option BookingError
  | .failed (.exclusion _) => some (.conflict p.table p.date)
  | _ => none

/-- The stages of a commit, given what its calls would be replied if they were made. -/
def commitStages (timeout : Duration) (today : Date)
    (table : Reply DirectoryError (Option Table)) (bookings : Reply StoreError (List Booking))
    (insertion : Reply StoreError Booking) : List Stage :=
  let getTable : Call := .getTable p.venue p.table
  let query : Call := .query ⟨p.venue, [p.table], p.date⟩
  [ { failure := broken (p.check today) },
    { call := some getTable, failure := unavailability timeout getTable table },
    { failure := unknownTable p table },
    { failure := smallTable p table },
    { call := some query, failure := unavailability timeout query bookings },
    { failure := clash p bookings },
    { call := some (.insert p), failure := uninserted timeout insertion },
    { failure := excluded p insertion } ]

end Stages

section Commit

variable {σ : Type} {serve : Serving σ} {timeout : Duration} {today : Date} {p : Proposal} {s : σ}
  {rest : List Stage}

theorem decidedBy_insertProposal :
    DecidedBy serve (insertProposal timeout p) s
      [{ call := some (.insert p), failure := uninserted timeout (serve (.insert p) s).1 },
        { failure := excluded p (serve (.insert p) s).1 }] := by
  apply decidedBy_ask
  cases (serve (.insert p) s).1 with
  | answered b => exact (decidedBy_done b).passed.passed
  | timedOut => exact decidedBy_refused _ _
  | failed failure =>
    cases failure with
    | exclusion existing => exact (decidedBy_refused _ []).passed
    | file cause => exact decidedBy_refused _ _
    | serialization reason => exact decidedBy_refused _ _
    | backend message => exact decidedBy_refused _ _

/-- A look at the table is followed by the two stages that judge it. -/
theorem decidedBy_checkTable {q : Dialogue Booking}
    (h : DecidedBy serve q (serve (.getTable p.venue p.table) s).2 rest) :
    DecidedBy serve (checkTable timeout p >>= fun _ => q) s
      ({ call := some (.getTable p.venue p.table),
         failure := unavailability timeout _ (serve (.getTable p.venue p.table) s).1 } ::
        { failure := unknownTable p (serve (.getTable p.venue p.table) s).1 } ::
        { failure := smallTable p (serve (.getTable p.venue p.table) s).1 } :: rest) := by
  unfold checkTable
  rw [bind_assoc]
  apply decidedBy_call
  intro found replied
  rw [replied]
  cases found with
  | none => exact decidedBy_refused _ _
  | some table =>
    apply DecidedBy.passed
    by_cases small : table.capacity < p.partySize
    · have unseated : table.seats p.partySize = false := by simpa [Table.seats] using small
      simp only [unseated, smallTable, small, if_true, Bool.false_eq_true, if_false]
      exact decidedBy_refused _ _
    · have seated : table.seats p.partySize = true := by simpa [Table.seats] using small
      simp only [seated, smallTable, small, if_true, if_false]
      exact h.passed

theorem decidedBy_secure (still : (serve (.query ⟨p.venue, [p.table], p.date⟩) s).2 = s) :
    DecidedBy serve (secure timeout p) s
      [{ call := some (.query ⟨p.venue, [p.table], p.date⟩),
         failure := unavailability timeout _ (serve (.query ⟨p.venue, [p.table], p.date⟩) s).1 },
        { failure := clash p (serve (.query ⟨p.venue, [p.table], p.date⟩) s).1 },
        { call := some (.insert p), failure := uninserted timeout (serve (.insert p) s).1 },
        { failure := excluded p (serve (.insert p) s).1 }] := by
  unfold secure bookingsFor
  rw [if_neg (List.cons_ne_nil _ _), bind_assoc]
  apply decidedBy_call
  intro (bookings : List Booking) replied
  rw [replied, still]
  have free := overlapping_admitted_eq_nil_iff bookings p (List.mem_singleton_self p.table)
  by_cases clashes : ∃ b ∈ bookings, b.clashesWith p = true
  · have some := mt free.1 (by simpa using clashes)
    simp only [pure_eq, done_bind, place_of_ne_nil some, clash, clashes, if_true]
    exact decidedBy_refused _ _
  · have none := free.2 (by simpa using clashes)
    simp only [pure_eq, done_bind, place_of_nil none, clash, clashes, if_false]
    exact decidedBy_insertProposal.passed

/-- A commit goes through its stages, if looking at tables and bookings changes nothing. -/
theorem decidedBy_commit (looked : (serve (.getTable p.venue p.table) s).2 = s)
    (queried : (serve (.query ⟨p.venue, [p.table], p.date⟩) s).2 = s) :
    DecidedBy serve (commit timeout today p) s
      (commitStages p timeout today (serve (.getTable p.venue p.table) s).1
        (serve (.query ⟨p.venue, [p.table], p.date⟩) s).1 (serve (.insert p) s).1) := by
  apply decidedBy_obeying
  apply decidedBy_checkTable
  rw [looked]
  exact decidedBy_secure queried

end Commit

/-- A commit is decided by its first failing stage, whatever its calls are replied: no call is made
behind that stage, and the caller is told of its failure. The ledger changes exactly where none
fails, and then by the booking under the next number. -/
theorem commit_decided_by_first_failure {serve : Serving Ledger}
    (told : ∀ call ledger, truthful call ledger (serve call ledger).1 (serve call ledger).2)
    {ledger : Ledger} (reachable : ledger.Reachable)
    (left : ledger.lastId.toNat + 1 < UInt64.size) (timeout : Duration) (today : Date)
    (p : Proposal) :
    let stages := commitStages p timeout today (serve (.getTable p.venue p.table) ledger).1
      (serve (.query ⟨p.venue, [p.table], p.date⟩) ledger).1 (serve (.insert p) ledger).1
    let ran := (commit timeout today p).run serve ledger
    (commit timeout today p).calls serve ledger = Stage.asked stages ∧
      ran.1 = Stage.verdict stages (p.booked ⟨ledger.lastId + 1⟩) ∧
      (ran.2 ≠ ledger ↔ ∃ b, ran.1 = .ok b) ∧
      ∀ b, ran.1 = .ok b → b = p.booked ⟨ledger.lastId + 1⟩ ∧
        ran.2.lastId.toNat = ledger.lastId.toNat + 1 ∧ ran.2.bookings = ledger.bookings ++ [b] := by
  intro stages ran
  have decided : DecidedBy serve (commit timeout today p) ledger stages :=
    decidedBy_commit (truthful_reads _ _ _ _ rfl (told _ ledger))
      (truthful_reads _ _ _ _ rfl (told _ ledger))
  have run : Runs truthful (commit timeout today p) ledger ran.1 ran.2 := runs_run told _ ledger
  rcases commit_effect run with ⟨e, refused, same⟩ | ⟨free, booked, accepted⟩
  · have failed := (decided.refused e).1 refused
    refine ⟨decided.asked, ?_, ?_, ?_⟩
    · rw [refused, Stage.verdict, failed]
    · simp [refused, same]
    · simp [refused]
  · have passed : stages.findSome? (·.failure) = none := by
      rw [Option.eq_none_iff_forall_ne_some]
      intro e failed
      have refused : ran.1 = .error e := (decided.refused e).2 failed
      rw [booked] at refused
      cases refused
    have next : ran.2.lastId.toNat = ledger.lastId.toNat + 1 := by
      rw [accepted]
      exact Ledger.toNat_nextId left
    refine ⟨decided.asked, ?_, ?_, ?_⟩
    · rw [booked, Stage.verdict, passed]
      rfl
    · refine iff_of_true ?_ ⟨_, booked⟩
      intro same
      rw [same] at next
      omega
    · intro b same
      rw [booked] at same
      cases same
      refine ⟨rfl, next, ?_⟩
      rw [accepted]
      exact Ledger.bookings_accept reachable.numbered left p

def misplacedExclusion : Faults := { store := some ⟨.excludes ⟨7⟩, some .query⟩ }

theorem misplacedExclusion_honest : misplacedExclusion.Honest := by
  intro ids m met
  cases met

/-- An exclusion that no insertion met is no conflict, and the insertion is not tried. -/
theorem supper_stopped_at_query :
    let p := Proposal.supper
    let serve := faulty misplacedExclusion (.ofMillis 50)
      (serving TableMap.sample.directory Ledger.store)
    ({} : Ledger).Reachable ∧
      (commit (.ofMillis 50) p.date p).calls serve {} =
        [.getTable p.venue p.table, .query ⟨p.venue, [p.table], p.date⟩] ∧
      (commit (.ofMillis 50) p.date p).run serve {} =
        (.error (.unavailable .bookingStore "overlaps existing booking 7"), {}) := by
  intro p serve
  obtain ⟨asked, verdict, changed, -⟩ := commit_decided_by_first_failure
    (truthful_faulty misplacedExclusion_honest (.ofMillis 50) TableMap.sample.directory)
    Ledger.Reachable.empty (by decide) (.ofMillis 50) p.date p
  have refused : ((commit (.ofMillis 50) p.date p).run serve {}).1 =
      .error (.unavailable .bookingStore "overlaps existing booking 7") :=
    verdict.trans (by decide +kernel)
  have same : ((commit (.ofMillis 50) p.date p).run serve {}).2 = {} := by
    by_contra other
    obtain ⟨b, booked⟩ := changed.1 other
    rw [refused] at booked
    cases booked
  exact ⟨.empty, asked.trans (by decide +kernel), Prod.ext refused same⟩

end Engine

end TableBooking
