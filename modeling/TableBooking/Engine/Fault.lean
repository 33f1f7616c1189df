import TableBooking.Engine.Dialogue

/-!
Collaborators that misbehave: calls that fail, are late, or are answered with what the collaborator
never said. A fault is put between the engine and a collaborator and may concern one kind of call
only.
-/
namespace TableBooking

inductive CallKind where
  | listTables
  | getTable
  | query
  | insert
  | delete
  | onDate
  deriving DecidableEq

def Call.kind : Call → CallKind
  | .listTables _ _ => .listTables
  | .getTable _ _ => .getTable
  | .query _ => .query
  | .insert _ => .insert
  | .delete _ => .delete
  | .onDate _ _ => .onDate

inductive Misbehaviour where
  | fails (message : String)
  | failsWithStatus (code : Nat)
  | excludes (existing : BookingId)
  | stalls
  /-- Replies after so many microseconds, if the caller still waits. -/
  | delays (micros : Nat)
  /-- Answers with these tables, bookings and numbers; insertions are served. -/
  | answers (tables : List Table) (bookings : List Booking) (removed : List BookingId)

structure Fault where
  misbehaviour : Misbehaviour
  only : Option CallKind := none

namespace Misbehaviour

def directoryFailure? : Misbehaviour → Option DirectoryError
  | fails message => some (.backend message)
  | failsWithStatus code => some (.status code)
  | _ => none

def storeFailure? : Misbehaviour → Option StoreError
  | fails message => some (.backend message)
  | excludes existing => some (.exclusion existing)
  | _ => none

def failure? (m : Misbehaviour) : (call : Call) → Option call.Failure
  | .listTables _ _ => m.directoryFailure?
  | .getTable _ _ => m.directoryFailure?
  | .query _ => m.storeFailure?
  | .insert _ => m.storeFailure?
  | .delete _ => m.storeFailure?
  | .onDate _ _ => m.storeFailure?

def answer? (m : Misbehaviour) : (call : Call) → Option call.Answer
  | .listTables _ _ => match m with | answers tables _ _ => some tables | _ => none
  | .getTable _ _ => match m with | answers tables _ _ => some tables.head? | _ => none
  | .query _ => match m with | answers _ bookings _ => some bookings | _ => none
  | .insert _ => none
  | .delete _ => match m with | answers _ _ removed => some removed | _ => none
  | .onDate _ _ => match m with | answers _ bookings _ => some bookings | _ => none

def isLate (m : Misbehaviour) (timeout : Duration) : Bool :=
  match m with
  | stalls => true
  | delays micros => timeout.nanos < micros * 1_000
  | _ => false

end Misbehaviour

structure Faults where
  directory : Option Fault := none
  store : Option Fault := none

def Faults.meets (faults : Faults) (call : Call) : Option Misbehaviour :=
  let fault? :=
    match call.collaborator with
    | .tableDirectory => faults.directory
    | .bookingStore => faults.store
  match fault? with
  | some fault =>
    if fault.only = none ∨ fault.only = some call.kind then some fault.misbehaviour else none
  | none => none

/-- Collaborators with faults. A call that fails, or whose reply comes too late, has no effect. -/
def faulty {σ : Type} (faults : Faults) (timeout : Duration) (serve : Dialogue.Serving σ) :
    Dialogue.Serving σ := fun call s =>
  match faults.meets call with
  | none => serve call s
  | some m =>
    if m.isLate timeout then (.timedOut, s)
    else
      match m.failure? call with
      | some failure => (.failed failure, s)
      | none =>
        match m.answer? call with
        | some answer => (.answered answer, s)
        | none => serve call s

end TableBooking
