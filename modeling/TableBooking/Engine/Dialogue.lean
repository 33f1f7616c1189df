import TableBooking.Directory
import TableBooking.Duration
import TableBooking.Store.Basic

/-!
What the engine does, as a dialogue that asks its collaborators one call after another. A call is
answered, fails, or takes longer than the caller allows; the dialogue decides what follows and
nothing else, so the same dialogue serves every store, every fault and every order of calls.
-/
namespace TableBooking

inductive Call where
  | listTables (venue : VenueId) (leastCapacity : UInt32)
  | getTable (venue : VenueId) (table : TableId)
  | query (filter : Filter)
  | insert (proposal : Proposal)
  | delete (ids : List BookingId)
  | onDate (venue : VenueId) (date : Date)
  deriving DecidableEq

namespace Call

def collaborator : Call → Collaborator
  | listTables _ _ | getTable _ _ => .tableDirectory
  | query _ | insert _ | delete _ | onDate _ _ => .bookingStore

/-- Whether a call may change what the collaborator keeps. -/
def changes : Call → Bool
  | insert _ | delete _ => true
  | _ => false

def Answer : Call → Type
  | listTables _ _ => List Table
  | getTable _ _ => Option Table
  | query _ => List Booking
  | insert _ => Booking
  | delete _ => List BookingId
  | onDate _ _ => List Booking

def Failure : Call → Type
  | listTables _ _ | getTable _ _ => DirectoryError
  | query _ | insert _ | delete _ | onDate _ _ => StoreError

def breakdown (message : String) : (call : Call) → call.Failure
  | listTables _ _ => DirectoryError.backend message
  | getTable _ _ => DirectoryError.backend message
  | query _ => StoreError.backend message
  | insert _ => StoreError.backend message
  | delete _ => StoreError.backend message
  | onDate _ _ => StoreError.backend message

def failureMessage : (call : Call) → call.Failure → String
  | listTables _ _, e => DirectoryError.message e
  | getTable _ _, e => DirectoryError.message e
  | query _, e => StoreError.message e
  | insert _, e => StoreError.message e
  | delete _, e => StoreError.message e
  | onDate _ _, e => StoreError.message e

end Call

inductive Reply (Failure Answer : Type) where
  | answered (answer : Answer)
  | failed (failure : Failure)
  | timedOut

def Reply.ofExcept {Failure Answer : Type} : Except Failure Answer → Reply Failure Answer
  | .ok answer => .answered answer
  | .error failure => .failed failure

/-- A dialogue that ends in a value or an error, or asks a call and goes on with its reply. -/
inductive Dialogue (α : Type) where
  | done (value : α)
  | refused (error : BookingError)
  | ask (call : Call) (next : Reply call.Failure call.Answer → Dialogue α)

namespace Dialogue

def bind {α β : Type} : Dialogue α → (α → Dialogue β) → Dialogue β
  | done value, f => f value
  | refused error, _ => refused error
  | ask call next, f => ask call fun reply => (next reply).bind f

instance : Monad Dialogue where
  pure := done
  bind := bind

@[simp] theorem pure_eq {α : Type} (value : α) : (pure value : Dialogue α) = done value := rfl

@[simp] theorem done_bind {α β : Type} (value : α) (f : α → Dialogue β) :
    (done value >>= f) = f value := rfl

@[simp] theorem refused_bind {α β : Type} (error : BookingError) (f : α → Dialogue β) :
    (refused error >>= f) = refused error := rfl

@[simp] theorem ask_bind {α β : Type} (call : Call)
    (next : Reply call.Failure call.Answer → Dialogue α) (f : α → Dialogue β) :
    (ask call next >>= f) = ask call fun reply => next reply >>= f := rfl

theorem bind_done {α : Type} (p : Dialogue α) : (p >>= done) = p := by
  induction p with
  | done value => rfl
  | refused error => rfl
  | ask call next ih =>
    rw [ask_bind]
    exact congrArg (ask call) (funext ih)

theorem bind_assoc {α β γ : Type} (p : Dialogue α) (f : α → Dialogue β) (g : β → Dialogue γ) :
    (p >>= f >>= g) = p >>= fun value => f value >>= g := by
  induction p with
  | done value => rfl
  | refused error => rfl
  | ask call next ih =>
    simp only [ask_bind]
    exact congrArg (ask call) (funext ih)

instance : LawfulMonad Dialogue :=
  LawfulMonad.mk' Dialogue bind_done (fun _ _ => rfl) bind_assoc

def obeying : Except Rule Unit → Dialogue Unit
  | .ok () => done ()
  | .error rule => refused (.invalidRequest rule)

/-- A call whose failure or delay ends the dialogue. -/
def call (timeout : Duration) (c : Call) : Dialogue c.Answer :=
  ask c fun
    | .answered answer => done answer
    | .failed failure => refused (.unavailable c.collaborator (c.failureMessage failure))
    | .timedOut => refused (.unavailable c.collaborator s!"timed out after {timeout}")

abbrev Serving (σ : Type) := (call : Call) → σ → Reply call.Failure call.Answer × σ

def run {σ α : Type} (serve : Serving σ) : Dialogue α → σ → Except BookingError α × σ
  | done value, s => (.ok value, s)
  | refused error, s => (.error error, s)
  | ask call next, s =>
    let (reply, after) := serve call s
    run serve (next reply) after

theorem run_bind {σ α β : Type} (serve : Serving σ) (p : Dialogue α) (f : α → Dialogue β) (s : σ) :
    run serve (p >>= f) s =
      match run serve p s with
      | (.ok value, after) => run serve (f value) after
      | (.error error, after) => (.error error, after) := by
  induction p generalizing s with
  | done value => rfl
  | refused error => rfl
  | ask call next ih => exact ih (serve call s).1 (serve call s).2

/-- Runs a dialogue to its end where replies to calls are actions. -/
def runM {m : Type → Type} [Monad m] {α : Type}
    (serve : (call : Call) → m (Reply call.Failure call.Answer)) :
    Dialogue α → m (Except BookingError α)
  | done value => pure (.ok value)
  | refused error => pure (.error error)
  | ask call next => do
    let reply ← serve call
    runM serve (next reply)

theorem runM_stateM {σ α : Type} (serve : Serving σ) (p : Dialogue α) (s : σ) :
    runM (m := StateM σ) serve p s = run serve p s := by
  induction p generalizing s with
  | done value => rfl
  | refused error => rfl
  | ask call next ih => exact ih (serve call s).1 (serve call s).2

def step {σ α : Type} (serve : Serving σ) : Dialogue α → σ → Option (Dialogue α × σ)
  | ask call next, s =>
    let (reply, after) := serve call s
    some (next reply, after)
  | _, _ => none

end Dialogue

/-- Collaborators that reply to every call in time: a directory and a store in a state. -/
def serving {σ : Type} (directory : Directory) (store : Store σ) : Dialogue.Serving σ
  | .listTables venue leastCapacity, s => (.ofExcept (directory.list venue leastCapacity), s)
  | .getTable venue table, s => (.ofExcept (directory.get venue table), s)
  | .query filter, s => (.ofExcept (store.query filter s), s)
  | .insert proposal, s => let (result, after) := store.insert proposal s; (.ofExcept result, after)
  | .delete ids, s => let (result, after) := store.delete ids s; (.ofExcept result, after)
  | .onDate venue date, s => (.ofExcept (store.onDate venue date s), s)

end TableBooking
