import Mathlib.Data.List.Perm.Basic
import TableBooking.Proofs.Ledger.Invariant
import TableBooking.Proofs.Store.File

/-!
The file store does what the ledger does. A document mirrors a ledger when it has the ledger's last
number and its bookings in the order of their numbers; requests keep the mirror and get the same
answers from both.
-/
namespace TableBooking

namespace Ledger

def document (ledger : Ledger) : Document where
  lastId := ledger.lastId
  bookings := ledger.bookings

/-- An insertion into the document answers and changes it as one into the ledger does. -/
theorem inserting_document {ledger : Ledger} (h : Numbered ledger)
    (left : ledger.lastId.toNat + 1 < UInt64.size) (p : Proposal) :
    (ledger.document.inserting p).1 = (store.insert p ledger).1 ∧
      (ledger.document.inserting p).2.getD ledger.document =
        (store.insert p ledger).2.document := by
  cases found : ledger.bookings.find? (·.clashesWith p) with
  | none =>
    have same := bookings_accept h left p
    simp only [Document.inserting, Document.insert, document, store, insert, found]
    exact ⟨trivial, congrArg (Document.mk _) same.symm⟩
  | some clash =>
    simp only [Document.inserting, Document.insert, document, store, insert, found]
    exact ⟨trivial, rfl⟩

variable {ledger : Ledger}

theorem mem_present (h : Invariant ledger) {ids : List BookingId} {id : BookingId} :
    id ∈ ledger.document.present ids ↔ id ∈ (ledger.delete ids).1 := by
  rw [mem_delete_fst]
  simp only [Document.present, document, bookings, List.mem_filter, List.mem_map,
    List.contains_iff_mem]
  constructor
  · rintro ⟨⟨b, ⟨e, he, rfl⟩, rfl⟩, asked⟩
    refine ⟨asked, e.2, ?_⟩
    rw [h.keyed e he]
    exact he
  · rintro ⟨asked, b, hb⟩
    exact ⟨⟨b, ⟨_, hb, rfl⟩, h.keyed _ hb⟩, asked⟩

theorem present_nodup (h : Invariant ledger) (ids : List BookingId) :
    (ledger.document.present ids).Nodup := by
  refine List.Pairwise.filter _ (List.pairwise_map.2 ((ids_ascending h).imp fun below same => ?_))
  rw [same] at below
  exact UInt64.lt_irrefl _ below

theorem present_perm (h : Invariant ledger) (ids : List BookingId) :
    (ledger.document.present ids).Perm (ledger.delete ids).1 :=
  (List.perm_ext_iff_of_nodup (present_nodup h ids) (nodup_delete_fst ledger ids)).2
    fun _ => mem_present h

theorem document_without (h : Invariant ledger) (ids : List BookingId) :
    ledger.document.without (ledger.document.present ids) = (ledger.delete ids).2.document := by
  have gone : ∀ e ∈ ledger.entries,
      (!(ledger.document.present ids).contains e.2.id) = decide (e.1 ∉ ids) := by
    intro e he
    have same : e.2.id ∈ ledger.document.present ids ↔ e.1 ∈ ids := by
      rw [mem_present h, mem_delete_fst, h.keyed e he]
      exact and_iff_left ⟨e.2, he⟩
    rw [Bool.eq_iff_iff]
    simp [same]
  rw [Ledger.delete_snd]
  unfold Document.without
  simp only [document, bookings, List.filter_map]
  exact congrArg (fun entries => Document.mk ledger.lastId (List.map (·.2) entries))
    (List.filter_congr gone)

/-- A deletion from the document takes away what one from the ledger does; only the order of the
answer may differ. -/
theorem deleting_document (h : Invariant ledger) (ids : List BookingId) :
    (∃ removed, (ledger.document.deleting ids).1 = .ok removed ∧ removed.Nodup ∧
      removed.Perm (ledger.delete ids).1) ∧
      (ledger.document.deleting ids).2.getD ledger.document = (ledger.delete ids).2.document := by
  have nodup := present_nodup h ids
  have perm := present_perm h ids
  have rest := document_without h ids
  unfold Document.deleting
  cases present : ledger.document.present ids with
  | nil =>
    -- nothing is taken away, so the document that was not saved is the one of the ledger
    rw [present] at nodup perm rest
    have same : ledger.document.without [] = ledger.document := by simp [Document.without]
    exact ⟨⟨[], rfl, nodup, perm⟩, same.symm.trans rest⟩
  | cons id more =>
    rw [present] at nodup perm rest
    exact ⟨⟨_, rfl, nodup, perm⟩, rest⟩

end Ledger

namespace Store

/-- What a store is asked. It may be opened anew between any two requests. -/
inductive Request where
  | query (filter : Filter)
  | onDate (venue : VenueId) (date : Date)
  | insert (proposal : Proposal)
  | delete (ids : List BookingId)
  | reopen

inductive Answer where
  | listed (found : Except StoreError (List Booking))
  | inserted (booking : Except StoreError Booking)
  | deleted (removed : Except StoreError (List BookingId))
  | reopened

def serve {σ : Type} (store : Store σ) : Request → σ → Answer × σ
  | .query filter, s => (.listed (store.query filter s), s)
  | .onDate venue date, s => (.listed (store.onDate venue date s), s)
  | .insert proposal, s => ((store.insert proposal s).map .inserted id)
  | .delete ids, s => ((store.delete ids s).map .deleted id)
  | .reopen, s => (.reopened, s)

def trace {σ : Type} (store : Store σ) : List Request → σ → List (Answer × σ)
  | [], _ => []
  | request :: requests, s =>
    store.serve request s :: store.trace requests (store.serve request s).2

def Request.insertions : Request → Nat
  | .insert _ => 1
  | _ => 0

/-- The answers are the same, up to the order of the numbers that were deleted. -/
def Answer.Agrees : Answer → Answer → Prop
  | .deleted (.ok removed), .deleted (.ok other) => removed.Nodup ∧ removed.Perm other
  | answer, other => answer = other

/-- No call to the file system failed on the way to the answer. -/
def Answer.Undisturbed : Answer → Prop
  | .listed found => ∀ e, found ≠ .error (.file e)
  | .inserted booking => ∀ e, booking ≠ .error (.file e)
  | .deleted removed => ∀ e, removed ≠ .error (.file e)
  | .reopened => True

end Store

namespace FileStore

open Store

/-- The document has the last number of the ledger and its bookings in the order of their
numbers. -/
structure Mirrors (path : Path) (tree : FileTree) (ledger : Ledger) : Prop where
  decoded : load path tree = .ok { lastId := ledger.lastId, bookings := ledger.bookings }
  ordered : ledger.bookings.Pairwise fun a b => a.id.number < b.id.number

structure Synced (path : Path) (tree : FileTree) (ledger : Ledger) (insertions : Nat) : Prop where
  keeps : Keeps path tree ledger.document
  readable : Readable path tree
  numbered : ledger.Numbered
  last : ledger.lastId.toNat ≤ insertions

variable {path : Path} {tree : FileTree} {ledger : Ledger} {insertions : Nat}

theorem Synced.load (h : Synced path tree ledger insertions) :
    load path tree = .ok ledger.document :=
  h.keeps.load h.readable

theorem Synced.mirrors (h : Synced path tree ledger insertions) : Mirrors path tree ledger :=
  ⟨h.load, Ledger.ids_ascending h.numbered.invariant⟩

theorem synced_insert (h : Synced path tree ledger insertions) (left : insertions + 1 < UInt64.size)
    (p : Proposal) (undisturbed : ∀ e, (insert path p tree).1 ≠ .error (.file e)) :
    (insert path p tree).1 = (Ledger.store.insert p ledger).1 ∧
      Synced path (insert path p tree).2 (Ledger.store.insert p ledger).2 (insertions + 1) := by
  have last := h.last
  have left : ledger.lastId.toNat + 1 < UInt64.size := by omega
  obtain ⟨same, follows⟩ := Ledger.inserting_document h.numbered left p
  rw [insert_eq_change] at undisturbed ⊢
  obtain ⟨answered, keeps, readable⟩ := change_of_keeps h.keeps undisturbed
  rw [follows] at keeps
  by_cases free : ledger.Free p
  · rw [Ledger.store_insert_of_free free] at same keeps ⊢
    have next : (ledger.accept p).lastId.toNat = ledger.lastId.toNat + 1 :=
      Ledger.toNat_nextId left
    have numbered := Ledger.accept_numbered h.numbered left free
    exact ⟨answered.trans same, keeps, readable, numbered, by simp only [next]; omega⟩
  · obtain ⟨_, _, _, refused⟩ := Ledger.store_insert_of_not_free free
    rw [refused] at same keeps ⊢
    exact ⟨answered.trans same, keeps, readable, h.numbered, Nat.le_succ_of_le last⟩

theorem synced_delete (h : Synced path tree ledger insertions) (ids : List BookingId)
    (undisturbed : ∀ e, (delete path ids tree).1 ≠ .error (.file e)) :
    (∃ removed, (delete path ids tree).1 = .ok removed ∧ removed.Nodup ∧
      removed.Perm (ledger.delete ids).1) ∧
      Synced path (delete path ids tree).2 (ledger.delete ids).2 insertions := by
  obtain ⟨⟨removed, same, nodup, perm⟩, follows⟩ :=
    Ledger.deleting_document h.numbered.invariant ids
  rw [delete_eq_change] at undisturbed ⊢
  obtain ⟨answered, keeps, readable⟩ := change_of_keeps h.keeps undisturbed
  rw [follows] at keeps
  have last : (ledger.delete ids).2.lastId.toNat ≤ insertions := by
    rw [Ledger.delete_snd]
    exact h.last
  have numbered := Ledger.delete_numbered h.numbered ids
  exact ⟨⟨removed, answered.trans same, nodup, perm⟩, keeps, readable, numbered, last⟩

/-- One request keeps file and ledger in step and gets the same answer from both. -/
theorem synced_serve (h : Synced path tree ledger insertions) (request : Request)
    (left : insertions + request.insertions < UInt64.size)
    (undisturbed : ((store path).serve request tree).1.Undisturbed) :
    ((store path).serve request tree).1.Agrees (Ledger.store.serve request ledger).1 ∧
      Synced path ((store path).serve request tree).2 (Ledger.store.serve request ledger).2
        (insertions + request.insertions) := by
  cases request with
  | query filter =>
    refine ⟨congrArg Answer.listed ?_, h⟩
    simp only [store, h.load]
    rfl
  | onDate venue date =>
    refine ⟨congrArg Answer.listed ?_, h⟩
    simp only [store, h.load]
    rfl
  | insert p =>
    obtain ⟨same, synced⟩ := synced_insert h left p undisturbed
    exact ⟨congrArg Answer.inserted same, synced⟩
  | delete ids =>
    obtain ⟨⟨removed, answered, nodup, perm⟩, synced⟩ := synced_delete h ids undisturbed
    refine ⟨?_, synced⟩
    simp only [serve, store, Prod.map_fst, answered]
    exact ⟨nodup, perm⟩
  | reopen => exact ⟨rfl, h⟩

theorem synced_trace (h : Synced path tree ledger insertions) (requests : List Request)
    (few : insertions + (requests.map Request.insertions).sum < UInt64.size)
    (undisturbed : ∀ step ∈ (store path).trace requests tree, step.1.Undisturbed) :
    List.Forall₂ (fun onFile inMemory =>
        onFile.1.Agrees inMemory.1 ∧ Mirrors path onFile.2 inMemory.2)
      ((store path).trace requests tree) (Ledger.store.trace requests ledger) := by
  induction requests generalizing tree ledger insertions with
  | nil => exact .nil
  | cons request requests ih =>
    rw [List.map_cons, List.sum_cons] at few
    obtain ⟨agrees, synced⟩ :=
      synced_serve h request (by omega) (undisturbed _ (List.mem_cons_self ..))
    refine .cons ⟨agrees, synced.mirrors⟩ (ih synced (by omega) fun step later => ?_)
    exact undisturbed step (List.mem_cons_of_mem _ later)

theorem synced_of_vacant (vacant : Vacant path tree) (readable : Readable path tree) :
    Synced path tree {} 0 :=
  ⟨Or.inl ⟨rfl, vacant⟩, readable, Ledger.empty_numbered, Nat.le_refl 0⟩

/-- A file without a document answers all requests as the empty ledger does, and its document
mirrors the ledger after each of them, as long as numbers last and no call to the file system
fails. -/
theorem file_refines_ledger {requests : List Request} (vacant : Vacant path tree)
    (readable : Readable path tree)
    (few : (requests.map Request.insertions).sum < UInt64.size - 1)
    (undisturbed : ∀ step ∈ (store path).trace requests tree, step.1.Undisturbed) :
    List.Forall₂ (fun onFile inMemory =>
        onFile.1.Agrees inMemory.1 ∧ Mirrors path onFile.2 inMemory.2)
      ((store path).trace requests tree) (Ledger.store.trace requests {}) := by
  apply synced_trace (synced_of_vacant vacant readable) requests
  · omega
  · exact undisturbed

/-- Where the directory of the document is there and no other one is in the way, no call to the file
system fails, and that stays so. -/
theorem Settled.serve (h : Settled path tree) (request : Request) :
    ((store path).serve request tree).1.Undisturbed ∧
      Settled path ((store path).serve request tree).2 := by
  cases request with
  | query filter => exact ⟨h.readable.map_load _, h⟩
  | onDate venue date => exact ⟨h.readable.map_load _, h⟩
  | insert p =>
    simp only [Store.serve, store, Prod.map, insert_eq_change]
    exact h.change (Document.inserting_ne_file p)
  | delete ids =>
    simp only [Store.serve, store, Prod.map, delete_eq_change]
    exact h.change (Document.deleting_ne_file ids)
  | reopen => exact ⟨trivial, h⟩

theorem Settled.undisturbed (h : Settled path tree) (requests : List Request) :
    ∀ step ∈ (store path).trace requests tree, step.1.Undisturbed := by
  induction requests generalizing tree with
  | nil => simp [trace]
  | cons request requests ih =>
    obtain ⟨undisturbed, settled⟩ := h.serve request
    rw [trace, List.forall_mem_cons]
    exact ⟨undisturbed, ih settled⟩

/-- A table is taken, wanted again, given up by an order that names it twice, and taken anew; the
file is looked at and opened again on the way. -/
theorem suppers_refine :
    let path : Path := ⟨"data/bookings.json"⟩
    let tree : FileTree := ⟨[(⟨false, ["data"]⟩, .directory)]⟩
    let requests : List Request :=
      [.insert .supper, .insert .supper, .reopen, .insert .nightcap, .delete [⟨1⟩, ⟨3⟩, ⟨1⟩],
        .insert .supper, .onDate Proposal.supper.venue Proposal.supper.date]
    (requests.map Request.insertions).sum < UInt64.size - 1 ∧
      List.Forall₂ (fun onFile inMemory =>
          onFile.1.Agrees inMemory.1 ∧ Mirrors path onFile.2 inMemory.2)
        ((store path).trace requests tree) (Ledger.store.trace requests {}) := by
  intro path tree requests
  have few : (requests.map Request.insertions).sum < UInt64.size - 1 := by decide
  have vacant : Vacant path tree := vacant_of_none (by decide)
  have settled : Settled path tree := settled_in_data
  exact ⟨few, file_refines_ledger vacant settled.readable few (settled.undisturbed requests)⟩

end FileStore

end TableBooking
