import TableBooking.Proofs.Calendar.Order
import TableBooking.Proofs.Engine.Exclusion
import TableBooking.Proofs.Store.Document
import TableBooking.Proofs.Store.Effect

/-!
The business rules of what is stored. Every way into a store leads through the rules of a request
and the look at the table, so what the rules ask of a proposal holds of every booking in every state
that requests lead to, in memory and in a file.
-/
namespace TableBooking

structure Proposal.Lawful (map : TableMap) (p : Proposal) : Prop where
  venue : Text.allBlank p.venue.text = false
  customer : Text.allBlank p.customer.text = false
  party : 1 ≤ p.partySize.toNat
  seated : ∃ table, map.get? p.venue p.table = some table ∧
    p.partySize.toNat ≤ table.capacity.toNat
  dated : p.window.startsAt.date = p.date ∧ p.window.endsAt.date = p.date
  lasting : 0 < p.window.span
  short : p.window.span ≤ 12 * 3600 * 1_000_000_000

theorem Proposal.lawful_of_check {map : TableMap} {p : Proposal} {today : Date}
    (checked : p.check today = .ok ())
    (seated : ∃ table, map.get? p.venue p.table = some table ∧
      p.partySize.toNat ≤ table.capacity.toNat) : p.Lawful map := by
  obtain ⟨venue, customer, party, -, within⟩ := (checkRequest_eq_ok_iff ..).1 checked
  have positive : p.partySize.toNat ≠ 0 := fun zero => party (UInt32.toNat_inj.1 zero)
  exact ⟨venue, customer, Nat.one_le_iff_ne_zero.2 positive, seated,
    (Window.liesWithin_iff _ _).1 within, Window.span_pos within, p.window.short⟩

def Call.Lawful (map : TableMap) : Call → Prop
  | .insert p => p.Lawful map
  | _ => True

theorem Call.lawful_of_reading {map : TableMap} {call : Call} (h : call.changes = false) :
    call.Lawful map := by
  cases call with
  | insert => cases h
  | _ => trivial

/-- A reply that tells of a table only what the map holds, or nothing. Any other reply is allowed. -/
def Call.Candid (map : TableMap) : (call : Call) → Reply call.Failure call.Answer → Prop
  | .getTable venue table, .answered found => found = map.get? venue table
  | _, _ => True

/-- Collaborators that are candid about tables. Calls take effect or not, whatever is replied. -/
def candid {σ : Type} (map : TableMap) (store : Store σ) : Dialogue.Conduct σ :=
  fun call s reply after =>
    call.Candid map reply ∧ (after = s ∨ after = (serving map.directory store call s).2)

/-- No look at a table is answered in the directory's place. -/
def Faults.Candid (faults : Faults) : Prop :=
  ∀ venue table, ∀ m ∈ faults.meets (.getTable venue table),
    m.answer? (.getTable venue table) = none

section Candor

variable {σ : Type} {map : TableMap} {store : Store σ}

theorem candid_served (call : Call) (s : σ) :
    candid map store call s (serving map.directory store call s).1
      (serving map.directory store call s).2 := by
  refine ⟨?_, Or.inr rfl⟩
  cases call with
  | getTable => rfl
  | _ => trivial

theorem candid_failed (call : Call) (failure : call.Failure) (s : σ) :
    candid map store call s (.failed failure) s := by
  refine ⟨?_, Or.inl rfl⟩
  cases call <;> trivial

theorem candid_timedOut (call : Call) (s : σ) : candid map store call s .timedOut s := by
  refine ⟨?_, Or.inl rfl⟩
  cases call <;> trivial

theorem candid_faulty {faults : Faults} (candor : faults.Candid) (timeout : Duration)
    (call : Call) (s : σ) :
    candid map store call s (faulty faults timeout (serving map.directory store) call s).1
      (faulty faults timeout (serving map.directory store) call s).2 := by
  refine faulty_allowed (candid_served call s) (candid_failed call · s) (candid_timedOut call s) ?_
    timeout
  intro m met answer answered
  refine ⟨?_, Or.inl rfl⟩
  cases call with
  | getTable venue table =>
    rw [candor venue table m met] at answered
    cases answered
  | _ => trivial

end Candor

namespace Dialogue

variable {α β : Type} {map : TableMap}

/-- Whatever candid collaborators reply, the dialogue inserts only lawful proposals, and `Q` holds of
its value. -/
def Abides (map : TableMap) (Q : α → Prop) : Dialogue α → Prop
  | .done value => Q value
  | .refused _ => True
  | .ask call next => call.Lawful map ∧ ∀ reply, call.Candid map reply → (next reply).Abides map Q

theorem abides_bind {Q : α → Prop} {R : β → Prop} {p : Dialogue α} {f : α → Dialogue β}
    (first : p.Abides map Q) (second : ∀ value, Q value → (f value).Abides map R) :
    (p >>= f).Abides map R := by
  induction p with
  | done value => exact second value first
  | refused error => trivial
  | ask call next ih => exact ⟨first.1, fun reply told => ih reply (first.2 reply told)⟩

theorem abides_of_asks {p : Dialogue α} (asks : p.Asks (Call.Lawful map)) :
    p.Abides map fun _ => True := by
  induction p with
  | done value => trivial
  | refused error => trivial
  | ask call next ih => exact ⟨asks.1, fun reply _ => ih reply (asks.2 reply)⟩

theorem abides_map {p : Dialogue α} (h : p.Abides map fun _ => True) (f : α → β) :
    (f <$> p).Abides map fun _ => True :=
  abides_bind h fun _ _ => trivial

end Dialogue

namespace Engine

open Dialogue

section Requests

variable {map : TableMap} (timeout : Duration) (today : Date)

/-- Only a table of the map that seats the party is let through. -/
theorem abides_checkTable (p : Proposal) :
    (checkTable timeout p).Abides map fun _ => ∃ table,
      map.get? p.venue p.table = some table ∧ p.partySize.toNat ≤ table.capacity.toNat := by
  refine ⟨trivial, ?_⟩
  intro reply told
  cases reply with
  | failed => trivial
  | timedOut => trivial
  | answered found =>
    cases found with
    | none => trivial
    | some table =>
      change Abides map _ (if table.seats p.partySize then .done () else .refused _)
      by_cases fits : table.seats p.partySize
      · rw [if_pos fits]
        exact ⟨table, told.symm, (Table.seats_iff _ _).1 fits⟩
      · rw [if_neg fits]
        trivial

theorem abides_insertProposal {p : Proposal} (lawful : p.Lawful map) :
    (insertProposal timeout p).Abides map fun _ => True := by
  refine ⟨lawful, ?_⟩
  intro reply _
  dsimp only
  split <;> trivial

theorem abides_commit (p : Proposal) : (commit timeout today p).Abides map fun _ => True := by
  cases checked : p.check today with
  | error rule =>
    rw [commit_of_broken_rule checked]
    trivial
  | ok _ =>
    rw [commit_of_check checked]
    refine abides_bind (abides_checkTable timeout p) ?_
    intro _ seated
    have asked : (bookingsFor timeout p.venue [p.table] p.date).Asks (Call.Lawful map) :=
      asks_bookingsFor (fun _ => Call.lawful_of_reading) timeout _ _ _
    refine abides_bind (abides_of_asks asked) ?_
    intro existing _
    by_cases clear : overlapping existing p.table p.window = []
    · rw [place_of_nil clear]
      exact abides_insertProposal timeout (Proposal.lawful_of_check checked seated)
    · rw [place_of_ne_nil clear]
      trivial

theorem abides_commitText (text : String) :
    (commitText timeout today text).Abides map fun _ => True := by
  unfold commitText
  split
  · exact abides_commit timeout today _
  · trivial

theorem abides_cancel (id : BookingId) : (cancel timeout id).Abides map fun _ => True := by
  refine abides_bind (abides_of_asks (asks_call trivial timeout)) ?_
  intro removed _
  split <;> trivial

theorem abides_dialogue (request : Request) :
    (request.dialogue timeout today).Abides map fun _ => True := by
  have reading : ∀ call : Call, call.changes = false → call.Lawful map :=
    fun _ => Call.lawful_of_reading
  cases request with
  | matchSlot enquiry =>
    exact abides_map (abides_of_asks (asks_matchSlot reading timeout today enquiry)) _
  | commit p => exact abides_map (abides_commit timeout today p) _
  | commitText text => exact abides_map (abides_commitText timeout today text) _
  | cancel id => exact abides_map (abides_cancel timeout id) _
  | bookingsOn venue date =>
    exact abides_map (abides_of_asks (asks_bookingsOn reading timeout venue date)) _

end Requests

section Service

/-- The states that requests lead to from a first one, each with the requests that are being served.
A request may be made at any time, under any clock and timeout, and the next call may be that of any
request. -/
inductive Led {σ : Type} (conduct : Conduct σ) (first : σ) : σ → List (Dialogue Response) → Prop where
  | start : Led conduct first first []
  | request {s pending} (request : Request) (timeout : Duration) (today : Date) :
      Led conduct first s pending →
      Led conduct first s (request.dialogue timeout today :: pending)
  | call {s front call next back reply after} :
      Led conduct first s (front ++ .ask call next :: back) → conduct call s reply after →
      Led conduct first after (front ++ next reply :: back)

variable {σ : Type} {map : TableMap} {store : Store σ} {conduct : Conduct σ} {first s : σ}
  {pending : List (Dialogue Response)}

/-- A run is made of calls. -/
theorem Led.runs {p : Dialogue Response} {result : Except BookingError Response} {after : σ}
    (h : Led conduct first s (p :: pending)) (run : Runs conduct p s result after) :
    ∃ rest, Led conduct first after (rest :: pending) := by
  induction run with
  | done => exact ⟨_, h⟩
  | refused => exact ⟨_, h⟩
  | @ask call next _ _ _ _ _ replied _ ih =>
    have led : Led conduct first _ ([] ++ .ask call next :: pending) := h
    exact ih (led.call replied)

theorem Led.faulty {faults : Faults} (h : Led (candid map store) first s pending)
    (candor : faults.Candid) (timeout : Duration) (today : Date) (request : Request) :
    ∃ rest, Led (candid map store) first ((request.dialogue timeout today).run
      (TableBooking.faulty faults timeout (serving map.directory store)) s).2 (rest :: pending) :=
  (h.request request timeout today).runs (runs_run (candid_faulty candor timeout) _ _)

structure Guarded (map : TableMap) (store : Store σ) (I : σ → Prop) : Prop where
  insert : ∀ p s, p.Lawful map → I s → I (store.insert p s).2
  delete : ∀ ids s, I s → I (store.delete ids s).2

variable {I : σ → Prop}

theorem Guarded.call (h : Guarded map store I) {call : Call} (lawful : call.Lawful map) {after : σ}
    {reply : Reply call.Failure call.Answer} (replied : candid map store call s reply after)
    (hs : I s) : I after := by
  rcases replied.2 with rfl | rfl
  · exact hs
  · cases call with
    | insert p => exact h.insert p s lawful hs
    | delete ids => exact h.delete ids s hs
    | _ => exact hs

/-- What is being served abides by the rules, so the next call keeps what is guarded. -/
theorem Guarded.led (h : Guarded map store I) (start : I first)
    (led : Led (candid map store) first s pending) :
    I s ∧ ∀ p ∈ pending, p.Abides map fun _ => True := by
  induction led with
  | start => exact ⟨start, by simp⟩
  | request request timeout today _ ih =>
    exact ⟨ih.1, List.forall_mem_cons.2 ⟨abides_dialogue timeout today request, ih.2⟩⟩
  | @call s front call next back reply after _ replied ih =>
    obtain ⟨hs, abides⟩ := ih
    rw [List.forall_mem_append, List.forall_mem_cons] at abides
    obtain ⟨ahead, ⟨lawful, goesOn⟩, behind⟩ := abides
    refine ⟨h.call lawful replied hs, ?_⟩
    rw [List.forall_mem_append, List.forall_mem_cons]
    exact ⟨ahead, goesOn reply replied.1, behind⟩

end Service

theorem denial_candid : denial.Candid := by
  intro venue table m met
  cases met

theorem guarded_ledger (map : TableMap) :
    Guarded map Ledger.store fun ledger => ∀ b ∈ ledger.bookings, b.proposal.Lawful map := by
  constructor
  · intro p ledger lawful all
    by_cases free : ledger.Free p
    · rw [Ledger.store_insert_of_free free]
      intro b hb
      obtain ⟨id, he⟩ := Ledger.mem_bookings.1 hb
      rcases Ledger.eq_or_mem_of_mem_put he with new | old
      · cases new
        exact lawful
      · exact all b (Ledger.mem_bookings.2 ⟨id, old⟩)
    · obtain ⟨_, _, _, refused⟩ := Ledger.store_insert_of_not_free free
      rw [refused]
      exact all
  · intro ids ledger all b hb
    obtain ⟨id, he⟩ := Ledger.mem_bookings.1 hb
    change (id, b) ∈ (ledger.delete ids).2.entries at he
    rw [Ledger.delete_snd] at he
    exact all b (Ledger.mem_bookings.2 ⟨id, (List.mem_filter.1 he).1⟩)

def LawfulFile (map : TableMap) (path : Path) (tree : FileTree) : Prop :=
  ∃ document, Document.ofContent (tree.content? path.place) = .ok document ∧
    ∀ b ∈ document.bookings, b.proposal.Lawful map

theorem lawfulFile_of_vacant (map : TableMap) {path : Path} {tree : FileTree}
    (vacant : FileStore.Vacant path tree) : LawfulFile map path tree :=
  ⟨{}, FileStore.ofContent_of_vacant vacant, by simp⟩

theorem guarded_file (map : TableMap) (path : Path) :
    Guarded map (FileStore.store path) (LawfulFile map path) := by
  constructor
  · rintro p tree lawful ⟨document, held, all⟩
    change LawfulFile map path (FileStore.insert path p tree).2
    unfold LawfulFile
    rcases FileStore.insert_outcome path p tree with ⟨_, _, same⟩ | ⟨d, there, _, _, text⟩
    · rw [same]
      exact ⟨document, held, all⟩
    · rw [held] at there
      cases there
      rw [text]
      refine ⟨_, Document.ofContent_text _, ?_⟩
      intro b hb
      rcases List.mem_append.1 hb with old | new
      · exact all b old
      · rw [List.mem_singleton.1 new]
        exact lawful
  · rintro ids tree ⟨document, held, all⟩
    change LawfulFile map path (FileStore.delete path ids tree).2
    unfold LawfulFile
    rcases FileStore.delete_outcome path ids tree with ⟨_, same⟩ | ⟨d, there, _, _, text⟩
    · rw [same]
      exact ⟨document, held, all⟩
    · rw [held] at there
      cases there
      rw [text]
      refine ⟨_, Document.ofContent_text _, ?_⟩
      intro b hb
      exact all b (List.mem_filter.1 hb).1

/-- Every stored booking obeys every business rule: in every ledger that requests lead to from an
empty one, and in every file that they lead to from a missing or empty one, which stays readable as
a document. Requests may be served at the same time, and replies may fail, be late, or tell anything
but a table that is not in the map. -/
theorem stored_bookings_lawful (map : TableMap) :
    (∀ ledger pending, Led (candid map Ledger.store) {} ledger pending →
      ∀ b ∈ ledger.bookings, b.proposal.Lawful map) ∧
    ∀ path tree after pending, FileStore.Vacant path tree →
      Led (candid map (FileStore.store path)) tree after pending →
      LawfulFile map path after ∧
        ∀ document, FileStore.load path after = .ok document →
          ∀ b ∈ document.bookings, b.proposal.Lawful map := by
  constructor
  · intro ledger pending led
    exact ((guarded_ledger map).led (by simp [Ledger.bookings]) led).1
  · intro path tree after pending vacant led
    have file := ((guarded_file map path).led (lawfulFile_of_vacant map vacant) led).1
    refine ⟨file, ?_⟩
    intro document loaded
    obtain ⟨held, there, all⟩ := file
    rcases FileStore.load_eq_ok loaded with rfl | same
    · simp
    · rw [there] at same
      cases same
      exact all

/-- A supper is booked in memory while the store denies its bookings, and in a file that is made for
it. -/
theorem denied_supper_lawful :
    let path : Path := ⟨"data/bookings.json"⟩
    let ledger : Ledger := { lastId := 1, entries := [(⟨1⟩, Proposal.supper.booked ⟨1⟩)] }
    let document : Document := { lastId := 1, bookings := [Proposal.supper.booked ⟨1⟩] }
    let tree := (FileStore.insert path .supper {}).2
    (∃ rest, Led (candid .sample Ledger.store) {} ledger [rest]) ∧
      (∀ b ∈ ledger.bookings, b.proposal.Lawful .sample) ∧
      FileStore.Vacant path {} ∧
      (∃ rest, Led (candid .sample (FileStore.store path)) {} tree [rest]) ∧
      Document.ofContent (tree.content? path.place) = .ok document ∧
      ∀ b ∈ document.bookings, b.proposal.Lawful .sample := by
  intro path ledger document tree
  obtain ⟨_, kept⟩ : ∃ rest, Led (candid .sample Ledger.store) {} ledger [rest] :=
    Led.start.faulty denial_candid (.ofMillis 50) Proposal.supper.date (.commit .supper)
  have looked : candid .sample (FileStore.store path)
      (.getTable Proposal.supper.venue Proposal.supper.table) {}
      (.answered (some ⟨⟨1⟩, "window", 2⟩)) {} := ⟨rfl, Or.inl rfl⟩
  have asked : candid .sample (FileStore.store path)
      (.query ⟨Proposal.supper.venue, [Proposal.supper.table], Proposal.supper.date⟩) {}
      (.answered []) {} := ⟨trivial, Or.inl rfl⟩
  have inserted : candid .sample (FileStore.store path) (.insert .supper) {}
      (.answered (Proposal.supper.booked ⟨1⟩)) tree := ⟨trivial, Or.inr rfl⟩
  obtain ⟨_, written⟩ : ∃ rest, Led (candid .sample (FileStore.store path)) {} tree [rest] :=
    (Led.start.request (.commit .supper) (.ofMillis 50) Proposal.supper.date).runs
      (.ask looked (.ask asked (.ask inserted (.done (Response.booked _) _))))
  have none : ({} : FileTree).node? path.place = none := by decide
  have vacant : FileStore.Vacant path {} := FileStore.vacant_of_none none
  have held : Document.ofContent (tree.content? path.place) = .ok document := by
    have taken : (FileStore.insert path .supper {}).1.isOk = true := by decide +kernel
    rcases FileStore.insert_outcome path .supper {} with ⟨e, refused, _⟩ | ⟨d, there, _, _, text⟩
    · rw [refused] at taken
      cases taken
    · rw [FileTree.content?, none] at there
      cases there
      rw [text]
      exact Document.ofContent_text _
  obtain ⟨inMemory, onFile⟩ := stored_bookings_lawful .sample
  obtain ⟨_, there, all⟩ := (onFile path {} tree _ vacant written).1
  rw [held] at there
  cases there
  exact ⟨⟨_, kept⟩, inMemory ledger _ kept, vacant, ⟨_, written⟩, held, all⟩

end Engine

end TableBooking
