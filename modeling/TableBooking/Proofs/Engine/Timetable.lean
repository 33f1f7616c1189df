import TableBooking.Proofs.Engine.Candidates
import TableBooking.Proofs.Engine.Requests
import TableBooking.Proofs.Ledger.History
import TableBooking.Proofs.Store.Content

/-!
The bookings of a venue on a date, as they are listed. Neither store keeps two bookings that clash,
so the listing is a timetable: at each table one booking ends before the next one begins.
-/
namespace TableBooking

/-- By start, then by table, then by number. -/
def Booking.Precedes (a b : Booking) : Prop :=
  a.window.startsAt < b.window.startsAt ∨
    a.window.startsAt = b.window.startsAt ∧
      (a.table.number < b.table.number ∨ a.table = b.table ∧ a.id.number < b.id.number)

/-- What is listed of the bookings in a store for a venue and a date. -/
structure Timetable (venue : VenueId) (date : Date) (stored listed : List Booking) : Prop where
  once : ∀ b, listed.count b = if b ∈ stored ∧ b.venue = venue ∧ b.date = date then 1 else 0
  ascending : listed.Pairwise Booking.Precedes
  successive : listed.Pairwise fun a b => a.table = b.table → a.window.endsAt ≤ b.window.startsAt

namespace Booking

theorem listedBefore_iff (a b : Booking) :
    a.listedBefore b = true ↔ a.window.startsAt.place < b.window.startsAt.place ∨
      a.window.startsAt.place = b.window.startsAt.place ∧
        (a.table.number.toNat < b.table.number.toNat ∨
          a.table.number.toNat = b.table.number.toNat ∧ a.id.number.toNat ≤ b.id.number.toNat) := by
  have sameTable : a.table.number.toNat = b.table.number.toNat ↔ a.table = b.table :=
    ⟨TableId.ext_number, fun same => congrArg (fun t : TableId => t.number.toNat) same⟩
  unfold listedBefore
  by_cases start : a.window.startsAt.place = b.window.startsAt.place
  · by_cases table : a.table = b.table
    · simp [start, table, UInt64.le_iff_toNat_le]
    · simp [start, table, sameTable, UInt32.lt_iff_toNat_lt]
  · simp [start]

theorem listedBefore_trans (a b c : Booking) (hab : a.listedBefore b = true)
    (hbc : b.listedBefore c = true) : a.listedBefore c = true := by
  rw [listedBefore_iff] at *
  omega

theorem listedBefore_total (a b : Booking) : (a.listedBefore b || b.listedBefore a) = true := by
  rw [Bool.or_eq_true, listedBefore_iff, listedBefore_iff]
  omega

end Booking

namespace Ledger

theorem Clash.refl (b : Booking) : Clash b b := by
  apply (Booking.clashesWith_iff b b.proposal).2
  refine ⟨rfl, rfl, rfl, ?_⟩
  rw [Booking.proposal, Window.overlaps, Bool.and_self, decide_eq_true_eq]
  exact b.window.ordered

end Ledger

def Exclusive (bookings : List Booking) : Prop :=
  bookings.Pairwise fun a b => ¬ Ledger.Clash a b

theorem Exclusive.nodup {bookings : List Booking} (h : Exclusive bookings) : bookings.Nodup := by
  refine h.imp ?_
  rintro a b apart rfl
  exact apart (Ledger.Clash.refl a)

/-- Of two bookings at one table on one date, the one listed first is over when the other begins. -/
theorem Booking.ended_of_listedBefore {a b : Booking} (venue : a.venue = b.venue)
    (date : a.date = b.date) (apart : ¬ Ledger.Clash a b) (before : a.listedBefore b = true)
    (table : a.table = b.table) : a.window.endsAt ≤ b.window.startsAt := by
  have noOverlap : ¬ a.window.overlaps b.window = true := by
    intro overlaps
    exact apart ((Booking.clashesWith_iff a b.proposal).2 ⟨venue, table, date, overlaps⟩)
  have ends := (Timestamp.lt_iff _ _).1 b.window.ordered
  rw [listedBefore_iff] at before
  rw [Window.overlaps, Bool.and_eq_true, decide_eq_true_eq, decide_eq_true_eq, Timestamp.lt_iff,
    Timestamp.lt_iff] at noOverlap
  rw [Timestamp.le_iff]
  omega

theorem Booking.precedes_of_listedBefore {a b : Booking} (before : a.listedBefore b = true)
    (ended : a.table = b.table → a.window.endsAt ≤ b.window.startsAt) : a.Precedes b := by
  rcases (listedBefore_iff a b).1 before with earlier | ⟨start, table | ⟨table, _⟩⟩
  · exact Or.inl earlier
  · exact Or.inr ⟨Timestamp.place_injective start, Or.inl (UInt32.lt_iff_toNat_lt.2 table)⟩
  · -- two bookings at one table cannot begin together, as each takes some time
    have ends := (Timestamp.le_iff _ _).1 (ended (TableId.ext_number table))
    have lasts := (Timestamp.lt_iff _ _).1 a.window.ordered
    omega

theorem timetable_of_exclusive {stored : List Booking} (exclusive : Exclusive stored)
    (venue : VenueId) (date : Date) :
    Timetable venue date stored
      ((stored.filter (·.isAt venue date)).mergeSort Booking.listedBefore) := by
  have perm := List.mergeSort_perm (stored.filter (·.isAt venue date)) Booking.listedBefore
  have here : ∀ b, b ∈ (stored.filter (·.isAt venue date)).mergeSort Booking.listedBefore ↔
      b ∈ stored ∧ b.venue = venue ∧ b.date = date := by
    intro b
    rw [perm.mem_iff, List.mem_filter]
    simp [Booking.isAt]
  have apart : Exclusive ((stored.filter (·.isAt venue date)).mergeSort Booking.listedBefore) :=
    (perm.pairwise_iff fun hne hs => hne hs.symm).2 (exclusive.filter _)
  have sorted := List.pairwise_mergeSort Booking.listedBefore_trans Booking.listedBefore_total
    (stored.filter (·.isAt venue date))
  have ended : ((stored.filter (·.isAt venue date)).mergeSort Booking.listedBefore).Pairwise
      fun a b => a.table = b.table → a.window.endsAt ≤ b.window.startsAt := by
    refine (sorted.and apart).imp_of_mem ?_
    intro a b ha hb both
    obtain ⟨-, atVenue, onDate⟩ := (here a).1 ha
    obtain ⟨-, atSameVenue, onSameDate⟩ := (here b).1 hb
    exact Booking.ended_of_listedBefore (atVenue.trans atSameVenue.symm)
      (onDate.trans onSameDate.symm) both.2 both.1
  constructor
  · intro b
    by_cases there : b ∈ stored ∧ b.venue = venue ∧ b.date = date
    · rw [if_pos there]
      exact List.count_eq_one_of_mem apart.nodup ((here b).2 there)
    · rw [if_neg there, List.count_eq_zero]
      intro listed
      exact there ((here b).1 listed)
  · refine (sorted.and ended).imp ?_
    intro a b both
    exact Booking.precedes_of_listedBefore both.1 both.2
  · exact ended

/-- What insertions and deletions keep is kept by any requests. -/
theorem Store.after_keeps {σ : Type} (store : Store σ) {I : σ → Prop}
    (insert : ∀ p s, I s → I (store.insert p s).2)
    (delete : ∀ ids s, I s → I (store.delete ids s).2) (requests : List Request) {s : σ}
    (start : I s) : I (store.after requests s) := by
  induction requests generalizing s with
  | nil => exact start
  | cons request requests ih =>
    apply ih
    cases request with
    | insert p => exact insert p s start
    | delete ids => exact delete ids s start
    | query filter => exact start
    | onDate venue date => exact start
    | reopen => exact start

namespace Ledger

theorem insert_invariant (p : Proposal) (ledger : Ledger) (h : Invariant ledger) :
    Invariant (store.insert p ledger).2 := by
  by_cases free : ledger.Free p
  · rw [store_insert_of_free free]
    exact accept_invariant h free
  · obtain ⟨_, _, _, refused⟩ := store_insert_of_not_free free
    rw [refused]
    exact h

theorem after_invariant (requests : List Store.Request) : Invariant (store.after requests {}) :=
  store.after_keeps insert_invariant (fun ids _ h => delete_invariant h ids) requests
    empty_invariant

theorem Invariant.bookings_exclusive {ledger : Ledger} (h : Invariant ledger) :
    Exclusive ledger.bookings :=
  List.pairwise_map.2 h.exclusive

end Ledger

namespace FileStore

variable {path : Path} {tree : FileTree}

def HoldsExclusive (path : Path) (tree : FileTree) : Prop :=
  ∃ document, Document.ofContent (tree.content? path.place) = .ok document ∧
    Exclusive document.bookings

theorem insert_holdsExclusive (p : Proposal) (tree : FileTree) (h : HoldsExclusive path tree) :
    HoldsExclusive path (insert path p tree).2 := by
  obtain ⟨document, held, exclusive⟩ := h
  rcases insert_outcome path p tree with ⟨_, _, same⟩ | ⟨read, there, free, _, text⟩
  · exact ⟨document, same ▸ held, exclusive⟩
  · rw [held] at there
    cases there
    refine ⟨document.accept p, by rw [text, Document.ofContent_text], ?_⟩
    refine List.pairwise_append.2 ⟨exclusive, List.pairwise_singleton _ _, ?_⟩
    intro old stored new taken clash
    rw [List.mem_singleton.1 taken, Ledger.Clash, Proposal.proposal_booked, free old stored]
      at clash
    cases clash

theorem delete_holdsExclusive (ids : List BookingId) (tree : FileTree)
    (h : HoldsExclusive path tree) : HoldsExclusive path (delete path ids tree).2 := by
  obtain ⟨document, held, exclusive⟩ := h
  rcases delete_outcome path ids tree with ⟨_, same⟩ | ⟨read, there, _, _, text⟩
  · exact ⟨document, same ▸ held, exclusive⟩
  · rw [held] at there
    cases there
    exact ⟨document.without ids, by rw [text, Document.ofContent_text], exclusive.filter _⟩

theorem after_holdsExclusive (vacant : Vacant path tree) (requests : List Store.Request) :
    HoldsExclusive path ((store path).after requests tree) :=
  (store path).after_keeps insert_holdsExclusive delete_holdsExclusive requests
    ⟨{}, ofContent_of_vacant vacant, List.Pairwise.nil⟩

/-- The path leads to what the file holds, unless the file holds nothing. -/
def Shows (path : Path) (tree : FileTree) : Prop :=
  Vacant path tree ∨ Accessible path tree

theorem change_shows {α : Type} (decision : Document → Except StoreError α × Option Document)
    (h : Shows path tree) : Shows path (change path decision tree).2 := by
  rcases change_eq_or_accessible path decision tree with same | there
  · rw [same]
    exact h
  · exact Or.inr there

theorem after_shows (vacant : Vacant path tree) (requests : List Store.Request) :
    Shows path ((store path).after requests tree) := by
  apply (store path).after_keeps
  · intro p tree there
    change Shows path (insert path p tree).2
    rw [insert_eq_change]
    exact change_shows _ there
  · intro ids tree there
    change Shows path (delete path ids tree).2
    rw [delete_eq_change]
    exact change_shows _ there
  · exact Or.inl vacant

theorem Shows.load (shows : Shows path tree) (readable : Readable path tree) :
    load path tree = Document.ofContent (tree.content? path.place) := by
  unfold FileStore.load
  cases read : tree.read path with
  | ok content =>
    rw [FileTree.content?_of_read read]
  | error e =>
    -- the way to the file is missing, so what stands at its place does not count
    obtain rfl := readable e read
    rcases shows with vacant | accessible
    · exact (ofContent_of_vacant vacant).symm
    · cases there : tree.content? path.place with
      | none => rfl
      | some content =>
        have found := accessible content there
        rw [read] at found
        cases found

theorem Synced.after {ledger : Ledger} {insertions : Nat} (h : Synced path tree ledger insertions)
    (requests : List Store.Request)
    (few : insertions + (requests.map Store.Request.insertions).sum < UInt64.size)
    (undisturbed : ∀ step ∈ (store path).trace requests tree, step.1.Undisturbed) :
    Synced path ((store path).after requests tree) (Ledger.store.after requests ledger)
      (insertions + (requests.map Store.Request.insertions).sum) := by
  induction requests generalizing tree ledger insertions with
  | nil => exact h
  | cons request requests ih =>
    rw [Store.trace, List.forall_mem_cons] at undisturbed
    rw [List.map_cons, List.sum_cons, ← Nat.add_assoc] at few ⊢
    obtain ⟨_, synced⟩ := synced_serve h request (by omega) undisturbed.1
    exact ih synced few undisturbed.2

theorem Settled.after (h : Settled path tree) (requests : List Store.Request) :
    Settled path ((store path).after requests tree) := by
  induction requests generalizing tree with
  | nil => exact h
  | cons request requests ih => exact ih (h.serve request).2

end FileStore

namespace Engine

theorem run_bookingsOn {σ : Type} {store : Store σ} {venue : VenueId} {date : Date} {s : σ}
    {found : List Booking} (answered : store.onDate venue date s = .ok found) (timeout : Duration)
    (directory : Directory) :
    (bookingsOn timeout venue date).run (serving directory store) s =
      (.ok (found.mergeSort Booking.listedBefore), s) := by
  have served : serving directory store (.onDate venue date) s = (.answered found, s) := by
    simp only [serving, answered, Reply.ofExcept]
  rw [bookingsOn, Dialogue.run_call_answered served]
  rfl

/-- After any requests to an empty ledger, or to a file that was missing or empty and can be read,
the bookings of any venue on any date are listed as a timetable of what is stored: of the entries of
the ledger, or of the bookings that the bytes of the file stand for. As long as numbers last and no
call to the file system fails, these are the bookings of the ledger. -/
theorem bookings_listed_as_timetable (requests : List Store.Request) (venue : VenueId) (date : Date)
    (timeout : Duration) (directory : Directory) :
    let ledger := Ledger.store.after requests {}
    (∃ listed, (bookingsOn timeout venue date).run (serving directory Ledger.store) ledger =
        (.ok listed, ledger) ∧ Timetable venue date (ledger.entries.map (·.2)) listed) ∧
    ∀ path tree, FileStore.Vacant path tree →
      let after := (FileStore.store path).after requests tree
      FileStore.Readable path after → ∃ document listed,
        Document.ofContent (after.content? path.place) = .ok document ∧
        (bookingsOn timeout venue date).run (serving directory (FileStore.store path)) after =
          (.ok listed, after) ∧
        Timetable venue date document.bookings listed ∧
        (FileStore.Readable path tree →
          (requests.map Store.Request.insertions).sum < UInt64.size - 1 →
          (∀ step ∈ (FileStore.store path).trace requests tree, step.1.Undisturbed) →
          document.bookings = ledger.entries.map (·.2)) := by
  intro ledger
  constructor
  · have exclusive : Exclusive ledger.bookings :=
      (Ledger.after_invariant requests).bookings_exclusive
    exact ⟨_, run_bookingsOn rfl timeout directory, timetable_of_exclusive exclusive venue date⟩
  · intro path tree vacant after readable
    obtain ⟨document, held, exclusive⟩ := FileStore.after_holdsExclusive vacant requests
    have loaded : FileStore.load path after = .ok document :=
      ((FileStore.after_shows vacant requests).load readable).trans held
    have answered : (FileStore.store path).onDate venue date after =
        .ok (document.onDate venue date) := by
      change (FileStore.load path after).map (·.onDate venue date) = _
      rw [loaded]
      rfl
    refine ⟨document, _, held, run_bookingsOn answered timeout directory,
      timetable_of_exclusive exclusive venue date, ?_⟩
    intro readable few undisturbed
    have synced := (FileStore.synced_of_vacant vacant readable).after requests (by omega) undisturbed
    cases loaded.symm.trans synced.load
    rfl

/-- The nightcap is booked first, under the lower number, and listed behind the supper before it. -/
theorem supper_listed_before_nightcap :
    let path : Path := ⟨"data/bookings.json"⟩
    let tree : FileTree := ⟨[(⟨false, ["data"]⟩, .directory)]⟩
    let requests : List Store.Request := [.insert .nightcap, .insert .supper, .insert .supper]
    let nightcap := Proposal.nightcap.booked ⟨1⟩
    let supper := Proposal.supper.booked ⟨2⟩
    let after := (FileStore.store path).after requests tree
    (∃ listed, (bookingsOn (.ofMillis 50) supper.venue supper.date).run
        (serving TableMap.sample.directory Ledger.store) (Ledger.store.after requests {}) =
          (.ok listed, Ledger.store.after requests {}) ∧
      listed.count nightcap = 1 ∧ listed.count supper = 1 ∧ listed.Pairwise Booking.Precedes) ∧
    FileStore.Vacant path tree ∧ FileStore.Readable path after ∧ ∃ document listed,
      Document.ofContent (after.content? path.place) = .ok document ∧
      document.bookings = [nightcap, supper] ∧
      (bookingsOn (.ofMillis 50) supper.venue supper.date).run
        (serving TableMap.sample.directory (FileStore.store path)) after = (.ok listed, after) ∧
      Timetable supper.venue supper.date document.bookings listed := by
  intro path tree requests nightcap supper after
  have vacant : FileStore.Vacant path tree := FileStore.vacant_of_none (by decide)
  have settled : FileStore.Settled path tree := FileStore.settled_in_data
  have readable : FileStore.Readable path after := (settled.after requests).readable
  obtain ⟨⟨listed, run, timetable⟩, onFile⟩ := bookings_listed_as_timetable requests supper.venue
    supper.date (.ofMillis 50) TableMap.sample.directory
  obtain ⟨document, shown, held, answered, ordered, same⟩ := onFile path tree vacant readable
  have stored : document.bookings = [nightcap, supper] :=
    (same settled.readable (by decide) (settled.undisturbed requests)).trans (by decide)
  refine ⟨⟨listed, run, ?_, ?_, timetable.ascending⟩, vacant, readable, document, shown, held,
    stored, answered, ordered⟩
  · exact (timetable.once nightcap).trans (if_pos (by decide))
  · exact (timetable.once supper).trans (if_pos (by decide))

end Engine

end TableBooking
