import TableBooking.Proofs.Engine.Requests
import TableBooking.Proofs.Store.Effect

/-!
The number of a new booking in a file. It follows the last number that the document names, whatever
the bookings of the document carry; so it is new, and a cancellation takes back the insertion,
exactly where no booking carries it before.
-/
namespace TableBooking

def Document.NextUnused (document : Document) : Prop :=
  ∀ old ∈ document.bookings, old.id.number.toNat ≠ document.lastId.toNat + 1

instance (document : Document) : Decidable document.NextUnused :=
  inferInstanceAs
    (Decidable (∀ old ∈ document.bookings, old.id.number.toNat ≠ document.lastId.toNat + 1))

namespace Document

variable {document : Document}

theorem nextUnused_iff (left : document.lastId.toNat + 1 < UInt64.size) :
    document.NextUnused ↔ ∀ old ∈ document.bookings, old.id ≠ ⟨document.lastId + 1⟩ := by
  have next : (document.lastId + 1).toNat = document.lastId.toNat + 1 := by
    rw [UInt64.toNat_add]
    exact Nat.mod_eq_of_lt left
  have same : ∀ id : BookingId,
      id.number.toNat = document.lastId.toNat + 1 ↔ id = ⟨document.lastId + 1⟩ := by
    rintro ⟨number⟩
    rw [← next, UInt64.toNat_inj, BookingId.mk.injEq]
  simp only [NextUnused, ne_eq, same]

/-- Taking out the number that a proposal was accepted under. -/
theorem without_accept (document : Document) (p : Proposal) :
    (document.accept p).without [⟨document.lastId + 1⟩] =
      { lastId := document.lastId + 1,
        bookings := document.bookings.filter (·.id ≠ ⟨document.lastId + 1⟩) } := by
  unfold without accept
  simp [Proposal.booked]

/-- A proposal is found under the number it was accepted under. -/
theorem mem_present_accept (document : Document) (p : Proposal) :
    (⟨document.lastId + 1⟩ : BookingId) ∈ (document.accept p).present [⟨document.lastId + 1⟩] :=
  mem_present.2 ⟨List.mem_singleton_self _, _, List.mem_concat_self, rfl⟩

theorem deleting_accepted (document : Document) (p : Proposal) :
    (document.accept p).deleting [⟨document.lastId + 1⟩] =
      (.ok ((document.accept p).present [⟨document.lastId + 1⟩]),
        some ((document.accept p).without [⟨document.lastId + 1⟩])) := by
  have found := document.mem_present_accept p
  unfold deleting
  split
  · rename_i none
    rw [none] at found
    cases found
  · rw [without_present]

end Document

namespace FileStore

open Engine

variable {path : Path} {tree locked after : FileTree} {document : Document} {p : Proposal}
  {b : Booking}

/-- Where a document was saved under the lock, every later change can be made. -/
theorem settled_of_save (taken : lock path tree = .ok locked)
    (saves : save path document locked = .ok after) : Settled path after := by
  have directory := isDirectory_of_lock taken
  obtain ⟨prepared, _, touched⟩ := lock_eq_ok.1 taken
  obtain ⟨again, remade, written⟩ := save_eq_ok.1 saves
  rw [FileTree.prepare_of_isDirectory directory] at remade
  cases remade
  exact ⟨FileTree.isDirectory_of_update directory written, FileTree.holds_of_update written,
    (FileTree.holds_of_update touched).of_update written⟩

/-- A change that succeeds either was not needed, or it saved a document in a place where every
later change can be made. -/
theorem change_eq_ok {α : Type} {decision : Document → Except StoreError α × Option Document}
    {answer : α} (h : change path decision tree = (.ok answer, after)) :
    ∃ document, Document.ofContent (tree.content? path.place) = .ok document ∧
      (decision document = (.ok answer, none) ∨
        ∃ changed, decision document = (.ok answer, some changed) ∧ Keeps path after changed ∧
          Settled path after) := by
  unfold change at h
  cases taken : lock path tree with
  | error e =>
    rw [taken] at h
    cases h
  | ok locked =>
    rw [taken] at h
    dsimp only at h
    cases loaded : load path locked with
    | error e =>
      rw [loaded] at h
      cases h
    | ok document =>
      rw [loaded] at h
      dsimp only at h
      refine ⟨document, load_locked taken loaded, ?_⟩
      rcases decided : decision document with ⟨verdict, _ | changed⟩
      · rw [decided] at h
        cases h
        exact Or.inl rfl
      · rw [decided] at h
        dsimp only at h
        cases saves : save path changed locked with
        | error e =>
          rw [saves] at h
          cases h
        | ok saved =>
          rw [saves] at h
          cases h
          exact Or.inr ⟨changed, rfl, keeps_of_save saves, settled_of_save taken saves⟩

/-- A successful insertion leaves the document with the proposal at its end. -/
theorem insert_eq_ok (h : insert path p tree = (.ok b, after)) :
    ∃ document, Document.ofContent (tree.content? path.place) = .ok document ∧
      b = p.booked ⟨document.lastId + 1⟩ ∧ Keeps path after (document.accept p) ∧
      Settled path after := by
  rw [insert_eq_change] at h
  obtain ⟨document, held, decided⟩ := change_eq_ok h
  refine ⟨document, held, ?_⟩
  rcases document.inserting_cases p with ⟨e, refused⟩ | ⟨_, accepted⟩
  · rw [refused] at decided
    rcases decided with kept | ⟨changed, saved, _⟩
    · cases kept
    · cases saved
  · rw [accepted] at decided
    rcases decided with kept | ⟨changed, saved, keeps, settled⟩
    · cases kept
    · cases saved
      exact ⟨rfl, keeps, settled⟩

/-- A proposal that no booking clashes with is inserted where changes can be made. -/
theorem insert_of_settled (keeps : Keeps path tree document) (settled : Settled path tree)
    (free : ∀ old ∈ document.bookings, old.clashesWith p = false) :
    ∃ after, insert path p tree = (.ok (p.booked ⟨document.lastId + 1⟩), after) := by
  have accepted : (document.inserting p).1 = .ok (p.booked ⟨document.lastId + 1⟩) := by
    have none : document.bookings.find? (·.clashesWith p) = none := by
      rw [List.find?_eq_none]
      intro old stored
      simp [free old stored]
    simp only [Document.inserting, Document.insert, none]
  have undisturbed := (settled.change (Document.inserting_ne_file p)).1
  refine ⟨(insert path p tree).2, Prod.ext ?_ rfl⟩
  rw [insert_eq_change]
  exact (change_of_keeps keeps undisturbed).1.trans accepted

/-- Cancelling the number that was just given out succeeds and takes away all bookings that carry
it. -/
theorem cancel_accepted (keeps : Keeps path tree (document.accept p))
    (settled : Settled path tree) (directory : Directory) (timeout : Duration) :
    ∃ last, (cancel timeout ⟨document.lastId + 1⟩).run (serving directory (store path)) tree =
        (.ok (), last) ∧
      load path last = .ok
        { lastId := document.lastId + 1,
          bookings := document.bookings.filter (·.id ≠ ⟨document.lastId + 1⟩) } := by
  have undisturbed := (settled.change (Document.deleting_ne_file [⟨document.lastId + 1⟩])).1
  obtain ⟨answered, kept, readable⟩ := change_of_keeps keeps undisturbed
  rw [← delete_eq_change, Document.deleting_accepted] at answered kept
  rw [← delete_eq_change] at readable
  refine ⟨(delete path [⟨document.lastId + 1⟩] tree).2, ?_, ?_⟩
  · unfold cancel
    have replied : serving directory (store path) (.delete [⟨document.lastId + 1⟩]) tree =
        (.answered ((document.accept p).present [⟨document.lastId + 1⟩]),
          (delete path [⟨document.lastId + 1⟩] tree).2) := by
      simp only [serving, store, answered, Reply.ofExcept]
    have found := List.contains_iff_mem.2 (document.mem_present_accept p)
    rw [Dialogue.run_call_answered replied, if_pos found]
    rfl
  · rw [kept.load readable]
    exact congrArg Except.ok (document.without_accept p)

/-- An insertion into any document that is accepted, and the cancellation of its number afterwards.
The number is new, and the cancellation leaves all earlier bookings in place, exactly where none of
them carries the number after the last one. -/
theorem insertion_fresh_iff (held : Document.ofContent (tree.content? path.place) = .ok document)
    (left : document.lastId.toNat + 1 < UInt64.size)
    (inserted : insert path p tree = (.ok b, after)) (directory : Directory)
    (timeout : Duration) :
    load path after =
        .ok { lastId := document.lastId + 1, bookings := document.bookings ++ [b] } ∧
      ∃ last, (cancel timeout b.id).run (serving directory (store path)) after = (.ok (), last) ∧
        load path last = .ok
          { lastId := document.lastId + 1, bookings := document.bookings.filter (·.id ≠ b.id) } ∧
        ((∀ old ∈ document.bookings, old.id ≠ b.id) ↔ document.NextUnused) ∧
        (load path last =
            .ok { lastId := document.lastId + 1, bookings := document.bookings } ↔
          document.NextUnused) := by
  obtain ⟨read, same, rfl, keeps, settled⟩ := insert_eq_ok inserted
  rw [held] at same
  cases same
  obtain ⟨last, cancelled, loaded⟩ := cancel_accepted keeps settled directory timeout
  refine ⟨keeps.load settled.readable, last, cancelled, loaded, ?_, ?_⟩
  · exact (Document.nextUnused_iff left).symm
  · rw [loaded, Document.nextUnused_iff left]
    simp [List.filter_eq_self]

def alone (document : Document) : FileTree :=
  ⟨[(⟨false, ["bookings.json"]⟩, .file document.text)]⟩

theorem read_alone (document : Document) :
    (alone document).read ⟨"bookings.json"⟩ = .ok document.text :=
  FileTree.read_eq_ok.2 ⟨⟨false, ["bookings.json"]⟩, rfl, rfl⟩

theorem ofContent_alone (document : Document) :
    Document.ofContent ((alone document).content? (Path.place ⟨"bookings.json"⟩)) =
      .ok document := by
  rw [FileTree.content?_of_read (read_alone document)]
  exact document.ofContent_text

theorem settled_alone (document : Document) : Settled ⟨"bookings.json"⟩ (alone document) where
  directory := rfl
  document := ⟨⟨false, ["bookings.json"]⟩, rfl, nofun⟩
  lockFile := ⟨⟨false, ["bookings.json.lock"]⟩, rfl, nofun⟩

/-- The supper holds the last number, so the nightcap gets the next one and is taken back alone. -/
theorem nightcap_fresh_beside_supper :
    let path : Path := ⟨"bookings.json"⟩
    let document : Document := { lastId := 1, bookings := [Proposal.supper.booked ⟨1⟩] }
    document.NextUnused ∧ ∃ after last,
      insert path .nightcap (alone document) = (.ok (Proposal.nightcap.booked ⟨2⟩), after) ∧
      (cancel (.ofMillis 50) ⟨2⟩).run (serving (TableMap.directory ⟨[]⟩) (store path)) after =
        (.ok (), last) ∧
      load path last = .ok { lastId := 2, bookings := [Proposal.supper.booked ⟨1⟩] } := by
  intro path document
  have unused : document.NextUnused := by decide
  have free : ∀ old ∈ document.bookings, old.clashesWith .nightcap = false := by decide
  obtain ⟨after, inserted⟩ :=
    insert_of_settled (Or.inr (read_alone document)) (settled_alone document) free
  obtain ⟨_, last, cancelled, _, _, undone⟩ := insertion_fresh_iff (ofContent_alone document)
    (by decide) inserted (TableMap.directory ⟨[]⟩) (.ofMillis 50)
  exact ⟨unused, after, last, inserted, cancelled, undone.2 unused⟩

/-- A document that names no last number although the supper has one: the nightcap gets the number
of the supper, and cancelling the nightcap takes the supper with it. -/
theorem supper_cancelled_with_nightcap :
    let path : Path := ⟨"bookings.json"⟩
    let document : Document := { lastId := 0, bookings := [Proposal.supper.booked ⟨1⟩] }
    load path (alone document) = .ok document ∧ ∃ after last,
      insert path .nightcap (alone document) = (.ok (Proposal.nightcap.booked ⟨1⟩), after) ∧
      (cancel (.ofMillis 50) ⟨1⟩).run (serving (TableMap.directory ⟨[]⟩) (store path)) after =
        (.ok (), last) ∧
      load path last = .ok { lastId := 1, bookings := [] } := by
  intro path document
  have free : ∀ old ∈ document.bookings, old.clashesWith .nightcap = false := by decide
  have keeps : Keeps path (alone document) document := Or.inr (read_alone document)
  have settled := settled_alone document
  obtain ⟨after, inserted⟩ := insert_of_settled keeps settled free
  obtain ⟨read, same, _, kept, still⟩ := insert_eq_ok inserted
  obtain rfl : document = read := Except.ok.inj ((ofContent_alone document).symm.trans same)
  obtain ⟨last, cancelled, loaded⟩ :=
    cancel_accepted kept still (TableMap.directory ⟨[]⟩) (.ofMillis 50)
  exact ⟨keeps.load settled.readable, after, last, inserted, cancelled, loaded⟩

end FileStore

end TableBooking
