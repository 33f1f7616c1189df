import TableBooking.Proofs.Files.Path
import TableBooking.Proofs.Files.Tree
import TableBooking.Proofs.Store.Document
import TableBooking.Store.File

/-!
A bookings document in a file. The tree around the file may grow while locks are taken; what the
file stands for stays until a save puts another document in its place.
-/
namespace TableBooking

namespace Document

/-- The answer to an insertion, and the document to be saved if there is a change. -/
def inserting (p : Proposal) (document : Document) : Except StoreError Booking × Option Document :=
  match document.insert p with
  | .error e => (.error e, none)
  | .ok (booking, changed) => (.ok booking, some changed)

def deleting (ids : List BookingId) (document : Document) :
    Except StoreError (List BookingId) × Option Document :=
  match document.present ids with
  | [] => (.ok [], none)
  | present => (.ok present, some (document.without present))

theorem inserting_ne_file (p : Proposal) (document : Document) (e : FileError) :
    (document.inserting p).1 ≠ .error (.file e) := by
  unfold inserting insert
  cases document.bookings.find? (·.clashesWith p) <;> simp

theorem deleting_ne_file (ids : List BookingId) (document : Document) (e : FileError) :
    (document.deleting ids).1 ≠ .error (.file e) := by
  unfold deleting
  split <;> simp

end Document

theorem FileTree.walk_eq_last {tree : FileTree} {l m : Location} {names : List String}
    (h : tree.walk l names = .ok m) : m = (l.visited names).getLastD l := by
  induction names generalizing l with
  | nil =>
    cases h
    rfl
  | cons name names ih =>
    unfold FileTree.walk at h
    split at h
    · cases h
    · cases h
    · rw [Location.visited, List.getLastD_cons]
      exact ih h

def Path.place (path : Path) : Location :=
  path.places.getLastD ⟨path.isAbsolute, []⟩

theorem FileTree.locate_eq_place {tree : FileTree} {path : Path} {l : Location}
    (h : tree.locate path.isAbsolute path.steps = .ok l) : l = path.place :=
  walk_eq_last h

namespace FileStore

variable {path : Path} {tree locked after : FileTree} {document : Document}

/-- There is no file in the place of the document, or an empty one. -/
def Vacant (path : Path) (tree : FileTree) : Prop :=
  ∀ content, tree.node? path.place = some (.file content) → content = []

theorem vacant_of_none (none : tree.node? path.place = none) : Vacant path tree := by
  intro content present
  rw [none] at present
  cases present

/-- The tree holds this document, the one without bookings perhaps as a missing or empty file. -/
def Keeps (path : Path) (tree : FileTree) (document : Document) : Prop :=
  document = {} ∧ Vacant path tree ∨ tree.read path = .ok document.text

/-- Reading the document can fail only because there is none. -/
def Readable (path : Path) (tree : FileTree) : Prop :=
  ∀ e, tree.read path = .error e → e = .notFound

theorem Keeps.grows (h : Keeps path tree document) (grown : tree.Grows after) :
    Keeps path after document := by
  rcases h with ⟨none, vacant⟩ | there
  · refine Or.inl ⟨none, fun content present => ?_⟩
    cases found : tree.node? path.place with
    | none => exact grown.empty _ content found present
    | some node =>
      have same := grown.kept _ node found
      rw [present] at same
      cases same
      exact vacant content found
  · exact Or.inr (grown.read there)

theorem Keeps.load (h : Keeps path tree document) (readable : Readable path tree) :
    load path tree = .ok document := by
  unfold FileStore.load
  rcases h with ⟨rfl, vacant⟩ | there
  · cases read : tree.read path with
    | error e =>
      obtain rfl := readable e read
      rfl
    | ok content =>
      obtain ⟨l, located, found⟩ := FileTree.read_eq_ok.1 read
      rw [FileTree.locate_eq_place located] at found
      obtain rfl := vacant content found
      rfl
  · rw [there]
    exact document.ofContent_text

/-- Both the lock and the document are put in place by this. -/
theorem prepared_eq_ok {file : Path} {content : Option Json.Bytes → Json.Bytes} :
    ((tree.prepare path).mapError StoreError.file >>= fun prepared =>
      (prepared.update file content).mapError StoreError.file) = .ok after ↔
    ∃ prepared, tree.prepare path = .ok prepared ∧ prepared.update file content = .ok after := by
  cases tree.prepare path with
  | error e => simp [Except.mapError, bind, Except.bind]
  | ok prepared =>
    cases updated : prepared.update file content <;>
      simp [Except.mapError, bind, Except.bind, updated]

theorem prepared_eq_error {file : Path} {content : Option Json.Bytes → Json.Bytes} {e : StoreError}
    (h : ((tree.prepare path).mapError StoreError.file >>= fun prepared =>
      (prepared.update file content).mapError StoreError.file) = .error e) :
    ∃ failure, e = .file failure := by
  cases made : tree.prepare path with
  | error failure =>
    rw [made] at h
    cases h
    exact ⟨failure, rfl⟩
  | ok prepared =>
    rw [made] at h
    cases updated : prepared.update file content with
    | error failure =>
      simp only [Except.mapError, bind, Except.bind, updated] at h
      cases h
      exact ⟨failure, rfl⟩
    | ok after => simp [Except.mapError, bind, Except.bind, updated] at h

theorem lock_eq_ok : lock path tree = .ok locked ↔
    ∃ prepared, tree.prepare path = .ok prepared ∧
      prepared.update path.lockFile (fun old => old.getD []) = .ok locked :=
  prepared_eq_ok

theorem lock_eq_error {e : StoreError} (h : lock path tree = .error e) :
    ∃ failure, e = .file failure :=
  prepared_eq_error h

theorem save_eq_ok : save path document tree = .ok after ↔
    ∃ prepared, tree.prepare path = .ok prepared ∧
      prepared.write path document.text = .ok after :=
  prepared_eq_ok

theorem save_eq_error {e : StoreError} (h : save path document tree = .error e) :
    ∃ failure, e = .file failure :=
  prepared_eq_error h

theorem lock_grows (h : lock path tree = .ok locked) : tree.Grows locked := by
  obtain ⟨prepared, made, touched⟩ := lock_eq_ok.1 h
  exact (FileTree.makeDirectories_grows made).trans (FileTree.touch_grows touched)

theorem keeps_of_save (h : save path document tree = .ok after) : Keeps path after document := by
  obtain ⟨prepared, _, written⟩ := save_eq_ok.1 h
  exact Or.inr (FileTree.read_write written)

theorem readable_of_save (h : save path document tree = .ok after) : Readable path after := by
  obtain ⟨prepared, _, written⟩ := save_eq_ok.1 h
  intro e failed
  rw [FileTree.read_write written] at failed
  cases failed

/-- The document is readable unless loading it fails in the file system. -/
theorem readable_iff : Readable path tree ↔ ∀ e, load path tree ≠ .error (.file e) := by
  unfold Readable FileStore.load
  cases tree.read path with
  | ok content => simp [Document.ofContent_ne_file]
  | error failure => cases failure <;> simp [Document.ofContent]

theorem Readable.map_load {α : Type} (h : Readable path tree) (listing : Document → α)
    (e : FileError) : (load path tree).map listing ≠ .error (.file e) := by
  cases loaded : load path tree with
  | error failure =>
    intro same
    cases same
    exact readable_iff.1 h e loaded
  | ok document => simp [Except.map]

/-- The directory of the document is there, and neither the document nor its lock file is a
directory. -/
structure Settled (path : Path) (tree : FileTree) : Prop where
  directory : tree.isDirectory path.isAbsolute path.steps.dropLast = true
  document : tree.Holds path
  lockFile : tree.Holds path.lockFile

theorem settled_in_data :
    Settled ⟨"data/bookings.json"⟩ ⟨[(⟨false, ["data"]⟩, .directory)]⟩ where
  directory := by decide
  document := ⟨⟨false, ["data", "bookings.json"]⟩, by decide, by decide⟩
  lockFile := ⟨⟨false, ["data", "bookings.json.lock"]⟩, by decide, by decide⟩

/-- Under the lock the way to the document is there. -/
theorem isDirectory_of_lock (h : lock path tree = .ok locked) :
    locked.isDirectory path.isAbsolute path.steps.dropLast = true := by
  obtain ⟨prepared, _, touched⟩ := lock_eq_ok.1 h
  rw [← path.isAbsolute_lockFile, ← path.dropLast_steps_lockFile]
  exact FileTree.isDirectory_above_update touched

theorem settled_of_lock (h : lock path tree = .ok locked) (holds : locked.Holds path) :
    Settled path locked := by
  obtain ⟨prepared, _, touched⟩ := lock_eq_ok.1 h
  exact ⟨isDirectory_of_lock h, holds, FileTree.holds_of_update touched⟩

theorem Settled.save (h : Settled path tree) (document : Document) :
    ∃ after, save path document tree = .ok after ∧ Settled path after := by
  obtain ⟨after, written⟩ := h.document.update fun _ => document.text
  have made := FileTree.prepare_of_isDirectory h.directory
  refine ⟨after, save_eq_ok.2 ⟨tree, made, written⟩, ?_⟩
  exact ⟨FileTree.isDirectory_of_update h.directory written, FileTree.holds_of_update written,
    h.lockFile.of_update written⟩

theorem Settled.lock (h : Settled path tree) :
    ∃ locked, lock path tree = .ok locked ∧ Settled path locked := by
  obtain ⟨locked, touched⟩ := h.lockFile.update fun old => old.getD []
  have taken : FileStore.lock path tree = .ok locked :=
    lock_eq_ok.2 ⟨tree, FileTree.prepare_of_isDirectory h.directory, touched⟩
  exact ⟨locked, taken, settled_of_lock taken (h.document.of_update touched)⟩

theorem Settled.readable (h : Settled path tree) : Readable path tree :=
  fun _ => h.document.read

/-- What insertions and deletions have in common: once the document is read, it decides the answer
and whether another one is saved. -/
def change {α : Type} (path : Path) (decision : Document → Except StoreError α × Option Document)
    (tree : FileTree) : Except StoreError α × FileTree :=
  match lock path tree with
  | .error e => (.error e, tree)
  | .ok locked =>
    match load path locked with
    | .error e => (.error e, locked)
    | .ok document =>
      match decision document with
      | (answer, none) => (answer, locked)
      | (answer, some changed) =>
        match save path changed locked with
        | .error e => (.error e, locked)
        | .ok after => (answer, after)

theorem insert_eq_change (path : Path) (p : Proposal) (tree : FileTree) :
    insert path p tree = change path (Document.inserting p) tree := by
  unfold insert change
  cases lock path tree with
  | error e => rfl
  | ok locked =>
    dsimp only
    cases load path locked with
    | error e => rfl
    | ok document =>
      dsimp only [Document.inserting]
      cases document.insert p with
      | error e => rfl
      | ok found =>
        unfold saved
        cases save path found.2 locked <;> rfl

theorem delete_eq_change (path : Path) (ids : List BookingId) (tree : FileTree) :
    delete path ids tree = change path (Document.deleting ids) tree := by
  unfold delete change
  cases lock path tree with
  | error e => rfl
  | ok locked =>
    dsimp only
    cases load path locked with
    | error e => rfl
    | ok document =>
      dsimp only [Document.deleting]
      cases document.present ids with
      | nil => rfl
      | cons id more =>
        unfold saved
        cases save path (document.without (id :: more)) locked <;> rfl

variable {α : Type} {decision : Document → Except StoreError α × Option Document}

/-- A change in which no call to the file system fails answers and saves what the kept document
decides. -/
theorem change_of_keeps (keeps : Keeps path tree document)
    (undisturbed : ∀ e, (change path decision tree).1 ≠ .error (.file e)) :
    (change path decision tree).1 = (decision document).1 ∧
      Keeps path (change path decision tree).2 ((decision document).2.getD document) ∧
      Readable path (change path decision tree).2 := by
  cases taken : lock path tree with
  | error e =>
    obtain ⟨failure, rfl⟩ := lock_eq_error taken
    exact absurd (by simp only [change, taken]) (undisturbed failure)
  | ok locked =>
    -- had the document not been readable, that would have been the answer
    have readable : Readable path locked :=
      readable_iff.2 fun e failed => undisturbed e (by simp only [change, taken, failed])
    have keeps := keeps.grows (lock_grows taken)
    have loaded := keeps.load readable
    rcases decided : decision document with ⟨answer, _ | changed⟩
    · simp only [change, taken, loaded, decided]
      exact ⟨trivial, keeps, readable⟩
    · cases saves : save path changed locked with
      | error e =>
        obtain ⟨failure, rfl⟩ := save_eq_error saves
        exact absurd (by simp only [change, taken, loaded, decided, saves]) (undisturbed failure)
      | ok after =>
        simp only [change, taken, loaded, decided, saves]
        exact ⟨trivial, keeps_of_save saves, readable_of_save saves⟩

/-- A settled document takes any change without a failure of the file system, and stays settled. -/
theorem Settled.change (h : Settled path tree)
    (intact : ∀ document e, (decision document).1 ≠ .error (.file e)) :
    (∀ e, (change path decision tree).1 ≠ .error (.file e)) ∧
      Settled path (change path decision tree).2 := by
  obtain ⟨locked, taken, settled⟩ := h.lock
  cases loaded : load path locked with
  | error e =>
    simp only [FileStore.change, taken, loaded]
    refine ⟨fun failure same => ?_, settled⟩
    cases same
    exact readable_iff.1 settled.readable failure loaded
  | ok document =>
    have intact := intact document
    rcases decided : decision document with ⟨answer, _ | changed⟩
    · rw [decided] at intact
      simp only [FileStore.change, taken, loaded, decided]
      exact ⟨intact, settled⟩
    · obtain ⟨after, saves, still⟩ := settled.save changed
      rw [decided] at intact
      simp only [FileStore.change, taken, loaded, decided, saves]
      exact ⟨intact, still⟩

end FileStore

end TableBooking
