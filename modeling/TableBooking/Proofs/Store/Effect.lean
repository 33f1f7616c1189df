import TableBooking.Proofs.Store.LockFile

/-!
What insertions and deletions do to the file of a document, whatever it holds before. A change that
is not made leaves the file byte for byte; one that is made leaves the text of the changed document.
-/
namespace TableBooking

namespace FileTree

def content? (tree : FileTree) (l : Location) : Option Json.Bytes :=
  match tree.node? l with
  | some (.file content) => some content
  | _ => none

variable {tree after : FileTree}

theorem content?_of_file {l : Location} {content : Json.Bytes}
    (h : tree.node? l = some (.file content)) : tree.content? l = some content := by
  rw [content?, h]

theorem content?_put_of_ne (tree : FileTree) {l m : Location} (h : m ≠ l) (node : Node) :
    (tree.put l node).content? m = tree.content? m := by
  rw [content?, content?, node?_put_of_ne tree h]

theorem makeDirectory_content? {absolute : Bool} {steps : List String}
    (h : tree.makeDirectory absolute steps = .ok after) (l : Location) :
    after.content? l = tree.content? l := by
  obtain ⟨_, name, parent, _, _, _, none, rfl⟩ := makeDirectory_eq_ok h
  by_cases here : l = parent.step name
  · subst here
    have free : tree.node? (parent.step name) ≠ some .directory := by simp [none]
    rw [content?, content?, none, node?_put_self tree (not_isOutermost free)]
  · exact content?_put_of_ne tree here _

/-- Directories are no files. -/
theorem makeDirectories_content? {absolute : Bool} {steps : List String}
    (h : tree.makeDirectories absolute steps = .ok after) (l : Location) :
    after.content? l = tree.content? l := by
  fun_induction makeDirectories tree absolute steps generalizing after with
  | case1 =>
    cases h
    rfl
  | case2 _ _ _ made =>
    cases h
    exact makeDirectory_content? made l
  | case4 _ _ _ _ above _ made ih =>
    cases h
    exact (makeDirectory_content? made l).trans (ih above)
  | case5 _ _ _ _ above _ _ _ ih =>
    cases h
    exact ih above
  | case7 =>
    cases h
    rfl
  | case3 => cases h
  | case6 => cases h
  | case8 => cases h

theorem update_content?_of_ne {path : Path} {content : Option Json.Bytes → Json.Bytes}
    (h : tree.update path content = .ok after) {l : Location} (elsewhere : l ≠ path.place) :
    after.content? l = tree.content? l := by
  obtain ⟨m, old, located, _, rfl⟩ := update_eq_ok.1 h
  rw [← locate_eq_place located] at elsewhere
  exact content?_put_of_ne tree elsewhere _

theorem content?_of_read {path : Path} {content : Json.Bytes}
    (h : tree.read path = .ok content) : tree.content? path.place = some content := by
  obtain ⟨l, located, there⟩ := read_eq_ok.1 h
  rw [locate_eq_place located] at there
  exact content?_of_file there

theorem write_content? {path : Path} {content : Json.Bytes}
    (h : tree.write path content = .ok after) : after.content? path.place = some content :=
  content?_of_read (read_write h)

theorem locate_of_isDirectory {path : Path}
    (h : tree.isDirectory path.isAbsolute path.steps.dropLast = true) :
    ∃ l, tree.locate path.isAbsolute path.steps = .ok l := by
  obtain ⟨parent, walked, directory⟩ := isDirectory_iff.1 h
  by_cases nowhere : path.steps = []
  · rw [nowhere]
    exact ⟨_, rfl⟩
  · rw [← List.dropLast_concat_getLast nowhere]
    exact ⟨_, locate_concat.2 ⟨parent, walked, directory, rfl⟩⟩

/-- A file in a directory that is there is found at its place. -/
theorem read_of_isDirectory {path : Path}
    (h : tree.isDirectory path.isAbsolute path.steps.dropLast = true) :
    tree.read path = .error .isADirectory ∨
      (match tree.content? path.place with
        | some content => tree.read path = .ok content
        | none => tree.read path = .error .notFound) := by
  obtain ⟨l, located⟩ := locate_of_isDirectory h
  rw [← locate_eq_place located, content?, read, located]
  cases found : tree.node? l with
  | none =>
    right
    simp only [found]
  | some node =>
    cases node with
    | directory =>
      left
      simp only [found]
    | file content =>
      right
      simp only [found]

end FileTree

namespace Document

def accept (document : Document) (p : Proposal) : Document where
  lastId := document.lastId + 1
  bookings := document.bookings ++ [p.booked ⟨document.lastId + 1⟩]

/-- An insertion is decided by whether a booking clashes. -/
theorem inserting_cases (p : Proposal) (document : Document) :
    (∃ e, document.inserting p = (.error e, none)) ∨
      (∀ b ∈ document.bookings, b.clashesWith p = false) ∧
        document.inserting p =
          (.ok (p.booked ⟨document.lastId + 1⟩), some (document.accept p)) := by
  unfold inserting insert
  cases found : document.bookings.find? (·.clashesWith p) with
  | some clash => exact Or.inl ⟨_, rfl⟩
  | none =>
    refine Or.inr ⟨?_, rfl⟩
    intro b hb
    simpa using List.find?_eq_none.1 found b hb

theorem mem_present {document : Document} {ids : List BookingId} {id : BookingId} :
    id ∈ document.present ids ↔ id ∈ ids ∧ ∃ b ∈ document.bookings, b.id = id := by
  simp only [present, List.mem_filter, List.mem_map, List.contains_iff_mem]
  exact and_comm

theorem without_present (document : Document) (ids : List BookingId) :
    document.without (document.present ids) = document.without ids := by
  unfold without
  congr 1
  apply List.filter_congr
  intro b hb
  have same : b.id ∈ document.present ids ↔ b.id ∈ ids := by
    rw [mem_present]
    exact and_iff_left ⟨b, hb, rfl⟩
  rw [Bool.eq_iff_iff]
  simp [same]

end Document

namespace FileStore

variable {path : Path} {tree locked after : FileTree} {document : Document}

theorem lock_content? (h : lock path tree = .ok locked) :
    locked.content? path.place = tree.content? path.place := by
  obtain ⟨prepared, made, touched⟩ := lock_eq_ok.1 h
  rw [FileTree.update_content?_of_ne touched path.lockFile_place_ne.symm]
  exact FileTree.makeDirectories_content? made _

theorem save_content? (h : save path document tree = .ok after) :
    after.content? path.place = some document.text := by
  obtain ⟨prepared, _, written⟩ := save_eq_ok.1 h
  exact FileTree.write_content? written

/-- A document that is loaded is the one at the place of the file, unless the way there is missing
and it counts as the one without bookings. -/
theorem load_eq_ok (h : load path tree = .ok document) :
    document = {} ∨ Document.ofContent (tree.content? path.place) = .ok document := by
  unfold load at h
  cases read : tree.read path with
  | ok content =>
    rw [read] at h
    rw [FileTree.content?_of_read read]
    exact Or.inr h
  | error e =>
    rw [read] at h
    cases e <;> cases h
    exact Or.inl rfl

/-- A file without a document holds the one without bookings. -/
theorem ofContent_of_vacant (vacant : Vacant path tree) :
    Document.ofContent (tree.content? path.place) = .ok {} := by
  unfold FileTree.content?
  cases found : tree.node? path.place with
  | none => rfl
  | some node =>
    cases node with
    | directory => rfl
    | file content =>
      obtain rfl := vacant content found
      rfl

/-- What is loaded under the lock is what the file holds. -/
theorem load_locked (taken : lock path tree = .ok locked) (h : load path locked = .ok document) :
    Document.ofContent (tree.content? path.place) = .ok document := by
  have directory := isDirectory_of_lock taken
  rw [← lock_content? taken]
  unfold load at h
  rcases FileTree.read_of_isDirectory directory with failed | found
  · rw [failed] at h
    cases h
  · cases there : locked.content? path.place with
    | none =>
      rw [there] at found
      rwa [found] at h
    | some content =>
      rw [there] at found
      rwa [found] at h

/-- What a change may come to. Whether it is made is decided by the document that the file holds. -/
inductive Outcome {α : Type} (path : Path)
    (decision : Document → Except StoreError α × Option Document) (tree : FileTree) :
    Except StoreError α × FileTree → Prop where
  | failed {e after} : after.content? path.place = tree.content? path.place →
      Outcome path decision tree (.error e, after)
  | kept {document answer after} : Document.ofContent (tree.content? path.place) = .ok document →
      decision document = (answer, none) → after.content? path.place = tree.content? path.place →
      Outcome path decision tree (answer, after)
  | saved {document changed answer after} :
      Document.ofContent (tree.content? path.place) = .ok document →
      decision document = (answer, some changed) →
      after.content? path.place = some changed.text → Outcome path decision tree (answer, after)

theorem change_outcome {α : Type} (path : Path)
    (decision : Document → Except StoreError α × Option Document) (tree : FileTree) :
    Outcome path decision tree (change path decision tree) := by
  unfold change
  cases taken : lock path tree with
  | error e => exact .failed rfl
  | ok locked =>
    have same := lock_content? taken
    dsimp only
    cases loaded : load path locked with
    | error e => exact .failed same
    | ok document =>
      have held := load_locked taken loaded
      dsimp only
      rcases decided : decision document with ⟨answer, _ | changed⟩
      · exact .kept held decided same
      · dsimp only
        cases saves : save path changed locked with
        | error e => exact .failed same
        | ok after => exact .saved held decided (save_content? saves)

theorem insert_outcome (path : Path) (p : Proposal) (tree : FileTree) :
    (∃ e, (insert path p tree).1 = .error e ∧
      (insert path p tree).2.content? path.place = tree.content? path.place) ∨
    ∃ document, Document.ofContent (tree.content? path.place) = .ok document ∧
      (∀ b ∈ document.bookings, b.clashesWith p = false) ∧
      (insert path p tree).1 = .ok (p.booked ⟨document.lastId + 1⟩) ∧
      (insert path p tree).2.content? path.place = some (document.accept p).text := by
  rw [insert_eq_change]
  generalize made : change path (Document.inserting p) tree = result
  have outcome := change_outcome path (Document.inserting p) tree
  rw [made] at outcome
  cases outcome with
  | failed same => exact Or.inl ⟨_, rfl, same⟩
  | @kept document answer after held decided same =>
    rcases document.inserting_cases p with ⟨e, refused⟩ | ⟨_, taken⟩
    · rw [refused] at decided
      cases decided
      exact Or.inl ⟨e, rfl, same⟩
    · rw [taken] at decided
      cases decided
  | @saved document changed answer after held decided text =>
    rcases document.inserting_cases p with ⟨e, refused⟩ | ⟨free, taken⟩
    · rw [refused] at decided
      cases decided
    · rw [taken] at decided
      cases decided
      exact Or.inr ⟨document, held, free, rfl, text⟩

theorem delete_outcome (path : Path) (ids : List BookingId) (tree : FileTree) :
    ((∃ e, (delete path ids tree).1 = .error e) ∨ (delete path ids tree).1 = .ok []) ∧
      (delete path ids tree).2.content? path.place = tree.content? path.place ∨
    ∃ document, Document.ofContent (tree.content? path.place) = .ok document ∧
      document.present ids ≠ [] ∧ (delete path ids tree).1 = .ok (document.present ids) ∧
      (delete path ids tree).2.content? path.place = some (document.without ids).text := by
  rw [delete_eq_change]
  generalize made : change path (Document.deleting ids) tree = result
  have outcome := change_outcome path (Document.deleting ids) tree
  rw [made] at outcome
  cases outcome with
  | failed same => exact Or.inl ⟨Or.inl ⟨_, rfl⟩, same⟩
  | @kept document answer after held decided same =>
    unfold Document.deleting at decided
    split at decided
    · cases decided
      exact Or.inl ⟨Or.inr rfl, same⟩
    · cases decided
  | @saved document changed answer after held decided text =>
    unfold Document.deleting at decided
    split at decided
    · cases decided
    · rename_i some
      cases decided
      rw [Document.without_present] at text
      exact Or.inr ⟨document, held, some, rfl, text⟩

end FileStore

end TableBooking
