import Mathlib.Tactic.Common
import TableBooking.Files.Tree
import TableBooking.Proofs.Entries

/-!
What the operations on a tree keep. Making directories and taking a lock add to a tree and change
nothing that was there; a file that is written is read back.
-/
namespace TableBooking.FileTree

theorem node?_put_self (tree : FileTree) {l : Location} (h : l.isOutermost = false) (node : Node) :
    (tree.put l node).node? l = some node := by
  simp [node?, put, h]

theorem node?_put_of_ne (tree : FileTree) {l m : Location} (h : m ≠ l) (node : Node) :
    (tree.put l node).node? m = tree.node? m := by
  unfold node? put
  split
  · rfl
  · rw [List.lookup_cons, beq_false_of_ne h]
    exact lookup_filter_ne h _

theorem not_isOutermost {tree : FileTree} {l : Location} (h : tree.node? l ≠ some .directory) :
    l.isOutermost = false := by
  cases outermost : l.isOutermost with
  | false => rfl
  | true =>
    refine absurd ?_ h
    rw [node?, if_pos outermost]

/-- One tree has all that another has, and of new files only empty ones. -/
structure Grows (tree after : FileTree) : Prop where
  kept : ∀ l node, tree.node? l = some node → after.node? l = some node
  empty : ∀ l content, tree.node? l = none → after.node? l = some (.file content) → content = []

theorem Grows.refl (tree : FileTree) : Grows tree tree where
  kept _ _ h := h
  empty l content absent present := by
    rw [absent] at present
    cases present

theorem Grows.trans {tree between after : FileTree} (h : Grows tree between)
    (h' : Grows between after) : Grows tree after where
  kept l node there := h'.kept l node (h.kept l node there)
  empty l content absent present := by
    cases found : between.node? l with
    | none => exact h'.empty l content found present
    | some node =>
      have same := h'.kept l node found
      rw [present] at same
      cases same
      exact h.empty l content absent found

/-- Putting down what is there already, or a directory or an empty file where nothing is. -/
theorem put_grows {tree : FileTree} {l : Location} {node : Node}
    (free : tree.node? l ≠ some .directory) (same : ∀ old, tree.node? l = some old → node = old)
    (empty : ∀ content, tree.node? l = none → node = .file content → content = []) :
    Grows tree (tree.put l node) where
  kept m old there := by
    by_cases here : m = l
    · subst here
      rw [node?_put_self tree (not_isOutermost free), same old there]
    · rwa [node?_put_of_ne tree here]
  empty m content absent present := by
    by_cases here : m = l
    · subst here
      rw [node?_put_self tree (not_isOutermost free)] at present
      exact empty content absent (Option.some.inj present)
    · rw [node?_put_of_ne tree here, absent] at present
      cases present

/-- A directory is made in a directory, where nothing is. -/
theorem makeDirectory_eq_ok {tree after : FileTree} {absolute : Bool} {steps : List String}
    (h : tree.makeDirectory absolute steps = .ok after) :
    ∃ above name parent, steps = above ++ [name] ∧ tree.locate absolute above = .ok parent ∧
      tree.node? parent = some .directory ∧ tree.node? (parent.step name) = none ∧
      after = tree.put (parent.step name) .directory := by
  unfold makeDirectory at h
  split at h
  · cases h
  · rename_i parent located
    split at h
    · cases h
    · cases h
    · rename_i directory
      split at h
      · cases h
      · rename_i name last
        simp only at h
        split at h
        · cases h
        · rename_i absent
          obtain ⟨above, rfl⟩ := List.getLast?_eq_some_iff.1 last
          rw [List.dropLast_concat] at located
          cases h
          exact ⟨above, name, parent, rfl, located, directory,
            Option.not_isSome_iff_eq_none.1 absent, rfl⟩

theorem makeDirectory_grows {tree after : FileTree} {absolute : Bool} {steps : List String}
    (h : tree.makeDirectory absolute steps = .ok after) : Grows tree after := by
  obtain ⟨_, name, parent, _, _, _, none, rfl⟩ := makeDirectory_eq_ok h
  refine put_grows (by rw [none]; simp) (fun old there => ?_) (fun content _ dir => ?_)
  · rw [none] at there
    cases there
  · cases dir

theorem makeDirectories_grows {tree after : FileTree} {absolute : Bool} {steps : List String}
    (h : tree.makeDirectories absolute steps = .ok after) : Grows tree after := by
  fun_induction makeDirectories tree absolute steps generalizing after with
  | case1 =>
    cases h
    exact .refl _
  | case2 _ _ _ made =>
    cases h
    exact makeDirectory_grows made
  | case4 _ _ _ _ above _ made ih =>
    cases h
    exact (ih above).trans (makeDirectory_grows made)
  | case5 _ _ _ _ above _ _ _ ih =>
    cases h
    exact ih above
  | case7 =>
    cases h
    exact .refl _
  | case3 => cases h
  | case6 => cases h
  | case8 => cases h

/-- A way that leads somewhere leads there still. -/
theorem Grows.walk {tree after : FileTree} (h : Grows tree after) {l m : Location}
    {names : List String} (walked : tree.walk l names = .ok m) : after.walk l names = .ok m := by
  induction names generalizing l with
  | nil => exact walked
  | cons name names ih =>
    unfold FileTree.walk at walked ⊢
    split at walked
    · cases walked
    · cases walked
    · rename_i directory
      rw [h.kept l _ directory]
      exact ih walked

theorem read_eq_ok {tree : FileTree} {path : Path} {content : Json.Bytes} :
    tree.read path = .ok content ↔ ∃ l, tree.locate path.isAbsolute path.steps = .ok l ∧
      tree.node? l = some (.file content) := by
  unfold read
  cases located : tree.locate path.isAbsolute path.steps with
  | error e => simp
  | ok l =>
    cases found : tree.node? l with
    | none => simp [found]
    | some node => cases node <;> simp [found]

theorem Grows.read {tree after : FileTree} (h : Grows tree after) {path : Path}
    {content : Json.Bytes} (there : tree.read path = .ok content) :
    after.read path = .ok content := by
  obtain ⟨l, located, found⟩ := read_eq_ok.1 there
  exact read_eq_ok.2 ⟨l, h.walk located, h.kept l _ found⟩

/-- Nothing but a directory is on the way to a place, so what is put there where no directory is
changes no way. -/
theorem walk_put {tree : FileTree} {l m place : Location} {names : List String}
    (free : tree.node? place ≠ some .directory) (node : Node)
    (walked : tree.walk l names = .ok m) : (tree.put place node).walk l names = .ok m := by
  induction names generalizing l with
  | nil => exact walked
  | cons name names ih =>
    unfold FileTree.walk at walked ⊢
    split at walked
    · cases walked
    · cases walked
    · rename_i directory
      have elsewhere : l ≠ place := by
        rintro rfl
        exact free directory
      rw [node?_put_of_ne tree elsewhere, directory]
      exact ih walked

/-- A file is put where a path leads, unless a directory is there. -/
theorem update_eq_ok {tree after : FileTree} {path : Path}
    {content : Option Json.Bytes → Json.Bytes} :
    tree.update path content = .ok after ↔
      ∃ l old, tree.locate path.isAbsolute path.steps = .ok l ∧
        (tree.node? l = none ∧ old = none ∨
          ∃ bytes, tree.node? l = some (.file bytes) ∧ old = some bytes) ∧
        after = tree.put l (.file (content old)) := by
  unfold update
  cases located : tree.locate path.isAbsolute path.steps with
  | error e => simp
  | ok l =>
    cases found : tree.node? l with
    | none => simp [found, eq_comm]
    | some node => cases node <;> simp [found, eq_comm]

theorem free_of_update {tree : FileTree} {l : Location} {old : Option Json.Bytes}
    (h : tree.node? l = none ∧ old = none ∨
      ∃ bytes, tree.node? l = some (.file bytes) ∧ old = some bytes) :
    tree.node? l ≠ some .directory := by
  rcases h with ⟨none, _⟩ | ⟨bytes, file, _⟩
  · simp [none]
  · simp [file]

theorem read_write {tree after : FileTree} {path : Path} {content : Json.Bytes}
    (h : tree.write path content = .ok after) : after.read path = .ok content := by
  obtain ⟨l, old, located, state, rfl⟩ := update_eq_ok.1 h
  have free := free_of_update state
  exact read_eq_ok.2 ⟨l, walk_put free _ located, node?_put_self tree (not_isOutermost free) _⟩

/-- A file that is made if it is missing and else left as it is. -/
theorem touch_grows {tree after : FileTree} {path : Path}
    (h : tree.update path (fun old => old.getD []) = .ok after) : Grows tree after := by
  obtain ⟨l, old, _, state, rfl⟩ := update_eq_ok.1 h
  refine put_grows (free_of_update state) (fun node there => ?_) (fun content none new => ?_)
  · rcases state with ⟨none, _⟩ | ⟨bytes, file, rfl⟩
    · rw [none] at there
      cases there
    · rw [file] at there
      exact Option.some.inj there
  · rcases state with ⟨_, rfl⟩ | ⟨bytes, file, _⟩
    · cases new
      rfl
    · rw [file] at none
      cases none

/-- The path leads to a place where no directory is, so that a file can be there. -/
def Holds (tree : FileTree) (path : Path) : Prop :=
  ∃ l, tree.locate path.isAbsolute path.steps = .ok l ∧ tree.node? l ≠ some .directory

theorem Holds.update {tree : FileTree} {path : Path} (h : tree.Holds path)
    (content : Option Json.Bytes → Json.Bytes) : ∃ after, tree.update path content = .ok after := by
  obtain ⟨l, located, free⟩ := h
  cases found : tree.node? l with
  | none => exact ⟨_, update_eq_ok.2 ⟨l, none, located, Or.inl ⟨found, rfl⟩, rfl⟩⟩
  | some node =>
    cases node with
    | directory => exact absurd found free
    | file bytes =>
      exact ⟨_, update_eq_ok.2 ⟨l, some bytes, located, Or.inr ⟨bytes, found, rfl⟩, rfl⟩⟩

theorem Holds.read {tree : FileTree} {path : Path} (h : tree.Holds path) {e : FileError}
    (failed : tree.read path = .error e) : e = .notFound := by
  obtain ⟨l, located, free⟩ := h
  unfold FileTree.read at failed
  rw [located] at failed
  cases found : tree.node? l with
  | none =>
    simp only [found] at failed
    cases failed
    rfl
  | some node =>
    cases node with
    | directory => exact absurd found free
    | file bytes => simp [found] at failed

theorem holds_of_update {tree after : FileTree} {path : Path}
    {content : Option Json.Bytes → Json.Bytes} (h : tree.update path content = .ok after) :
    after.Holds path := by
  obtain ⟨l, old, located, state, rfl⟩ := update_eq_ok.1 h
  have free := free_of_update state
  refine ⟨l, walk_put free _ located, ?_⟩
  rw [node?_put_self tree (not_isOutermost free)]
  simp

/-- Writing one file takes no other file away. -/
theorem Holds.of_update {tree after : FileTree} {path other : Path}
    {content : Option Json.Bytes → Json.Bytes} (h : tree.Holds other)
    (updated : tree.update path content = .ok after) : after.Holds other := by
  obtain ⟨l, old, _, state, rfl⟩ := update_eq_ok.1 updated
  obtain ⟨m, located, free⟩ := h
  refine ⟨m, walk_put (free_of_update state) _ located, ?_⟩
  by_cases here : m = l
  · subst here
    rw [node?_put_self tree (not_isOutermost free)]
    simp
  · rwa [node?_put_of_ne tree here]

theorem isDirectory_iff {tree : FileTree} {absolute : Bool} {steps : List String} :
    tree.isDirectory absolute steps = true ↔
      ∃ l, tree.locate absolute steps = .ok l ∧ tree.node? l = some .directory := by
  unfold isDirectory
  cases tree.locate absolute steps <;> simp

theorem isDirectory_of_update {tree after : FileTree} {path : Path} {absolute : Bool}
    {steps : List String} {content : Option Json.Bytes → Json.Bytes}
    (there : tree.isDirectory absolute steps = true)
    (updated : tree.update path content = .ok after) : after.isDirectory absolute steps = true := by
  obtain ⟨l, old, _, state, rfl⟩ := update_eq_ok.1 updated
  have free := free_of_update state
  obtain ⟨m, located, directory⟩ := isDirectory_iff.1 there
  have elsewhere : m ≠ l := by
    rintro rfl
    exact free directory
  exact isDirectory_iff.2 ⟨m, walk_put free _ located, by rwa [node?_put_of_ne tree elsewhere]⟩

theorem walk_append {tree : FileTree} {l : Location} {names more : List String} :
    tree.walk l (names ++ more) = tree.walk l names >>= fun m => tree.walk m more := by
  induction names generalizing l with
  | nil => rfl
  | cons name names ih =>
    rw [List.cons_append, FileTree.walk, FileTree.walk]
    split
    · rfl
    · rfl
    · exact ih

theorem locate_concat {tree : FileTree} {absolute : Bool} {above : List String} {name : String}
    {l : Location} : tree.locate absolute (above ++ [name]) = .ok l ↔
      ∃ parent, tree.locate absolute above = .ok parent ∧
        tree.node? parent = some .directory ∧ parent.step name = l := by
  unfold locate
  rw [walk_append]
  cases walked : tree.walk ⟨absolute, []⟩ above with
  | error e => simp [bind, Except.bind]
  | ok parent =>
    simp only [bind, Except.bind, FileTree.walk]
    cases found : tree.node? parent with
    | none => simp [found]
    | some node => cases node <;> simp [found]

/-- Directories that are there need not be made. -/
theorem makeDirectories_of_isDirectory {tree : FileTree} {absolute : Bool} {steps : List String}
    (h : tree.isDirectory absolute steps = true) :
    tree.makeDirectories absolute steps = .ok tree := by
  unfold makeDirectories
  split
  · rfl
  · rename_i nonempty
    obtain ⟨above, name, rfl⟩ : ∃ above name, steps = above ++ [name] :=
      ⟨_, _, (List.dropLast_concat_getLast nonempty).symm⟩
    obtain ⟨l, located, directory⟩ := isDirectory_iff.1 h
    obtain ⟨parent, walked, inDirectory, rfl⟩ := locate_concat.1 located
    have refused : tree.makeDirectory absolute (above ++ [name]) = .error .alreadyExists := by
      simp [makeDirectory, walked, inDirectory, directory]
    rw [refused]

/-- Steps that stay where they are can be left out. -/
theorem walk_filter {tree : FileTree} {l m : Location} {names : List String}
    (walked : tree.walk l names = .ok m) : tree.walk l (names.filter (· ≠ ".")) = .ok m := by
  induction names generalizing l with
  | nil => exact walked
  | cons name names ih =>
    unfold FileTree.walk at walked
    split at walked
    · cases walked
    · cases walked
    · rename_i directory
      have rest := ih walked
      by_cases here : name = "."
      · subst here
        rwa [Location.step, if_pos rfl] at rest
      · rw [List.filter_cons_of_pos (by simpa using here), FileTree.walk, directory]
        exact rest

theorem isDirectory_dropLast {tree : FileTree} {absolute : Bool} {steps : List String}
    (h : tree.isDirectory absolute steps = true) :
    tree.isDirectory absolute steps.dropLast = true := by
  by_cases nowhere : steps = []
  · rwa [nowhere] at h ⊢
  · rw [← List.dropLast_concat_getLast nowhere] at h
    obtain ⟨l, located, _⟩ := isDirectory_iff.1 h
    obtain ⟨parent, walked, directory, _⟩ := locate_concat.1 located
    exact isDirectory_iff.2 ⟨parent, walked, directory⟩

/-- Where the way to a file is there, nothing is made. -/
theorem prepare_of_isDirectory {tree : FileTree} {path : Path}
    (h : tree.isDirectory path.isAbsolute path.steps.dropLast = true) :
    tree.prepare path = .ok tree := by
  apply makeDirectories_of_isDirectory
  obtain ⟨l, walked, directory⟩ := isDirectory_iff.1 h
  have named : tree.isDirectory path.isAbsolute (path.steps.dropLast.filter (· ≠ ".")) = true :=
    isDirectory_iff.2 ⟨l, walk_filter walked, directory⟩
  unfold Path.directorySteps
  by_cases nowhere : path.steps = []
  · rwa [nowhere] at named ⊢
  · rw [← List.dropLast_concat_getLast nowhere, List.filter_append]
    by_cases here : path.steps.getLast nowhere = "."
    · rw [here]
      simpa using isDirectory_dropLast named
    · have last : [path.steps.getLast nowhere].filter (· ≠ ".") = [path.steps.getLast nowhere] := by
        simp [here]
      rwa [last, List.dropLast_concat]

/-- A file is put into a directory that is there. -/
theorem isDirectory_above_update {tree after : FileTree} {path : Path}
    {content : Option Json.Bytes → Json.Bytes} (h : tree.update path content = .ok after) :
    after.isDirectory path.isAbsolute path.steps.dropLast = true := by
  refine isDirectory_of_update ?_ h
  obtain ⟨l, _, located, _⟩ := update_eq_ok.1 h
  by_cases nowhere : path.steps = []
  · rw [nowhere]
    exact isDirectory_iff.2 ⟨_, rfl, rfl⟩
  · rw [← List.dropLast_concat_getLast nowhere] at located
    obtain ⟨parent, walked, directory, _⟩ := locate_concat.1 located
    exact isDirectory_iff.2 ⟨parent, walked, directory⟩

end TableBooking.FileTree
