import TableBooking.Proofs.Store.Freshness
import TableBooking.Proofs.Store.Refinement

/-!
What requests leave of the file of a document, whatever its content is before: the text of a
document, any other bytes, nothing at all, or no file. A request that does not change the document
leaves the content byte for byte; one that does leaves a text that stands for the changed document.
Where the content stands for no document, every request fails.
-/
namespace TableBooking

namespace Store

def Answer.Idle : Answer → Prop
  | .inserted (.ok _) => False
  | .deleted (.ok removed) => removed = []
  | _ => True

def Answer.Failed : Answer → Prop
  | .listed found => ∃ e, found = .error e
  | .inserted booking => ∃ e, booking = .error e
  | .deleted removed => ∃ e, removed = .error e
  | .reopened => False

end Store

namespace FileStore

variable {path : Path} {tree locked after : FileTree} {content : Option Json.Bytes}

/-- The file of the document has this content; `none` where there is no file. -/
def Has (path : Path) (content : Option Json.Bytes) (tree : FileTree) : Prop :=
  match content with
  | some bytes => tree.read path = .ok bytes
  | none => tree.content? path.place = none

/-- The path leads to the file in the place of the document, if there is one. -/
def Accessible (path : Path) (tree : FileTree) : Prop :=
  ∀ bytes, tree.content? path.place = some bytes → tree.read path = .ok bytes

theorem has_iff : Has path content tree ↔
    tree.content? path.place = content ∧ Accessible path tree := by
  cases content with
  | none =>
    constructor
    · intro none
      refine ⟨none, ?_⟩
      intro bytes there
      rw [none] at there
      cases there
    · intro h
      exact h.1
  | some bytes =>
    constructor
    · intro read
      have there := FileTree.content?_of_read read
      refine ⟨there, ?_⟩
      intro others same
      rw [there] at same
      cases same
      exact read
    · intro h
      exact h.2 bytes h.1

theorem accessible_of_isDirectory
    (h : tree.isDirectory path.isAbsolute path.steps.dropLast = true) : Accessible path tree := by
  intro bytes there
  obtain ⟨l, located⟩ := FileTree.locate_of_isDirectory h
  rw [← FileTree.locate_eq_place located] at there
  apply FileTree.read_eq_ok.2
  refine ⟨l, located, ?_⟩
  unfold FileTree.content? at there
  split at there
  case h_1 found =>
    cases there
    exact found
  case h_2 => cases there

/-- A change that is begun makes the way to the file. -/
theorem change_eq_or_accessible {α : Type} (path : Path)
    (decision : Document → Except StoreError α × Option Document) (tree : FileTree) :
    (change path decision tree).2 = tree ∨ Accessible path (change path decision tree).2 := by
  unfold change
  cases taken : lock path tree with
  | error e => exact Or.inl rfl
  | ok locked =>
    right
    have there := accessible_of_isDirectory (isDirectory_of_lock taken)
    dsimp only
    cases load path locked with
    | error e => exact there
    | ok document =>
      dsimp only
      rcases decision document with ⟨answer, _ | changed⟩
      · exact there
      · dsimp only
        cases saves : save path changed locked with
        | error e => exact there
        | ok after => exact accessible_of_isDirectory (settled_of_save taken saves).directory

theorem change_accessible {α : Type} (decision : Document → Except StoreError α × Option Document)
    (h : Accessible path tree) : Accessible path (change path decision tree).2 := by
  rcases change_eq_or_accessible path decision tree with same | there
  · rw [same]
    exact h
  · exact there

theorem insert_content (has : Has path content tree) (p : Proposal) :
    (∃ e, (insert path p tree).1 = .error e) ∧ Has path content (insert path p tree).2 ∨
    ∃ document, Document.ofContent content = .ok document ∧
      (insert path p tree).1 = .ok (p.booked ⟨document.lastId + 1⟩) ∧
      Has path (some (document.accept p).text) (insert path p tree).2 := by
  obtain ⟨rfl, accessible⟩ := has_iff.1 has
  have still : Accessible path (insert path p tree).2 := by
    rw [insert_eq_change]
    exact change_accessible _ accessible
  rcases insert_outcome path p tree with ⟨e, failed, same⟩ | ⟨document, held, _, taken, text⟩
  · left
    exact ⟨⟨e, failed⟩, has_iff.2 ⟨same, still⟩⟩
  · right
    exact ⟨document, held, taken, has_iff.2 ⟨text, still⟩⟩

theorem delete_content (has : Has path content tree) (ids : List BookingId) :
    ((∃ e, (delete path ids tree).1 = .error e) ∨
        (delete path ids tree).1 = .ok [] ∧ ∃ document, Document.ofContent content = .ok document) ∧
      Has path content (delete path ids tree).2 ∨
    ∃ document, Document.ofContent content = .ok document ∧ document.present ids ≠ [] ∧
      (delete path ids tree).1 = .ok (document.present ids) ∧
      Has path (some (document.without ids).text) (delete path ids tree).2 := by
  obtain ⟨rfl, accessible⟩ := has_iff.1 has
  have still : Accessible path (delete path ids tree).2 := by
    rw [delete_eq_change]
    exact change_accessible _ accessible
  rcases delete_outcome path ids tree with ⟨answered, same⟩ | ⟨document, held, some, taken, text⟩
  · left
    refine ⟨?_, has_iff.2 ⟨same, still⟩⟩
    rcases answered with failed | idle
    · exact Or.inl failed
    · have decided := idle
      rw [delete_eq_change] at decided
      obtain ⟨document, held, _⟩ := change_eq_ok (Prod.ext decided rfl)
      exact Or.inr ⟨idle, document, held⟩
  · right
    exact ⟨document, held, some, taken, has_iff.2 ⟨text, still⟩⟩

theorem load_content {bytes : Json.Bytes} (has : Has path (some bytes) tree) :
    load path tree = Document.ofContent (some bytes) := by
  unfold load
  rw [show tree.read path = .ok bytes from has]

/-- Bytes that stand for no document. -/
theorem ofContent_ne_ok {bytes : Json.Bytes} (some : bytes ≠ [])
    (bad : ∀ document, Json.decode Document.reader bytes ≠ .ok document) (document : Document) :
    Document.ofContent (.some bytes) ≠ .ok document := by
  unfold Document.ofContent
  cases decoded : Json.decode Document.reader bytes with
  | error e =>
    cases bytes with
    | nil => exact absurd rfl some
    | cons b rest => simp [decoded, Except.mapError]
  | ok read => exact absurd decoded (bad read)

structure Leaves (path : Path) (content : Option Json.Bytes) (request : Store.Request)
    (answer : Store.Answer) (after : FileTree) : Prop where
  /-- Where no change is acknowledged, all of it. -/
  kept : answer.Idle → Has path content after
  /-- The booking that is answered stands at the end, and its number is the last one. -/
  inserted : ∀ p b, request = .insert p → answer = .inserted (.ok b) →
    ∃ document text next, Document.ofContent content = .ok document ∧
      Has path (some text) after ∧ Json.decode Document.reader text = .ok next ∧
      next.lastId.toNat = document.lastId.toNat + 1 ∧ b = p.booked ⟨next.lastId⟩ ∧
      next.bookings = document.bookings ++ [b]
  /-- The bookings of all numbers but those asked for stay, in their order. -/
  removed : ∀ ids gone, request = .delete ids → answer = .deleted (.ok gone) → gone ≠ [] →
    ∃ document text next, Document.ofContent content = .ok document ∧
      Has path (some text) after ∧ Json.decode Document.reader text = .ok next ∧
      next.lastId = document.lastId ∧
      next.bookings = document.bookings.filter fun b => b.id ∉ ids
  /-- Bytes that stand for no document let nothing succeed. -/
  refused : ∀ bytes, content = some bytes → bytes ≠ [] →
    (∀ document, Json.decode Document.reader bytes ≠ .ok document) → request ≠ .reopen →
    answer.Failed

theorem reading_leaves (has : Has path content tree) (listing : Document → List Booking)
    {request : Store.Request} (inserts : ∀ p, request ≠ .insert p)
    (deletes : ∀ ids, request ≠ .delete ids) :
    Leaves path content request (.listed ((load path tree).map listing)) tree where
  kept _ := has
  inserted p _ asked := absurd asked (inserts p)
  removed ids _ asked := absurd asked (deletes ids)
  refused := by
    rintro bytes rfl some bad -
    cases loaded : load path tree with
    | error e => exact ⟨e, rfl⟩
    | ok document =>
      rw [load_content has] at loaded
      exact absurd loaded (ofContent_ne_ok some bad document)

theorem insert_leaves (has : Has path content tree) (p : Proposal)
    (left : ∀ document, Document.ofContent content = .ok document →
      document.lastId.toNat + 1 < UInt64.size) :
    Leaves path content (.insert p) (.inserted (insert path p tree).1) (insert path p tree).2 := by
  rcases insert_content has p with ⟨⟨e, failed⟩, same⟩ | ⟨document, held, taken, saved⟩
  · rw [failed]
    exact {
      kept := fun _ => same
      inserted := by rintro _ _ - ⟨⟩
      removed := by rintro _ _ ⟨⟩
      refused := fun _ _ _ _ _ => ⟨e, rfl⟩ }
  · rw [taken]
    have next : (document.lastId + 1).toNat = document.lastId.toNat + 1 := by
      rw [UInt64.toNat_add]
      exact Nat.mod_eq_of_lt (left document held)
    exact {
      kept := nofun
      inserted := by
        rintro _ _ ⟨⟩ ⟨⟩
        exact ⟨document, _, document.accept p, held, saved, Document.decode_text _, next, rfl, rfl⟩
      removed := by rintro _ _ ⟨⟩
      refused := by
        rintro bytes rfl some bad -
        exact absurd held (ofContent_ne_ok some bad document) }

theorem delete_leaves (has : Has path content tree) (ids : List BookingId) :
    Leaves path content (.delete ids) (.deleted (delete path ids tree).1)
      (delete path ids tree).2 := by
  rcases delete_content has ids with ⟨answered, same⟩ | ⟨document, held, found, taken, saved⟩
  · refine {
      kept := fun _ => same
      inserted := by rintro _ _ ⟨⟩
      removed := ?_
      refused := ?_ }
    · rintro _ gone ⟨⟩ acknowledged some
      rcases answered with ⟨e, failed⟩ | ⟨idle, _⟩
      · rw [failed] at acknowledged
        cases acknowledged
      · rw [idle] at acknowledged
        cases acknowledged
        exact absurd rfl some
    · rintro bytes rfl some bad -
      rcases answered with failed | ⟨_, document, held⟩
      · exact failed
      · exact absurd held (ofContent_ne_ok some bad document)
  · rw [taken]
    exact {
      kept := fun idle => absurd idle found
      inserted := by rintro _ _ ⟨⟩
      removed := by
        rintro _ _ ⟨⟩ ⟨⟩ _
        refine ⟨document, _, document.without ids, held, saved, Document.decode_text _, rfl, ?_⟩
        simp [Document.without]
      refused := by
        rintro bytes rfl some bad -
        exact absurd held (ofContent_ne_ok some bad document) }

/-- Every request treats the document in its file as it is answered, whatever the file holds. -/
theorem content_left_by_request (has : Has path content tree)
    (left : ∀ document, Document.ofContent content = .ok document →
      document.lastId.toNat + 1 < UInt64.size)
    {request : Store.Request} {answer : Store.Answer}
    (served : (store path).serve request tree = (answer, after)) :
    Leaves path content request answer after := by
  cases request with
  | query filter =>
    cases served
    exact reading_leaves has _ (by rintro _ ⟨⟩) (by rintro _ ⟨⟩)
  | onDate venue date =>
    cases served
    exact reading_leaves has _ (by rintro _ ⟨⟩) (by rintro _ ⟨⟩)
  | insert p =>
    cases served
    exact insert_leaves has p left
  | delete ids =>
    cases served
    exact delete_leaves has ids
  | reopen =>
    cases served
    exact {
      kept := fun _ => has
      inserted := by rintro _ _ ⟨⟩
      removed := by rintro _ _ ⟨⟩
      refused := fun _ _ _ _ asked => absurd rfl asked }

/-- The working directory with a document in it that is cut off behind its first byte. -/
def torn : FileTree :=
  ⟨[(⟨false, ["bookings.json"]⟩, .file [0x7B])]⟩

theorem has_torn : Has ⟨"bookings.json"⟩ (some [0x7B]) torn :=
  FileTree.read_eq_ok.2 ⟨⟨false, ["bookings.json"]⟩, rfl, rfl⟩

theorem torn_ne_document (document : Document) :
    Json.decode Document.reader [0x7B] ≠ .ok document := by
  have failed : (Json.decode Document.reader [0x7B]).isOk = false := by decide +kernel
  intro same
  rw [same] at failed
  cases failed

/-- The nightcap is put behind the supper in the text. Where the text is cut off, nothing is
cancelled, and what is left of it stays. -/
theorem nightcap_behind_supper_torn_text_kept :
    let path : Path := ⟨"bookings.json"⟩
    let document : Document := { lastId := 1, bookings := [Proposal.supper.booked ⟨1⟩] }
    (∃ after, (store path).serve (.insert .nightcap) (alone document) =
        (.inserted (.ok (Proposal.nightcap.booked ⟨2⟩)), after) ∧
      ∃ text, Has path (some text) after ∧ Json.decode Document.reader text = .ok
        { lastId := 2, bookings := [Proposal.supper.booked ⟨1⟩, Proposal.nightcap.booked ⟨2⟩] }) ∧
    ∃ e, (delete path [⟨1⟩] torn).1 = .error e ∧
      Has path (some [0x7B]) (delete path [⟨1⟩] torn).2 := by
  intro path document
  constructor
  · have free : ∀ old ∈ document.bookings, old.clashesWith .nightcap = false := by decide
    obtain ⟨after, inserted⟩ :=
      insert_of_settled (Or.inr (read_alone document)) (settled_alone document) free
    have served : (store path).serve (.insert .nightcap) (alone document) =
        (.inserted (.ok (Proposal.nightcap.booked ⟨2⟩)), after) :=
      congrArg (Prod.map Store.Answer.inserted id) inserted
    have has : Has path (some document.text) (alone document) := read_alone document
    have left : ∀ read, Document.ofContent (some document.text) = .ok read →
        read.lastId.toNat + 1 < UInt64.size := by
      intro read held
      rw [document.ofContent_text] at held
      cases held
      decide
    obtain ⟨read, text, next, held, there, decoded, last, -, appended⟩ :=
      (content_left_by_request has left served).inserted _ _ rfl rfl
    rw [document.ofContent_text] at held
    cases held
    refine ⟨after, served, text, there, ?_⟩
    rw [decoded]
    obtain ⟨lastId, bookings⟩ := next
    cases UInt64.toNat_inj.1 (last.trans (by decide : _ = (2 : UInt64).toNat))
    cases appended
    rfl
  · have some : ([0x7B] : Json.Bytes) ≠ [] := List.cons_ne_nil _ _
    have left : ∀ read, Document.ofContent (.some [0x7B]) = .ok read →
        read.lastId.toNat + 1 < UInt64.size :=
      fun read held => absurd held (ofContent_ne_ok some torn_ne_document read)
    have served : (store path).serve (.delete [⟨1⟩]) torn =
        (.deleted (delete path [⟨1⟩] torn).1, (delete path [⟨1⟩] torn).2) := rfl
    have treated := content_left_by_request has_torn left served
    obtain ⟨e, failed⟩ := treated.refused _ rfl some torn_ne_document (by rintro ⟨⟩)
    refine ⟨e, failed, treated.kept ?_⟩
    rw [failed]
    trivial

end FileStore

end TableBooking
