import TableBooking.Files.Tree
import TableBooking.Store.Document

/-!
A bookings document kept in a file. Before a change the document's directory and its lock file are
made, and a new text takes the place of the old one as a whole.
-/
namespace TableBooking.FileStore

def load (path : Path) (tree : FileTree) : Except StoreError Document :=
  match tree.read path with
  | .ok content => Document.ofContent (some content)
  | .error .notFound => Document.ofContent none
  | .error e => .error (.file e)

/-- Takes the lock on the document, which is a file beside it. -/
def lock (path : Path) (tree : FileTree) : Except StoreError FileTree := do
  let tree ← (tree.prepare path).mapError StoreError.file
  (tree.update path.lockFile fun old => old.getD []).mapError StoreError.file

def save (path : Path) (document : Document) (tree : FileTree) : Except StoreError FileTree := do
  let tree ← (tree.prepare path).mapError StoreError.file
  (tree.write path document.text).mapError StoreError.file

/-- Saves a changed document and then answers; where saving fails the old tree stays. -/
def saved {α : Type} (path : Path) (answer : α) (document : Document) (tree : FileTree) :
    Except StoreError α × FileTree :=
  match save path document tree with
  | .error e => (.error e, tree)
  | .ok after => (.ok answer, after)

def insert (path : Path) (proposal : Proposal) (tree : FileTree) :
    Except StoreError Booking × FileTree :=
  match lock path tree with
  | .error e => (.error e, tree)
  | .ok locked =>
    match load path locked with
    | .error e => (.error e, locked)
    | .ok document =>
      match document.insert proposal with
      | .error e => (.error e, locked)
      | .ok (booking, changed) => saved path booking changed locked

def delete (path : Path) (ids : List BookingId) (tree : FileTree) :
    Except StoreError (List BookingId) × FileTree :=
  match lock path tree with
  | .error e => (.error e, tree)
  | .ok locked =>
    match load path locked with
    | .error e => (.error e, locked)
    | .ok document =>
      match document.present ids with
      | [] => (.ok [], locked)
      | present => saved path present (document.without present) locked

def store (path : Path) : Store FileTree where
  query filter tree := (load path tree).map (·.query filter)
  onDate venue date tree := (load path tree).map (·.onDate venue date)
  insert := insert path
  delete := delete path

end TableBooking.FileStore
