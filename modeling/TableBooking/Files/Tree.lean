import TableBooking.Failure
import TableBooking.Files.Path
import TableBooking.Json.Fault

/-!
Trees of files and directories, and the few operations on them that keeping a document needs. A
step of a path can be taken only from a directory that exists, so a missing directory and a file in
its place are told apart.
-/
namespace TableBooking

/-- A place in a tree, as the names that lead to it from the root or from the working directory.
Names `..` stand in front only, for the directories above the working directory. -/
structure Location where
  absolute : Bool
  names : List String
  deriving DecidableEq

namespace Location

def isOutermost (location : Location) : Bool :=
  location.names.all (· == "..")

/-- The directory above; the root is above itself. -/
def parent (location : Location) : Location :=
  if !location.isOutermost then { location with names := location.names.dropLast }
  else if location.absolute then location
  else { location with names := location.names ++ [".."] }

def step (location : Location) (name : String) : Location :=
  if name = "." then location
  else if name = ".." then location.parent
  else { location with names := location.names ++ [name] }

def text (location : Location) : String :=
  let names := String.intercalate "/" location.names
  if location.absolute then "/" ++ names else if location.names.isEmpty then "." else names

def visited (location : Location) : List String → List Location
  | [] => []
  | name :: names => location.step name :: (location.step name).visited names

end Location

def Path.places (path : Path) : List Location :=
  Location.visited ⟨path.isAbsolute, []⟩ path.steps

inductive Node where
  | directory
  | file (content : Json.Bytes)
  deriving DecidableEq

/-- Everything in a tree but the root, the working directory and those above it, which are always
there. -/
structure FileTree where
  entries : List (Location × Node) := []
  deriving DecidableEq

namespace FileTree

def node? (tree : FileTree) (location : Location) : Option Node :=
  if location.isOutermost then some .directory else tree.entries.lookup location

def put (tree : FileTree) (location : Location) (node : Node) : FileTree :=
  ⟨(location, node) :: tree.entries.filter (·.1 ≠ location)⟩

def erase (tree : FileTree) (location : Location) : FileTree :=
  ⟨tree.entries.filter (·.1 ≠ location)⟩

/-- Takes steps from a location on, each from a directory that exists. -/
def walk (tree : FileTree) (location : Location) : List String → Except FileError Location
  | [] => .ok location
  | name :: names =>
    match tree.node? location with
    | none => .error .notFound
    | some (.file _) => .error .notADirectory
    | some .directory => walk tree (location.step name) names

/-- Where a path leads, whether or not something is there. -/
def locate (tree : FileTree) (absolute : Bool) (steps : List String) : Except FileError Location :=
  walk tree ⟨absolute, []⟩ steps

def isDirectory (tree : FileTree) (absolute : Bool) (steps : List String) : Bool :=
  match locate tree absolute steps with
  | .ok location => tree.node? location = some .directory
  | .error _ => false

def makeDirectory (tree : FileTree) (absolute : Bool) (steps : List String) :
    Except FileError FileTree :=
  match locate tree absolute steps.dropLast with
  | .error e => .error e
  | .ok parent =>
    match tree.node? parent with
    | none => .error .notFound
    | some (.file _) => .error .notADirectory
    | some .directory =>
      match steps.getLast? with
      | none => .error .alreadyExists
      | some name =>
        let location := parent.step name
        if (tree.node? location).isSome then .error .alreadyExists
        else .ok (tree.put location .directory)

def makeDirectories (tree : FileTree) (absolute : Bool) (steps : List String) :
    Except FileError FileTree :=
  if _h : steps = [] then .ok tree
  else
    match makeDirectory tree absolute steps with
    | .ok made => .ok made
    | .error .notFound =>
      match makeDirectories tree absolute steps.dropLast with
      | .error e => .error e
      | .ok above =>
        match makeDirectory above absolute steps with
        | .ok made => .ok made
        | .error e => if isDirectory above absolute steps then .ok above else .error e
    | .error e => if isDirectory tree absolute steps then .ok tree else .error e
termination_by steps.length
decreasing_by
  have := List.length_pos_iff.2 _h
  simp only [List.length_dropLast]
  omega

def read (tree : FileTree) (path : Path) : Except FileError Json.Bytes :=
  match tree.locate path.isAbsolute path.steps with
  | .error e => .error e
  | .ok location =>
    match tree.node? location with
    | none => .error .notFound
    | some .directory => .error .isADirectory
    | some (.file content) => .ok content

/-- Gives a file a content; `content` is told the old one, if there is one. -/
def update (tree : FileTree) (path : Path) (content : Option Json.Bytes → Json.Bytes) :
    Except FileError FileTree :=
  match tree.locate path.isAbsolute path.steps with
  | .error e => .error e
  | .ok location =>
    match tree.node? location with
    | none => .ok (tree.put location (.file (content none)))
    | some .directory => .error .isADirectory
    | some (.file old) => .ok (tree.put location (.file (content (some old))))

def write (tree : FileTree) (path : Path) (content : Json.Bytes) : Except FileError FileTree :=
  tree.update path fun _ => content

def prepare (tree : FileTree) (path : Path) : Except FileError FileTree :=
  tree.makeDirectories path.isAbsolute path.directorySteps

def remove (tree : FileTree) (path : Path) : Except FileError FileTree :=
  match tree.locate path.isAbsolute path.steps with
  | .error e => .error e
  | .ok location =>
    match tree.node? location with
    | none => .error .notFound
    | some .directory => .error .isADirectory
    | some (.file _) => .ok (tree.erase location)

/-- All paths below the working directory in order; those of directories end in a slash. -/
def listing (tree : FileTree) : List String :=
  let below := tree.entries.filter fun (location, _) =>
    !location.absolute && location.names.head? ≠ some ".."
  let texts := below.map fun (location, node) =>
    match node with
    | .directory => location.text ++ "/"
    | .file _ => location.text
  texts.mergeSort fun a b => a ≤ b

end FileTree

end TableBooking
