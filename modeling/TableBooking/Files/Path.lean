import TableBooking.Text.CodePoints

/-!
Paths of files. A path is kept as it was written; its steps are what leads from the working
directory, or from the root, to the file.
-/
namespace TableBooking

structure Path where
  text : String
  deriving DecidableEq

instance : ToString Path := ⟨Path.text⟩

namespace Path

def isAbsolute (path : Path) : Bool :=
  path.text.toList.head? = some '/'

/-- The names between the slashes. A slash at the end asks for a directory, as the step `.` does. -/
def steps (path : Path) : List String :=
  let names := Text.pieces '/' path.text.toList
  let named := (names.filter (!·.isEmpty)).map String.ofList
  if named ≠ [] ∧ names.getLast? = some [] then named ++ ["."] else named

/-- The names that lead to the directory of the file. The step `.` is none, so a slash at the end
does not make the file its own directory. -/
def directorySteps (path : Path) : List String :=
  (path.steps.filter (· ≠ ".")).dropLast

def join (directory : Path) (name : String) : Path :=
  if directory.text.isEmpty then ⟨name⟩
  else if directory.text.toList.getLast? = some '/' then ⟨directory.text ++ name⟩
  else ⟨directory.text ++ "/" ++ name⟩

/-- The file beside a document whose lock keeps other writers out. -/
def lockFile (path : Path) : Path :=
  ⟨path.text ++ ".lock"⟩

end Path

end TableBooking
