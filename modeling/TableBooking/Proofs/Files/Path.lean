import TableBooking.Files.Path
import TableBooking.Proofs.Text.Pieces

/-!
The path of a lock file. It leads through the directories that the path of the document leads
through.
-/
namespace TableBooking.Path

theorem isAbsolute_lockFile (path : Path) : path.lockFile.isAbsolute = path.isAbsolute := by
  unfold isAbsolute lockFile
  rw [String.toList_append]
  cases path.text.toList <;> rfl

/-- The last piece of the path is the one that becomes longer. -/
theorem pieces_lockFile (path : Path) :
    ∃ front last, Text.pieces '/' path.text.toList = front ++ [last] ∧
      Text.pieces '/' path.lockFile.text.toList = front ++ [last ++ ".lock".toList] := by
  obtain ⟨front, last, split, appended⟩ := Text.pieces_append '/' path.text.toList
  refine ⟨front, last, split, ?_⟩
  rw [lockFile, String.toList_append]
  exact appended _ (by decide)

/-- The names on the way, and what stands behind the last slash. -/
theorem steps_eq {path : Path} {front : List (List Char)} {last : List Char}
    (split : Text.pieces '/' path.text.toList = front ++ [last]) :
    path.steps = (front.filter (!·.isEmpty)).map String.ofList ++
      if last = [] then
        if (front.filter (!·.isEmpty)).map String.ofList = [] then [] else ["."]
      else [String.ofList last] := by
  unfold steps
  simp only [split, List.getLast?_concat, List.filter_append, List.map_append]
  by_cases empty : last = []
  · subst empty
    by_cases none : (front.filter (!·.isEmpty)).map String.ofList = []
    · simp [none]
    · simp [none]
  · have named : ([last].filter (!·.isEmpty)).map String.ofList = [String.ofList last] := by
      simp [empty]
    have ended : some last ≠ some [] := by simpa using empty
    rw [named, if_neg (fun h => ended h.2), if_neg empty]

theorem dropLast_steps {path : Path} {front : List (List Char)} {last : List Char}
    (split : Text.pieces '/' path.text.toList = front ++ [last]) :
    path.steps.dropLast = (front.filter (!·.isEmpty)).map String.ofList := by
  rw [steps_eq split]
  split_ifs with empty none
  · rw [none]
    rfl
  · exact List.dropLast_concat
  · exact List.dropLast_concat

theorem dropLast_steps_lockFile (path : Path) :
    path.lockFile.steps.dropLast = path.steps.dropLast := by
  obtain ⟨front, last, split, locked⟩ := path.pieces_lockFile
  rw [dropLast_steps split, dropLast_steps locked]

end TableBooking.Path
