import TableBooking.Proofs.Store.File

/-!
The lock file of a document lies in the document's directory under another name, however the path is
written.
-/
namespace TableBooking

namespace Location

theorem getLastD_visited (l : Location) (names : List String) :
    (l.visited names).getLastD l = names.foldl step l := by
  induction names generalizing l with
  | nil => rfl
  | cons name names ih =>
    rw [visited, List.getLastD_cons, ih]
    rfl

/-- A step that adds a name adds its own, unless it leads above the working directory. -/
theorem name_of_step {l : Location} {name other : String}
    (h : (l.step other).names = l.names ++ [name]) : name = other ∨ name = ".." := by
  have longer : l.names.length < (l.step other).names.length := by
    rw [h, List.length_append]
    exact Nat.lt_add_one _
  unfold step at h longer
  by_cases here : other = "."
  · rw [if_pos here] at longer
    exact absurd longer (Nat.lt_irrefl _)
  · rw [if_neg here] at h longer
    by_cases above : other = ".."
    · rw [if_pos above] at h longer
      unfold parent at h longer
      by_cases inner : (!l.isOutermost) = true
      · rw [if_pos inner, List.length_dropLast] at longer
        omega
      · rw [if_neg inner] at h longer
        by_cases rooted : l.absolute
        · rw [if_pos rooted] at longer
          exact absurd longer (Nat.lt_irrefl _)
        · rw [if_neg rooted] at h
          exact Or.inr (List.singleton_inj.1 (List.append_cancel_left h)).symm
    · rw [if_neg above] at h
      exact Or.inl (List.singleton_inj.1 (List.append_cancel_left h)).symm

/-- A name of its own leads elsewhere than any other step. -/
theorem step_ne {l : Location} {name other : String} (here : name ≠ ".") (above : name ≠ "..")
    (h : other ≠ name) : l.step other ≠ l.step name := by
  intro same
  have named : (l.step name).names = l.names ++ [name] := by
    rw [step, if_neg here, if_neg above]
  rw [← same] at named
  rcases name_of_step named with equal | up
  · exact h equal.symm
  · exact above up

end Location

namespace Path

theorem place_eq_foldl (path : Path) :
    path.place = path.steps.foldl Location.step ⟨path.isAbsolute, []⟩ :=
  Location.getLastD_visited _ _

/-- The place that pieces of a text lead to, nothing between slashes being no step. -/
def reached (absolute : Bool) (front : List (List Char)) : Location :=
  ((front.filter (!·.isEmpty)).map String.ofList).foldl Location.step ⟨absolute, []⟩

theorem place_eq_step {path : Path} {front : List (List Char)} {last : List Char}
    (split : Text.pieces '/' path.text.toList = front ++ [last]) :
    path.place = (reached path.isAbsolute front).step
      (if last = [] then "." else String.ofList last) := by
  rw [place_eq_foldl, steps_eq split, List.foldl_append]
  unfold reached
  split_ifs with empty none
  · simp [Location.step]
  · rfl
  · rfl

theorem lockFile_place_ne (path : Path) : path.lockFile.place ≠ path.place := by
  obtain ⟨front, last, split, locked⟩ := path.pieces_lockFile
  have suffixed : last ++ ".lock".toList ≠ [] := by simp
  rw [place_eq_step split, place_eq_step locked, isAbsolute_lockFile, if_neg suffixed]
  have long : ∀ name : String, name.toList.length ≤ last.length + 2 →
      name ≠ String.ofList (last ++ ".lock".toList) := by
    rintro _ short rfl
    rw [String.toList_ofList, List.length_append] at short
    have : ".lock".toList.length = 5 := rfl
    omega
  refine (Location.step_ne ?_ ?_ ?_).symm
  · exact (long "." (by simp)).symm
  · exact (long ".." (by simp)).symm
  · apply long
    split
    · simp
    · rw [String.toList_ofList]
      exact Nat.le_add_right _ _

end Path

end TableBooking
