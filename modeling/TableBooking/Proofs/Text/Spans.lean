import Mathlib.Data.List.TakeWhile

/-!
The span of characters at the head of a text, and what is behind it.
-/
namespace TableBooking.Text

variable {s : List Char} {p : Char → Bool} {c : Char}

/-- What stops at a character does not see what is behind it. -/
theorem takeWhile_stopped (stops : p c = false) (s t : List Char) :
    (s ++ c :: t).takeWhile p = s.takeWhile p := by
  induction s with
  | nil => simp [stops]
  | cons d s ih => simp [List.takeWhile_cons, ih]

theorem dropWhile_stopped (stops : p c = false) (s t : List Char) :
    (s ++ c :: t).dropWhile p = s.dropWhile p ++ c :: t := by
  induction s with
  | nil => simp [stops]
  | cons d s ih =>
    rw [List.cons_append, List.dropWhile_cons, List.dropWhile_cons, ih]
    split <;> rfl

theorem mem_dropWhile (h : c ∈ s) (stops : p c = false) : c ∈ s.dropWhile p := by
  rw [← List.takeWhile_append_dropWhile (p := p) (l := s)] at h
  rcases List.mem_append.1 h with taken | left
  · rw [List.mem_takeWhile_imp taken] at stops
    cases stops
  · exact left

theorem dropWhile_append_of_mem (h : c ∈ s) (stops : p c = false) (t : List Char) :
    (s ++ t).dropWhile p = s.dropWhile p ++ t := by
  rw [List.dropWhile_append, if_neg]
  intro none
  rw [List.isEmpty_iff] at none
  have := mem_dropWhile h stops
  rw [none] at this
  cases this

theorem drop_takeWhile (p : Char → Bool) (s : List Char) :
    s.drop (s.takeWhile p).length = s.dropWhile p := by
  induction s with
  | nil => rfl
  | cons c s ih =>
    rw [List.takeWhile_cons, List.dropWhile_cons]
    split
    · exact ih
    · rfl

end TableBooking.Text
