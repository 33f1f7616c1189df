import Mathlib.Tactic.Common
import TableBooking.Text.CodePoints

/-!
The pieces of a text between the occurrences of a separator.
-/
namespace TableBooking.Text

theorem pieces_of_not_mem {separator : Char} {t : List Char} (h : separator ∉ t) :
    pieces separator t = [t] := by
  induction t with
  | nil => rfl
  | cons c t ih =>
    rw [List.mem_cons, not_or] at h
    rw [pieces, if_neg (Ne.symm h.1), ih h.2]

/-- What is written behind a text without a separator goes to the last of its pieces. -/
theorem pieces_append (separator : Char) (s : List Char) :
    ∃ front last, pieces separator s = front ++ [last] ∧
      ∀ t, separator ∉ t → pieces separator (s ++ t) = front ++ [last ++ t] := by
  induction s with
  | nil =>
    refine ⟨[], [], rfl, ?_⟩
    intro t ht
    exact pieces_of_not_mem ht
  | cons c s ih =>
    obtain ⟨front, last, split, appended⟩ := ih
    by_cases here : c = separator
    · refine ⟨[] :: front, last, ?_, ?_⟩
      · rw [pieces, if_pos here, split]
        rfl
      · intro t ht
        rw [List.cons_append, pieces, if_pos here, appended t ht]
        rfl
    · cases front with
      | nil =>
        refine ⟨[], c :: last, ?_, ?_⟩
        · rw [pieces, if_neg here, split]
          rfl
        · intro t ht
          rw [List.cons_append, pieces, if_neg here, appended t ht]
          rfl
      | cons piece front =>
        refine ⟨(c :: piece) :: front, last, ?_, ?_⟩
        · rw [pieces, if_neg here, split]
          rfl
        · intro t ht
          rw [List.cons_append, pieces, if_neg here, appended t ht]
          rfl

theorem pieces_ne_nil (separator : Char) (s : List Char) : pieces separator s ≠ [] := by
  cases s with
  | nil => simp [pieces]
  | cons c s =>
    unfold pieces
    split
    · simp
    · split <;> simp

/-- A separator parts the pieces before it from those behind it. -/
theorem pieces_separated (separator : Char) (s t : List Char) :
    pieces separator (s ++ separator :: t) = pieces separator s ++ pieces separator t := by
  induction s with
  | nil => simp [pieces]
  | cons c s ih =>
    rw [List.cons_append, pieces, pieces, ih]
    by_cases here : c = separator
    · rw [if_pos here, if_pos here]
      rfl
    · rw [if_neg here, if_neg here]
      cases split : pieces separator s with
      | nil => exact absurd split (pieces_ne_nil separator s)
      | cons piece others => rfl

theorem mem_of_mem_pieces {separator c : Char} {s piece : List Char}
    (h : piece ∈ pieces separator s) (hc : c ∈ piece) : c ∈ s := by
  induction s generalizing piece with
  | nil =>
    rw [pieces, List.mem_singleton] at h
    subst h
    exact hc
  | cons d s ih =>
    unfold pieces at h
    split at h
    · rcases List.mem_cons.1 h with rfl | behind
      · cases hc
      · exact List.mem_cons_of_mem d (ih behind hc)
    · split at h
      · rename_i none
        exact absurd none (pieces_ne_nil separator s)
      · rename_i first others split
        rcases List.mem_cons.1 h with rfl | behind
        · rcases List.mem_cons.1 hc with rfl | inside
          · exact List.mem_cons_self
          · exact List.mem_cons_of_mem d (ih (split ▸ List.mem_cons_self) inside)
        · exact List.mem_cons_of_mem d (ih (split ▸ List.mem_cons_of_mem first behind) hc)

end TableBooking.Text
