import Mathlib.Data.List.Nodup

/-!
Entries under keys, the first of a key being the one that counts.
-/
namespace TableBooking

/-- Taking away the entries of one key leaves those of the others. -/
theorem lookup_filter_ne {κ α : Type} [DecidableEq κ] {k l : κ} (h : k ≠ l)
    (entries : List (κ × α)) : (entries.filter (·.1 ≠ l)).lookup k = entries.lookup k := by
  induction entries with
  | nil => rfl
  | cons entry entries ih =>
    obtain ⟨key, value⟩ := entry
    by_cases same : key = l
    · subst same
      rw [List.filter_cons_of_neg (by simp), ih, List.lookup_cons, beq_false_of_ne h]
    · rw [List.filter_cons_of_pos (by simpa using same), List.lookup_cons, List.lookup_cons, ih]

/-- Where no key is there twice, each entry is found under its own. -/
theorem find?_eq_some_of_nodup {κ α : Type} [DecidableEq κ] {key : α → κ} {entries : List α}
    (unique : (entries.map key).Nodup) {entry : α} (h : entry ∈ entries) :
    entries.find? (fun other => key other = key entry) = some entry := by
  cases found : entries.find? (fun other => key other = key entry) with
  | none => simpa using List.find?_eq_none.1 found entry h
  | some other =>
    have same : key other = key entry := by simpa using List.find?_some found
    exact congrArg some (List.inj_on_of_nodup_map unique (List.mem_of_find?_eq_some found) h same)

end TableBooking
