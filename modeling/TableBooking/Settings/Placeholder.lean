/-!
Placeholders: names of variables in a text, each between a dollar sign with an opening brace and a
closing brace. The values are put in from left to right in one pass, so a value is never looked into
for further placeholders. Main statement: filling a text depends on no variable but those that the
text names.
-/
namespace TableBooking.Placeholder

abbrev Variables := String → Option String

def isNameStart (c : Char) : Bool :=
  c.isAlpha || c = '_'

def isNameChar (c : Char) : Bool :=
  c.isAlphanum || c = '_'

def name? (s : List Char) : Option (List Char × List Char) :=
  let name := s.takeWhile isNameChar
  match s.drop name.length with
  | '}' :: rest => if (name.head?.map isNameStart).getD false then some (name, rest) else none
  | _ => none

def placeholder? : List Char → Option (List Char × List Char)
  | '$' :: '{' :: rest => name? rest
  | _ => none

theorem placeholder?_shorter {s name rest : List Char} (h : placeholder? s = some (name, rest)) :
    rest.length < s.length := by
  unfold placeholder? at h
  split at h
  · unfold name? at h
    simp only at h
    split at h
    · rename_i tail after eq
      split at h
      · simp only [Option.some.injEq, Prod.mk.injEq] at h
        obtain ⟨_, rfl⟩ := h
        have := congrArg List.length eq
        simp only [List.length_drop, List.length_cons] at this ⊢
        omega
      · cases h
    · cases h
  · cases h

def written (name : List Char) : List Char :=
  '$' :: '{' :: name ++ ['}']

/-- What a placeholder is replaced by; it stays as it is if its variable is not set. -/
def replacement (environment : Variables) (name : List Char) : List Char :=
  match environment (String.ofList name) with
  | some value => value.toList
  | none => written name

def names : List Char → List String
  | [] => []
  | c :: rest =>
    ((placeholder? (c :: rest)).map fun (name, _) => String.ofList name).toList ++ names rest

def fill (environment : Variables) (s : List Char) : List Char :=
  match h : placeholder? s with
  | some (name, rest) =>
    have := placeholder?_shorter h
    replacement environment name ++ fill environment rest
  | none =>
    match s with
    | [] => []
    | c :: rest => c :: fill environment rest
termination_by s.length

theorem names_subset_of_suffix {s t : List Char} (h : t <:+ s) : names t ⊆ names s := by
  induction s with
  | nil => rw [List.suffix_nil.1 h]; exact fun _ hn => hn
  | cons c s ih =>
    rcases List.suffix_cons_iff.1 h with rfl | h
    · exact fun _ hn => hn
    · exact fun n hn => List.mem_append_right _ (ih h hn)

theorem placeholder?_suffix {s name rest : List Char} (h : placeholder? s = some (name, rest)) :
    rest <:+ s := by
  unfold placeholder? at h
  split at h
  · rename_i tail
    unfold name? at h
    simp only at h
    split at h
    · rename_i after eq
      split at h
      · simp only [Option.some.injEq, Prod.mk.injEq] at h
        obtain ⟨_, rfl⟩ := h
        have drop : after <:+ tail :=
          (List.suffix_cons _ _).trans (eq ▸ List.drop_suffix _ _)
        exact (drop.trans (List.suffix_cons _ _)).trans (List.suffix_cons _ _)
      · cases h
    · cases h
  · cases h

theorem fill_nil (v : Variables) : fill v [] = [] := by
  rw [fill.eq_def]
  rfl

theorem fill_of_placeholder? (v : Variables) {s name rest : List Char}
    (h : placeholder? s = some (name, rest)) : fill v s = replacement v name ++ fill v rest := by
  rw [fill.eq_def]
  split
  · rename_i h'
    rw [h] at h'
    cases h'
    rfl
  · rename_i h'
    rw [h] at h'
    cases h'

theorem fill_cons_of_no_placeholder (v : Variables) {c : Char} {s : List Char}
    (h : placeholder? (c :: s) = none) : fill v (c :: s) = c :: fill v s := by
  rw [fill.eq_def]
  split
  · rename_i h'
    rw [h] at h'
    cases h'
  · rfl

/-- Filling a text looks up no variable but those that its placeholders name. -/
theorem fill_congr {v w : Variables} (s : List Char) (h : ∀ n ∈ names s, v n = w n) :
    fill v s = fill w s := by
  match found : placeholder? s with
  | some (name, rest) =>
    have := placeholder?_shorter found
    rw [fill_of_placeholder? v found, fill_of_placeholder? w found,
      fill_congr rest fun n hn => h n (names_subset_of_suffix (placeholder?_suffix found) hn)]
    have same : v (String.ofList name) = w (String.ofList name) := by
      cases s with
      | nil => cases found
      | cons c s => exact h _ (by simp [names, found])
    simp only [replacement, same]
  | none =>
    match s with
    | [] => rw [fill_nil, fill_nil]
    | c :: s =>
      rw [fill_cons_of_no_placeholder v found, fill_cons_of_no_placeholder w found,
        fill_congr s fun n hn => h n (List.mem_append_right _ hn)]
termination_by s.length

end TableBooking.Placeholder
