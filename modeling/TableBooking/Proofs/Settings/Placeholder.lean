import TableBooking.Proofs.Text.Spans
import TableBooking.Settings.Placeholder

/-!
Filling a text placeholder by placeholder. No placeholder goes on behind a dollar sign, so what
stands around one has no say in how it is filled, and a value that is put in is not looked into.
-/
namespace TableBooking.Placeholder

def IsInitial (c : Char) : Prop :=
  'A' ≤ c ∧ c ≤ 'Z' ∨ 'a' ≤ c ∧ c ≤ 'z' ∨ c = '_'

def IsName : List Char → Prop
  | [] => False
  | first :: rest => IsInitial first ∧ ∀ c ∈ rest, IsInitial c ∨ '0' ≤ c ∧ c ≤ '9'

theorem isNameStart_iff (c : Char) : isNameStart c = true ↔ IsInitial c := by
  change (decide (c.val ≥ 'A'.val ∧ c.val ≤ 'Z'.val) ||
    (decide (c.val ≥ 'a'.val) && decide (c.val ≤ 'z'.val)) || decide (c = '_')) = true ↔ _
  simp only [Bool.or_eq_true, Bool.and_eq_true, decide_eq_true_eq]
  exact or_assoc

theorem isNameChar_iff (c : Char) : isNameChar c = true ↔ IsInitial c ∨ '0' ≤ c ∧ c ≤ '9' := by
  rw [← isNameStart_iff]
  change (c.isAlpha || (decide (c.val ≥ '0'.val) && decide (c.val ≤ '9'.val)) ||
    decide (c = '_')) = true ↔ (c.isAlpha || decide (c = '_')) = true ∨ _
  simp only [Bool.or_eq_true, Bool.and_eq_true, decide_eq_true_eq]
  exact or_right_comm

theorem isName_iff (name : List Char) :
    IsName name ↔ (name.head?.map isNameStart).getD false = true ∧
      ∀ c ∈ name, isNameChar c = true := by
  cases name with
  | nil => simp [IsName]
  | cons first rest =>
    simp only [IsName, List.head?_cons, Option.map_some, Option.getD_some, List.forall_mem_cons,
      isNameStart_iff, isNameChar_iff]
    constructor
    · rintro ⟨initial, others⟩
      exact ⟨initial, Or.inl initial, others⟩
    · rintro ⟨initial, _, others⟩
      exact ⟨initial, others⟩

instance : DecidablePred IsName := fun name =>
  decidable_of_iff ((name.head?.map isNameStart).getD false = true ∧ name.all isNameChar = true)
    (by rw [isName_iff, List.all_eq_true])

variable {s name rest : List Char}

theorem name?_eq_some_iff :
    name? s = some (name, rest) ↔ IsName name ∧ s = name ++ '}' :: rest := by
  simp only [name?, Text.drop_takeWhile, isName_iff]
  constructor
  · intro found
    split at found
    · rename_i behind closed
      split at found
      · rename_i initial
        cases found
        refine ⟨⟨initial, fun c hc => List.mem_takeWhile_imp hc⟩, ?_⟩
        rw [← closed, List.takeWhile_append_dropWhile]
      · cases found
    · cases found
  · rintro ⟨⟨initial, named⟩, rfl⟩
    have stops : isNameChar '}' = false := by decide
    rw [Text.takeWhile_stopped stops, Text.dropWhile_stopped stops,
      List.takeWhile_eq_self_iff.2 named, List.dropWhile_eq_nil_iff.2 named]
    simp [initial]

/-- A placeholder is found where one is written, and nowhere else. -/
theorem placeholder?_eq_some_iff :
    placeholder? s = some (name, rest) ↔ IsName name ∧ s = written name ++ rest := by
  unfold placeholder?
  split
  · rename_i behind
    rw [name?_eq_some_iff]
    simp [written]
  · rename_i other
    simp only [reduceCtorEq, false_iff, not_and]
    rintro - rfl
    exact other _ rfl

/-- The names in the placeholders of a text are those that are written in it as placeholders. -/
theorem mem_names_iff (n : String) :
    n ∈ names s ↔ IsName n.toList ∧ written n.toList <:+: s := by
  induction s with
  | nil => simp [names, written]
  | cons c s ih =>
    rw [names, List.mem_append, ih, List.infix_cons_iff, and_or_left]
    refine or_congr_left ?_
    simp only [Option.mem_toList, Option.map_eq_some_iff, Prod.exists, placeholder?_eq_some_iff]
    constructor
    · rintro ⟨name, rest, ⟨named, text⟩, rfl⟩
      rw [String.toList_ofList]
      exact ⟨named, rest, text.symm⟩
    · rintro ⟨named, rest, text⟩
      exact ⟨n.toList, rest, ⟨named, text.symm⟩, String.ofList_toList⟩

theorem dollar_not_mem (h : IsName name) : '$' ∉ name := by
  intro inside
  have named := ((isName_iff name).1 h).2 '$' inside
  revert named
  decide

/-- The only dollar sign of a placeholder is its first character. -/
theorem written_dollar (h : IsName name) {t : List Char} (same : written name = s ++ '$' :: t) :
    s = [] := by
  cases s with
  | nil => rfl
  | cons c s =>
    have behind : '{' :: (name ++ ['}']) = s ++ '$' :: t := (List.cons.inj same).2
    have inside : '$' ∈ '{' :: (name ++ ['}']) := by
      rw [behind]
      exact List.mem_append_right s List.mem_cons_self
    have inName : '$' ∈ name := by simpa using inside
    exact absurd inName (dollar_not_mem h)

/-- A placeholder that begins in front of a dollar sign ends in front of it. -/
theorem placeholder?_dollar (nonempty : s ≠ []) (t : List Char) :
    placeholder? (s ++ '$' :: t) =
      (placeholder? s).map fun (name, rest) => (name, rest ++ '$' :: t) := by
  cases found : placeholder? (s ++ '$' :: t) with
  | none =>
    cases alone : placeholder? s with
    | none => rfl
    | some parts =>
      obtain ⟨name, rest⟩ := parts
      obtain ⟨named, rfl⟩ := placeholder?_eq_some_iff.1 alone
      have whole : placeholder? (written name ++ rest ++ '$' :: t) =
          some (name, rest ++ '$' :: t) :=
        placeholder?_eq_some_iff.2 ⟨named, List.append_assoc _ _ _⟩
      rw [found] at whole
      cases whole
  | some parts =>
    obtain ⟨name, behind⟩ := parts
    obtain ⟨named, same⟩ := placeholder?_eq_some_iff.1 found
    have ended : ∃ rest, s = written name ++ rest ∧ behind = rest ++ '$' :: t := by
      rcases List.append_eq_append_iff.1 same with ⟨cut, inside, goesOn⟩ | there
      · cases cut with
        | nil =>
          rw [List.append_nil] at inside
          exact ⟨[], inside.symm.trans (List.append_nil _).symm, goesOn.symm⟩
        | cons d cut =>
          cases goesOn
          exact absurd (written_dollar named inside) nonempty
      · exact there
    obtain ⟨rest, rfl, rfl⟩ := ended
    rw [placeholder?_eq_some_iff.2 ⟨named, rfl⟩]
    rfl

/-- Filling can be interrupted in front of any dollar sign. -/
theorem fill_append_dollar (environment : Variables) (s t : List Char) :
    fill environment (s ++ '$' :: t) = fill environment s ++ fill environment ('$' :: t) := by
  induction length : s.length using Nat.strongRecOn generalizing s with
  | ind n ih =>
    subst length
    cases s with
    | nil => rw [fill_nil, List.nil_append, List.nil_append]
    | cons c s =>
      have cut := placeholder?_dollar (List.cons_ne_nil c s) t
      rw [List.cons_append] at cut ⊢
      cases found : placeholder? (c :: s) with
      | none =>
        rw [found] at cut
        rw [fill_cons_of_no_placeholder environment found,
          fill_cons_of_no_placeholder environment cut, ih s.length (Nat.lt_succ_self _) s rfl]
        rfl
      | some parts =>
        obtain ⟨name, rest⟩ := parts
        rw [found] at cut
        rw [fill_of_placeholder? environment found, fill_of_placeholder? environment cut,
          ih rest.length (placeholder?_shorter found) rest rfl, List.append_assoc]

theorem fill_written (environment : Variables) (h : IsName name) (rest : List Char) :
    fill environment (written name ++ rest) =
      replacement environment name ++ fill environment rest :=
  fill_of_placeholder? environment (placeholder?_eq_some_iff.2 ⟨h, rfl⟩)

theorem fill_of_no_written (environment : Variables)
    (none : ∀ name, IsName name → ¬ written name <:+: s) : fill environment s = s := by
  induction s with
  | nil => exact fill_nil environment
  | cons c s ih =>
    have alone : placeholder? (c :: s) = .none := by
      rw [Option.eq_none_iff_forall_ne_some]
      rintro ⟨name, rest⟩ found
      obtain ⟨named, same⟩ := placeholder?_eq_some_iff.1 found
      exact none name named ⟨[], rest, same.symm⟩
    rw [fill_cons_of_no_placeholder environment alone, ih]
    intro name named inside
    exact none name named (inside.trans (List.suffix_cons c s).isInfix)

/-- A placeholder is replaced by the value of its variable, or by itself where that is not set,
whatever is written in front of it and behind it; the value is taken as it is. A text in which no
placeholder is written stays. -/
theorem fill_piecewise (environment : Variables) :
    (∀ front name behind, IsName name →
      (∀ value, environment (String.ofList name) = some value →
        fill environment (front ++ written name ++ behind) =
          fill environment front ++ value.toList ++ fill environment behind) ∧
      (environment (String.ofList name) = none →
        fill environment (front ++ written name ++ behind) =
          fill environment front ++ written name ++ fill environment behind)) ∧
    ∀ s, (∀ name, IsName name → ¬ written name <:+: s) → fill environment s = s := by
  constructor
  · intro front name behind named
    have filled : fill environment (front ++ written name ++ behind) =
        fill environment front ++ replacement environment name ++ fill environment behind := by
      have cut := fill_append_dollar environment front ('{' :: name ++ ['}'] ++ behind)
      rw [List.append_assoc, List.append_assoc, ← fill_written environment named]
      exact cut
    constructor
    · intro value known
      rw [filled, replacement, known]
    · intro unknown
      rw [filled, replacement, unknown]
  · intro s none
    exact fill_of_no_written environment none

/-- The value of a variable is the placeholder of another one, which is set as well and not looked
up; neither an opening brace in front nor a placeholder that is not closed is mistaken for one. -/
theorem nested_braces_filled :
    let environment : Variables := fun name =>
      if name = "A" then some (String.ofList (written ['B']))
      else if name = "B" then some "b" else none
    IsName ['A'] ∧ environment (String.ofList ['A']) = some (String.ofList (written ['B'])) ∧
      fill environment (['$', '{'] ++ written ['A'] ++ ['}']) =
        ['$', '{'] ++ written ['B'] ++ ['}'] ∧
      (∀ name, IsName name → ¬ written name <:+: ['$', '{', 'A']) ∧
      fill environment ['$', '{', 'A'] = ['$', '{', 'A'] := by
  intro environment
  have unclosed : ∀ s : List Char, '}' ∉ s → ∀ name, IsName name → ¬ written name <:+: s := by
    intro s none name _ inside
    exact none (inside.subset (List.mem_append_right _ (List.mem_singleton_self _)))
  have undollared : ∀ s : List Char, '$' ∉ s → ∀ name, IsName name → ¬ written name <:+: s := by
    intro s none name _ inside
    exact none (inside.subset List.mem_cons_self)
  have named : IsName ['A'] := by decide
  have known : environment (String.ofList ['A']) = some (String.ofList (written ['B'])) :=
    if_pos rfl
  obtain ⟨replaced, kept⟩ := fill_piecewise environment
  have filled := (replaced ['$', '{'] ['A'] ['}'] named).1 _ known
  rw [kept _ (unclosed ['$', '{'] (by decide)), kept _ (undollared ['}'] (by decide)),
    String.toList_ofList] at filled
  exact ⟨named, known, filled, unclosed _ (by decide), kept _ (unclosed _ (by decide))⟩

end TableBooking.Placeholder
