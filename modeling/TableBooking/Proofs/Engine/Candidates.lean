import TableBooking.Engine.Requests
import TableBooking.Proofs.Calendar.Order
import TableBooking.Proofs.Entries

/-!
The candidates for a party. Whatever order and whatever repetitions a directory lists its tables
in, the candidates rise in number, and each is the first listed table of its number that seats the
party.
-/
namespace TableBooking

theorem TableId.ext_number {s t : TableId} (h : s.number.toNat = t.number.toNat) : s = t := by
  cases s
  cases t
  exact congrArg TableId.mk (UInt32.toNat_inj.1 h)

def numberLe (a b : Table) : Bool :=
  a.id.number ≤ b.id.number

theorem numberLe_trans (a b c : Table) (hab : numberLe a b = true) (hbc : numberLe b c = true) :
    numberLe a c = true := by
  simp only [numberLe, decide_eq_true_eq, UInt32.le_iff_toNat_le] at *
  omega

theorem numberLe_total (a b : Table) : (numberLe a b || numberLe b a) = true := by
  simp only [numberLe, Bool.or_eq_true, decide_eq_true_eq, UInt32.le_iff_toNat_le]
  omega

/-- Sorting keeps the tables of one number in the order in which they were listed. -/
theorem filter_mergeSort (tables : List Table) (id : TableId) :
    (tables.mergeSort numberLe).filter (·.id = id) = tables.filter (·.id = id) := by
  have sorted : (tables.filter (·.id = id)).Pairwise fun a b => numberLe a b = true := by
    refine List.pairwise_of_forall_mem_list ?_
    intro a ha b hb
    simp only [List.mem_filter, decide_eq_true_eq] at ha hb
    simp [numberLe, ha.2, hb.2]
  have kept := (List.sublist_mergeSort numberLe_trans numberLe_total sorted
    List.filter_sublist).filter (·.id = id)
  rw [List.filter_filter] at kept
  simp only [Bool.and_self] at kept
  refine (kept.eq_of_length ?_).symm
  exact ((List.mergeSort_perm tables numberLe).filter _).length_eq.symm

/-- The first table of a number is not dropped. -/
theorem find?_dropRepeats (tables : List Table) (id : TableId) :
    (dropRepeats tables).find? (·.id = id) = tables.find? (·.id = id) := by
  fun_induction dropRepeats tables with
  | case1 => rfl
  | case2 t => rfl
  | case3 t u rest same ih =>
    rw [ih, List.find?_cons, List.find?_cons, List.find?_cons, same]
    cases decide (u.id = id) <;> rfl
  | case4 t u rest different ih => simp only [List.find?_cons (a := t), ih]

theorem dropRepeats_sublist (tables : List Table) : (dropRepeats tables).Sublist tables := by
  fun_induction dropRepeats tables with
  | case1 => exact List.Sublist.refl _
  | case2 t => exact List.Sublist.refl _
  | case3 t u rest same ih => exact ih.trans ((List.sublist_cons_self u rest).cons_cons t)
  | case4 t u rest different ih => exact ih.cons_cons t

/-- In a sorted list repetitions are neighbours, so none is left. -/
theorem dropRepeats_ascending {tables : List Table}
    (h : tables.Pairwise fun a b => numberLe a b = true) :
    (dropRepeats tables).Pairwise fun a b => a.id.number < b.id.number := by
  fun_induction dropRepeats tables with
  | case1 => exact List.Pairwise.nil
  | case2 t => exact List.pairwise_singleton _ _
  | case3 t u rest same ih =>
    obtain ⟨hall, hrest⟩ := List.pairwise_cons.1 h
    refine ih (List.pairwise_cons.2 ⟨?_, (List.pairwise_cons.1 hrest).2⟩)
    exact fun x hx => hall x (List.mem_cons_of_mem _ hx)
  | case4 t u rest different ih =>
    obtain ⟨hall, hrest⟩ := List.pairwise_cons.1 h
    refine List.pairwise_cons.2 ⟨?_, ih hrest⟩
    intro x hx
    have below : t.id.number < u.id.number := by
      have hle := hall u List.mem_cons_self
      have hne : t.id.number.toNat ≠ u.id.number.toNat := fun e => different (TableId.ext_number e)
      simp only [numberLe, decide_eq_true_eq, UInt32.le_iff_toNat_le] at hle
      rw [UInt32.lt_iff_toNat_lt]
      omega
    have upTo : numberLe u x = true := by
      rcases List.mem_cons.1 ((dropRepeats_sublist _).subset hx) with rfl | hx
      · simp [numberLe]
      · exact (List.pairwise_cons.1 hrest).1 x hx
    simp only [numberLe, decide_eq_true_eq, UInt32.le_iff_toNat_le, UInt32.lt_iff_toNat_lt] at *
    omega

theorem candidates_ascending (tables : List Table) (partySize : UInt32) :
    (candidates tables partySize).Pairwise fun a b => a.id.number < b.id.number :=
  dropRepeats_ascending (List.pairwise_mergeSort numberLe_trans numberLe_total _)

/-- Of a number, the candidate is the first listed table that seats the party. -/
theorem find?_candidates (tables : List Table) (partySize : UInt32) (id : TableId) :
    (candidates tables partySize).find? (·.id = id) =
      (tables.filter (·.seats partySize)).find? (·.id = id) := by
  unfold candidates
  rw [find?_dropRepeats, ← List.head?_filter, ← List.head?_filter]
  exact congrArg List.head? (filter_mergeSort _ id)

theorem ids_nodup_of_ascending {tables : List Table}
    (h : tables.Pairwise fun a b => a.id.number < b.id.number) : (tables.map (·.id)).Nodup := by
  refine List.pairwise_map.2 (h.imp ?_)
  intro a b below same
  exact UInt32.lt_irrefl _ (same ▸ below)

/-- In ascending order the first table found is the one of the least number. -/
theorem number_le_of_find? {tables : List Table} {P : Table → Bool} {table other : Table}
    (h : tables.Pairwise fun a b => a.id.number < b.id.number)
    (found : tables.find? P = some table) (hmem : other ∈ tables) (hother : P other = true) :
    table.id.number ≤ other.id.number := by
  obtain ⟨_, front, rest, rfl, passed⟩ := List.find?_eq_some_iff_append.1 found
  rcases List.mem_append.1 hmem with hfront | hrest
  · have := passed other hfront
    simp [hother] at this
  · rcases List.mem_cons.1 hrest with rfl | hrest
    · exact UInt32.le_refl _
    · exact UInt32.le_of_lt ((List.pairwise_cons.1 (List.pairwise_append.1 h).2.1).1 other hrest)

theorem mem_candidates_iff {tables : List Table} {partySize : UInt32} {table : Table} :
    table ∈ candidates tables partySize ↔
      (tables.filter (·.seats partySize)).find? (·.id = table.id) = some table := by
  rw [← find?_candidates]
  constructor
  · exact find?_eq_some_of_nodup (ids_nodup_of_ascending (candidates_ascending tables partySize))
  · exact List.mem_of_find?_eq_some

/-- A number is a candidate's exactly when some listed table of it seats the party. -/
theorem exists_candidate_iff {tables : List Table} {partySize : UInt32} {id : TableId} :
    (∃ table ∈ candidates tables partySize, table.id = id) ↔
      ∃ table ∈ tables, table.id = id ∧ table.seats partySize = true := by
  have found : (∃ table ∈ candidates tables partySize, table.id = id) ↔
      ((candidates tables partySize).find? (·.id = id)).isSome := by
    simp [List.find?_isSome]
  rw [found, find?_candidates, List.find?_isSome]
  simp only [List.mem_filter, decide_eq_true_eq]
  exact exists_congr fun table => by tauto

def firstOfEach (t : Table) : List Table → List Table
  | [] => [t]
  | u :: rest => if t.id = u.id then firstOfEach t rest else t :: firstOfEach u rest

theorem dropRepeats_cons (t : Table) (rest : List Table) :
    dropRepeats (t :: rest) = firstOfEach t rest := by
  induction rest generalizing t with
  | nil => rw [dropRepeats, firstOfEach]
  | cons u rest ih => rw [dropRepeats, firstOfEach, ih, ih]

/-- Repetitions are dropped by going through the list once, in a form that can be evaluated. -/
theorem dropRepeats_eq : dropRepeats = fun tables => match tables with
    | [] => []
    | t :: rest => firstOfEach t rest := by
  funext tables
  cases tables with
  | nil => rw [dropRepeats]
  | cons t rest => exact dropRepeats_cons t rest

end TableBooking
