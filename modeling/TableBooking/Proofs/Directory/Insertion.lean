import TableBooking.Directory
import TableBooking.Proofs.Entries

/-!
Tables inserted into a directory, call after call. Of the tables inserted for a venue under one
number the last one counts, and it stands where it was inserted last. No call for another venue has
a say in that.
-/
namespace TableBooking.TableMap

abbrev Insertion := VenueId × List Table

def insertAll (map : TableMap) (insertions : List Insertion) : TableMap :=
  insertions.foldl (fun map (venue, tables) => map.insert venue tables) map

def inserted (venue : VenueId) (insertions : List Insertion) : List Table :=
  (insertions.filter (·.1 = venue)).flatMap (·.2)

theorem tables_setTables (map : TableMap) (venue : VenueId) (tables : List Table)
    (other : VenueId) :
    (map.setTables venue tables).tables other =
      if other = venue then tables else map.tables other := by
  by_cases same : other = venue
  · simp [TableMap.tables, setTables, same]
  · rw [if_neg same, TableMap.tables, setTables, List.lookup_cons, beq_false_of_ne same]
    exact congrArg (Option.getD · []) (lookup_filter_ne same _)

/-- A venue has the tables that were inserted for it one after another, whatever was inserted for
others in between. -/
theorem tables_insertAll (map : TableMap) (insertions : List Insertion) (venue : VenueId) :
    (map.insertAll insertions).tables venue =
      (inserted venue insertions).foldl addTable (map.tables venue) := by
  induction insertions generalizing map with
  | nil => rfl
  | cons insertion insertions ih =>
    have next := tables_setTables map insertion.1
      (insertion.2.foldl addTable (map.tables insertion.1)) venue
    have step : (map.insertAll (insertion :: insertions)).tables venue =
        (inserted venue insertions).foldl addTable
          ((map.insert insertion.1 insertion.2).tables venue) :=
      ih _
    rw [step, insert, next, inserted, inserted, List.filter_cons]
    by_cases here : insertion.1 = venue
    · subst here
      simp
    · simp [here, Ne.symm here]

/-- The last table of its number that was inserted is in front of `b`, which is the last one of its
own. -/
def LastBefore (inserted : List Table) (a b : Table) : Prop :=
  ∃ front behind, inserted = front ++ b :: behind ∧ a ∈ front ∧
    (∀ other ∈ b :: behind, other.id ≠ a.id) ∧ ∀ other ∈ behind, other.id ≠ b.id

theorem LastBefore.append {inserted : List Table} {a b table : Table} (h : LastBefore inserted a b)
    (notFirst : table.id ≠ a.id) (notSecond : table.id ≠ b.id) :
    LastBefore (inserted ++ [table]) a b := by
  obtain ⟨front, behind, rfl, first, lastFirst, lastSecond⟩ := h
  refine ⟨front, behind ++ [table], by simp, first, ?_, ?_⟩
  · intro other there
    rw [← List.cons_append, List.mem_append, List.mem_singleton] at there
    rcases there with there | rfl
    · exact lastFirst other there
    · exact notFirst
  · intro other there
    rw [List.mem_append, List.mem_singleton] at there
    rcases there with there | rfl
    · exact lastSecond other there
    · exact notSecond

structure Records (inserted kept : List Table) : Prop where
  unique : (kept.map (·.id)).Nodup
  latest : ∀ id, kept.find? (·.id = id) = inserted.reverse.find? (·.id = id)
  inOrder : kept.Pairwise (LastBefore inserted)
  known : ∀ table ∈ kept, table ∈ inserted

theorem records_nil : Records [] [] := by
  constructor <;> simp

theorem mem_addTable {kept : List Table} {table other : Table} :
    other ∈ addTable kept table ↔ other ∈ kept ∧ other.id ≠ table.id ∨ other = table := by
  simp [addTable]

theorem find?_addTable (kept : List Table) (table : Table) (id : TableId) :
    (addTable kept table).find? (·.id = id) =
      if table.id = id then some table else kept.find? (·.id = id) := by
  rw [addTable, List.find?_append]
  by_cases same : table.id = id
  · have gone : (kept.filter (·.id ≠ table.id)).find? (·.id = id) = none := by
      simp [List.find?_eq_none, same]
    rw [gone]
    simp [same]
  · have stays : (kept.filter (·.id ≠ table.id)).find? (·.id = id) =
        kept.find? (·.id = id) := by
      rw [List.find?_filter]
      congr 1
      funext other
      by_cases here : other.id = id
      · simp [here, Ne.symm same]
      · simp [here]
    rw [stays]
    simp [same]

variable {before kept : List Table}

theorem Records.addTable (h : Records before kept) (table : Table) :
    Records (before ++ [table]) (addTable kept table) := by
  constructor
  · rw [TableMap.addTable, List.map_append, List.map_singleton]
    refine List.Nodup.append ?_ (List.nodup_singleton _) ?_
    · exact h.unique.sublist (List.filter_sublist.map _)
    · simp [List.disjoint_singleton]
  · intro id
    rw [find?_addTable, h.latest, List.reverse_append, List.reverse_singleton,
      List.singleton_append, List.find?_cons]
    by_cases same : table.id = id
    · simp [same]
    · simp [same]
  · refine List.pairwise_append.2 ⟨?_, List.pairwise_singleton _ _, ?_⟩
    · refine (h.inOrder.filter _).imp_of_mem ?_
      intro a b ha hb ordered
      have notFirst : a.id ≠ table.id := by simpa using (List.mem_filter.1 ha).2
      have notSecond : b.id ≠ table.id := by simpa using (List.mem_filter.1 hb).2
      exact ordered.append notFirst.symm notSecond.symm
    · intro a ha b hb
      obtain ⟨stays, different⟩ := List.mem_filter.1 ha
      have different : a.id ≠ table.id := by simpa using different
      rw [List.mem_singleton.1 hb]
      refine ⟨before, [], rfl, h.known a stays, ?_, by simp⟩
      intro other there
      rw [List.mem_singleton.1 there]
      exact different.symm
  · intro a ha
    rcases mem_addTable.1 ha with ⟨stays, _⟩ | rfl
    · exact List.mem_append_left _ (h.known a stays)
    · exact List.mem_append_right _ (List.mem_singleton_self a)

theorem Records.addTables (h : Records before kept) (tables : List Table) :
    Records (before ++ tables) (tables.foldl TableMap.addTable kept) := by
  induction tables generalizing before kept with
  | nil => simpa using h
  | cons table tables ih => simpa using ih (h.addTable table)

theorem records_insertAll (insertions : List Insertion) (venue : VenueId) :
    Records (inserted venue insertions) ((insertAll {} insertions).tables venue) := by
  rw [tables_insertAll]
  exact records_nil.addTables _

theorem Records.mem_iff {tables : List Table} (h : Records tables kept) {table : Table} :
    table ∈ kept ↔ kept.find? (·.id = table.id) = some table := by
  constructor
  · intro there
    exact find?_eq_some_of_nodup h.unique there
  · intro found
    exact List.mem_of_find?_eq_some found

/-- After any insertions a venue has one table of each number that was inserted for it, the last one,
and that is the one found by number. Listed are the tables that seat the party, each once and in the
order of their last insertions. What was inserted for other venues changes nothing. -/
theorem last_insertion_counts (insertions : List Insertion) (venue : VenueId) :
    let map := insertAll {} insertions
    let alone := insertAll {} (insertions.filter (·.1 = venue))
    ((map.tables venue).map (·.id)).Nodup ∧
    (∀ id, map.directory.get venue id =
      .ok ((inserted venue insertions).reverse.find? (·.id = id))) ∧
    (∀ leastCapacity, ∃ listed, map.directory.list venue leastCapacity = .ok listed ∧
      (∀ table, table ∈ listed ↔ map.directory.get venue table.id = .ok (some table) ∧
        leastCapacity.toNat ≤ table.capacity.toNat) ∧
      listed.Nodup ∧ listed.Pairwise (LastBefore (inserted venue insertions))) ∧
    (∀ id, map.directory.get venue id = alone.directory.get venue id) ∧
    ∀ leastCapacity, map.directory.list venue leastCapacity =
      alone.directory.list venue leastCapacity := by
  intro map alone
  have records : Records (inserted venue insertions) (map.tables venue) :=
    records_insertAll insertions venue
  have same : map.tables venue = alone.tables venue := by
    rw [tables_insertAll, tables_insertAll]
    simp [inserted]
  refine ⟨records.unique, ?_, ?_, ?_, ?_⟩
  · intro id
    exact congrArg Except.ok (records.latest id)
  · intro leastCapacity
    refine ⟨_, rfl, ?_, ?_, records.inOrder.filter _⟩
    · intro table
      rw [list, List.mem_filter, table.seats_iff, records.mem_iff]
      simp [directory, get?]
    · exact (List.Nodup.of_map _ records.unique).filter _
  · intro id
    simp only [directory, get?, same]
  · intro leastCapacity
    simp only [directory, list, same]

end TableBooking.TableMap
