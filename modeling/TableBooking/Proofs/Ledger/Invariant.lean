import TableBooking.Proofs.Calendar.Order
import TableBooking.Store.Ledger

/-!
What holds of the ledger whatever is inserted and deleted. The entries ascend, each booking is kept
under its own number and no two bookings clash; as long as numbers last, none is above the last one
given out.
-/
namespace TableBooking

theorem Booking.clashesWith_iff (b : Booking) (p : Proposal) :
    b.clashesWith p = true ↔ b.venue = p.venue ∧ b.table = p.table ∧ b.date = p.date ∧
      b.window.overlaps p.window = true := by
  simp [clashesWith, and_assoc]

theorem Booking.clashesWith_comm (a b : Booking) :
    a.clashesWith b.proposal = b.clashesWith a.proposal := by
  rw [Bool.eq_iff_iff, clashesWith_iff, clashesWith_iff]
  simp only [proposal, a.window.overlaps_comm b.window]
  constructor <;> rintro ⟨hv, ht, hd, hw⟩ <;> exact ⟨hv.symm, ht.symm, hd.symm, hw⟩

theorem BookingId.ext_number {i j : BookingId} (h : i.number.toNat = j.number.toNat) : i = j := by
  cases i
  cases j
  exact congrArg BookingId.mk (UInt64.toNat_inj.1 h)

namespace Ledger

def Clash (a b : Booking) : Prop :=
  a.clashesWith b.proposal = true

theorem Clash.symm {a b : Booking} (h : Clash a b) : Clash b a := by
  unfold Clash at *
  rwa [Booking.clashesWith_comm]

/-- The numbers that bookings are kept under rise from entry to entry. -/
def Ascending (entries : List (BookingId × Booking)) : Prop :=
  entries.Pairwise fun a b => a.1.number < b.1.number

theorem eq_or_mem_of_mem_put {id : BookingId} {b : Booking} {e : BookingId × Booking}
    {entries : List (BookingId × Booking)} (h : e ∈ put id b entries) :
    e = (id, b) ∨ e ∈ entries := by
  induction entries with
  | nil => exact Or.inl (List.mem_singleton.1 h)
  | cons head rest ih =>
    obtain ⟨key, value⟩ := head
    unfold put at h
    split at h
    · exact List.mem_cons.1 h
    · split at h
      · rcases List.mem_cons.1 h with h | h
        · exact Or.inl h
        · exact Or.inr (List.mem_cons_of_mem _ h)
      · rcases List.mem_cons.1 h with h | h
        · exact Or.inr (h ▸ List.mem_cons_self)
        · exact (ih h).imp_right (List.mem_cons_of_mem _)

theorem put_ascending {entries : List (BookingId × Booking)} (h : Ascending entries)
    (id : BookingId) (b : Booking) : Ascending (put id b entries) := by
  induction entries with
  | nil => exact List.pairwise_singleton _ _
  | cons head rest ih =>
    obtain ⟨key, value⟩ := head
    obtain ⟨above, hrest⟩ := List.pairwise_cons.1 h
    unfold put
    split
    · rename_i below
      refine List.pairwise_cons.2 ⟨?_, h⟩
      intro e he
      rcases List.mem_cons.1 he with rfl | he
      · exact below
      · exact UInt64.lt_trans below (above e he)
    · rename_i notBelow
      split
      · rename_i same
        exact List.pairwise_cons.2 ⟨fun e he => same ▸ above e he, hrest⟩
      · rename_i different
        refine List.pairwise_cons.2 ⟨?_, ih hrest⟩
        intro e he
        rcases eq_or_mem_of_mem_put he with rfl | he
        · rw [UInt64.lt_iff_toNat_lt] at notBelow ⊢
          have : id.number.toNat ≠ key.number.toNat := fun h => different (BookingId.ext_number h)
          simp only
          omega
        · exact above e he

/-- A number above all others goes to the end. -/
theorem put_eq_append {entries : List (BookingId × Booking)} {id : BookingId}
    (h : ∀ e ∈ entries, e.1.number < id.number) (b : Booking) :
    put id b entries = entries ++ [(id, b)] := by
  induction entries with
  | nil => rfl
  | cons head rest ih =>
    obtain ⟨key, value⟩ := head
    have below : key.number < id.number := h (key, value) List.mem_cons_self
    have notAbove : ¬ id.number < key.number := fun h => UInt64.lt_asymm below h
    have different : id ≠ key := fun h => UInt64.lt_irrefl _ (h ▸ below)
    rw [put, if_neg notAbove, if_neg different, ih fun e he => h e (List.mem_cons_of_mem _ he)]
    rfl

/-- What holds between any two entries and towards the new one holds afterwards, also where an
entry gave way to the new one. -/
theorem put_pairwise {R : BookingId × Booking → BookingId × Booking → Prop}
    (symm : ∀ {d e}, R d e → R e d) {entries : List (BookingId × Booking)} {id : BookingId}
    {b : Booking} (h : entries.Pairwise R) (hnew : ∀ e ∈ entries, R e (id, b)) :
    (put id b entries).Pairwise R := by
  induction entries with
  | nil => exact List.pairwise_singleton _ _
  | cons head rest ih =>
    obtain ⟨key, value⟩ := head
    obtain ⟨hhead, hrest⟩ := List.pairwise_cons.1 h
    have hnewRest : ∀ e ∈ rest, R e (id, b) := fun e he => hnew e (List.mem_cons_of_mem _ he)
    unfold put
    split
    · exact List.pairwise_cons.2 ⟨fun e he => symm (hnew e he), h⟩
    · split
      · exact List.pairwise_cons.2 ⟨fun e he => symm (hnewRest e he), hrest⟩
      · refine List.pairwise_cons.2 ⟨?_, ih hrest hnewRest⟩
        intro e he
        rcases eq_or_mem_of_mem_put he with rfl | he
        · exact hnew _ List.mem_cons_self
        · exact hhead e he

theorem mem_bookings {ledger : Ledger} {b : Booking} :
    b ∈ ledger.bookings ↔ ∃ id, (id, b) ∈ ledger.entries := by
  simp [bookings]

def nextId (ledger : Ledger) : BookingId :=
  ⟨ledger.lastId + 1⟩

def accept (ledger : Ledger) (p : Proposal) : Ledger :=
  { lastId := ledger.lastId + 1
    entries := put ledger.nextId (p.booked ledger.nextId) ledger.entries }

def Free (ledger : Ledger) (p : Proposal) : Prop :=
  ∀ b ∈ ledger.bookings, b.clashesWith p = false

instance (ledger : Ledger) (p : Proposal) : Decidable (ledger.Free p) :=
  inferInstanceAs (Decidable (∀ _ ∈ _, _))

theorem insert_of_free {ledger : Ledger} {p : Proposal} (h : ledger.Free p) :
    ledger.insert p = .ok (p.booked ledger.nextId, ledger.accept p) := by
  have none : ledger.bookings.find? (·.clashesWith p) = none := by
    simpa [List.find?_eq_none] using fun b hb => h b hb
  simp only [insert, none]
  rfl

theorem insert_of_not_free {ledger : Ledger} {p : Proposal} (h : ¬ ledger.Free p) :
    ∃ clash ∈ ledger.bookings, clash.clashesWith p = true ∧ ledger.insert p = .error clash.id := by
  cases found : ledger.bookings.find? (·.clashesWith p) with
  | none =>
    refine absurd (fun b hb => ?_) h
    simpa using List.find?_eq_none.1 found b hb
  | some clash =>
    refine ⟨clash, List.mem_of_find?_eq_some found, ?_, by simp only [insert, found]⟩
    simpa using List.find?_some found

/-- Deleting takes away the entries of the given numbers and no others. -/
theorem delete_snd (ledger : Ledger) (ids : List BookingId) :
    (ledger.delete ids).2 =
      { ledger with entries := ledger.entries.filter fun e => e.1 ∉ ids } := by
  induction ids generalizing ledger with
  | nil => simp [delete, List.filter_eq_self.2]
  | cons id ids ih =>
    unfold delete
    split
    · simp only [ih, List.filter_filter, List.mem_cons, not_or, Bool.decide_and, Bool.and_comm]
    · rename_i absent
      rw [ih]
      simp only [List.any_eq_true, decide_eq_true_eq, not_exists, not_and] at absent
      congr 1
      apply List.filter_congr
      intro e he
      simp [absent e he]

/-- The numbers given back are those asked for under which something was kept. -/
theorem mem_delete_fst {ledger : Ledger} {ids : List BookingId} {id : BookingId} :
    id ∈ (ledger.delete ids).1 ↔ id ∈ ids ∧ ∃ b, (id, b) ∈ ledger.entries := by
  induction ids generalizing ledger with
  | nil => simp [delete]
  | cons first ids ih =>
    unfold delete
    split
    · rename_i present
      simp only [List.any_eq_true, decide_eq_true_eq] at present
      obtain ⟨⟨key, b⟩, hb, same⟩ := present
      simp only at same
      subst same
      simp only [List.mem_cons, ih, List.mem_filter, decide_eq_true_eq]
      by_cases same : id = key
      · subst same
        simpa using ⟨b, hb⟩
      · simp [same]
    · rename_i absent
      simp only [List.any_eq_true, decide_eq_true_eq, not_exists, not_and] at absent
      rw [ih, List.mem_cons]
      refine and_congr_left ?_
      rintro ⟨b, hb⟩
      have : id ≠ first := absent (id, b) hb
      simp [this]

theorem nodup_delete_fst (ledger : Ledger) (ids : List BookingId) :
    (ledger.delete ids).1.Nodup := by
  induction ids generalizing ledger with
  | nil => simp [delete]
  | cons id ids ih =>
    unfold delete
    split
    · refine List.nodup_cons.2 ⟨?_, ih _⟩
      simp [mem_delete_fst]
    · exact ih ledger

structure Invariant (ledger : Ledger) : Prop where
  ascending : Ascending ledger.entries
  keyed : ∀ e ∈ ledger.entries, e.2.id = e.1
  exclusive : ledger.entries.Pairwise fun a b => ¬ Clash a.2 b.2

theorem empty_invariant : Invariant {} :=
  ⟨List.Pairwise.nil, by simp, List.Pairwise.nil⟩

theorem accept_invariant {ledger : Ledger} {p : Proposal} (h : Invariant ledger)
    (free : ledger.Free p) : Invariant (ledger.accept p) where
  ascending := put_ascending h.ascending _ _
  keyed := by
    intro e he
    rcases eq_or_mem_of_mem_put he with rfl | he
    · rfl
    · exact h.keyed e he
  exclusive := by
    refine put_pairwise (fun hne hs => hne hs.symm) h.exclusive ?_
    intro e he clash
    have apart := free e.2 (mem_bookings.2 ⟨e.1, he⟩)
    simp [Clash, apart] at clash

theorem delete_invariant {ledger : Ledger} (h : Invariant ledger) (ids : List BookingId) :
    Invariant (ledger.delete ids).2 := by
  rw [delete_snd]
  exact ⟨h.ascending.filter _, fun e he => h.keyed e (List.mem_filter.1 he).1,
    h.exclusive.filter _⟩

/-- The numbers of the bookings rise. -/
theorem ids_ascending {ledger : Ledger} (h : Invariant ledger) :
    ledger.bookings.Pairwise fun a b => a.id.number < b.id.number := by
  unfold bookings
  rw [List.pairwise_map]
  refine h.ascending.imp_of_mem fun {a b} ha hb below => ?_
  rwa [h.keyed a ha, h.keyed b hb]

theorem bookings_nodup {ledger : Ledger} (h : Invariant ledger) : ledger.bookings.Nodup := by
  refine (ids_ascending h).imp ?_
  rintro a b below rfl
  exact UInt64.lt_irrefl _ below

theorem mem_bookings_iff_entry {ledger : Ledger} (h : Invariant ledger) {b : Booking} :
    b ∈ ledger.bookings ↔ (b.id, b) ∈ ledger.entries := by
  rw [mem_bookings]
  constructor
  · rintro ⟨id, he⟩
    rwa [h.keyed _ he]
  · intro he
    exact ⟨b.id, he⟩

theorem mem_bookings_delete {ledger : Ledger} (h : Invariant ledger) {ids : List BookingId}
    {b : Booking} : b ∈ (ledger.delete ids).2.bookings ↔ b ∈ ledger.bookings ∧ b.id ∉ ids := by
  rw [mem_bookings_iff_entry (delete_invariant h ids), mem_bookings_iff_entry h, delete_snd]
  simp only [List.mem_filter, decide_eq_true_eq]

/-- The ledgers that insertions and deletions lead to from an empty one, while there is a number
left for the next booking. -/
inductive Reachable : Ledger → Prop where
  | empty : Reachable {}
  | insert {ledger} (p : Proposal) : Reachable ledger → ledger.lastId.toNat + 1 < UInt64.size →
      Reachable (store.insert p ledger).2
  | delete {ledger} (ids : List BookingId) : Reachable ledger →
      Reachable (store.delete ids ledger).2

/-- The invariant, and every number between 1 and the last one given out. -/
structure Numbered (ledger : Ledger) : Prop where
  invariant : Invariant ledger
  positive : ∀ e ∈ ledger.entries, 1 ≤ e.1.number.toNat
  bounded : ∀ e ∈ ledger.entries, e.1.number.toNat ≤ ledger.lastId.toNat

theorem empty_numbered : Numbered {} :=
  ⟨empty_invariant, by simp, by simp⟩

theorem toNat_nextId {ledger : Ledger} (h : ledger.lastId.toNat + 1 < UInt64.size) :
    ledger.nextId.number.toNat = ledger.lastId.toNat + 1 := by
  simp only [UInt64.size] at h
  simp only [nextId, UInt64.toNat_add, UInt64.toNat_one]
  omega

theorem Numbered.below_nextId {ledger : Ledger} (h : Numbered ledger)
    (left : ledger.lastId.toNat + 1 < UInt64.size) :
    ∀ e ∈ ledger.entries, e.1.number < ledger.nextId.number := by
  intro e he
  have := h.bounded e he
  rw [UInt64.lt_iff_toNat_lt, toNat_nextId left]
  omega

theorem Numbered.id_lt_nextId {ledger : Ledger} (h : Numbered ledger)
    (left : ledger.lastId.toNat + 1 < UInt64.size) :
    ∀ b ∈ ledger.bookings, b.id.number < ledger.nextId.number := by
  intro b hb
  obtain ⟨id, he⟩ := mem_bookings.1 hb
  rw [h.invariant.keyed _ he]
  exact h.below_nextId left _ he

theorem accept_numbered {ledger : Ledger} {p : Proposal} (h : Numbered ledger)
    (left : ledger.lastId.toNat + 1 < UInt64.size) (free : ledger.Free p) :
    Numbered (ledger.accept p) := by
  have next := toNat_nextId left
  have last : (ledger.accept p).lastId.toNat = ledger.lastId.toNat + 1 := next
  refine ⟨accept_invariant h.invariant free, ?_, ?_⟩
  · intro e he
    rcases eq_or_mem_of_mem_put he with rfl | he
    · simp only
      omega
    · exact h.positive e he
  · intro e he
    rcases eq_or_mem_of_mem_put he with rfl | he
    · simp only
      omega
    · have := h.bounded e he
      omega

theorem bookings_accept {ledger : Ledger} (h : Numbered ledger)
    (left : ledger.lastId.toNat + 1 < UInt64.size) (p : Proposal) :
    (ledger.accept p).bookings = ledger.bookings ++ [p.booked ledger.nextId] := by
  have last := put_eq_append (h.below_nextId left) (p.booked ledger.nextId)
  simp only [accept, bookings, last, List.map_append, List.map_cons, List.map_nil]

theorem delete_numbered {ledger : Ledger} (h : Numbered ledger) (ids : List BookingId) :
    Numbered (ledger.delete ids).2 := by
  have invariant := delete_invariant h.invariant ids
  rw [delete_snd] at *
  exact ⟨invariant, fun e he => h.positive e (List.mem_filter.1 he).1,
    fun e he => h.bounded e (List.mem_filter.1 he).1⟩

theorem store_insert_of_free {ledger : Ledger} {p : Proposal} (free : ledger.Free p) :
    store.insert p ledger = (.ok (p.booked ledger.nextId), ledger.accept p) := by
  simp only [store, insert_of_free free]

theorem store_insert_of_not_free {ledger : Ledger} {p : Proposal} (taken : ¬ ledger.Free p) :
    ∃ clash ∈ ledger.bookings, clash.clashesWith p = true ∧
      store.insert p ledger = (.error (.exclusion clash.id), ledger) := by
  obtain ⟨clash, hmem, hclash, refused⟩ := insert_of_not_free taken
  exact ⟨clash, hmem, hclash, by simp only [store, refused]⟩

theorem Reachable.numbered {ledger : Ledger} (h : Reachable ledger) : Numbered ledger := by
  induction h with
  | empty => exact empty_numbered
  | @insert ledger p _ left ih =>
    by_cases free : ledger.Free p
    · rw [store_insert_of_free free]
      exact accept_numbered ih left free
    · obtain ⟨clash, _, _, refused⟩ := store_insert_of_not_free free
      rw [refused]
      exact ih
  | delete ids _ ih => exact delete_numbered ih ids

end Ledger

def Proposal.supper : Proposal where
  venue := ⟨"hop-and-vine"⟩
  customer := ⟨"test@test.test"⟩
  table := ⟨1⟩
  partySize := 2
  date := ⟨2024, 6, 1, by decide⟩
  window := {
    startsAt := ⟨⟨2024, 6, 1, by decide⟩, ⟨64800, 0, by decide⟩⟩
    endsAt := ⟨⟨2024, 6, 1, by decide⟩, ⟨72000, 0, by decide⟩⟩
    ordered := by decide
    short := by decide }

def Proposal.nightcap : Proposal :=
  { supper with
    window := {
      startsAt := ⟨⟨2024, 6, 1, by decide⟩, ⟨72000, 0, by decide⟩⟩
      endsAt := ⟨⟨2024, 6, 1, by decide⟩, ⟨79200, 0, by decide⟩⟩
      ordered := by decide
      short := by decide } }

end TableBooking
