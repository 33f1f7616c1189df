import TableBooking.Proofs.Store.Refinement

/-!
What an empty ledger becomes under any requests. Numbers rise with every insertion, whatever was
deleted in between; an insertion is refused for a clash and for nothing else, and then the least
number that clashes is named; a deletion answers with what it took away.
-/
namespace TableBooking

namespace Store

def after {σ : Type} (store : Store σ) : List Request → σ → σ
  | [], s => s
  | request :: requests, s => store.after requests (store.serve request s).2

def Answer.issued? : Answer → Option BookingId
  | .inserted (.ok booking) => some booking.id
  | _ => none

def issued {σ : Type} (store : Store σ) (requests : List Request) (s : σ) : List BookingId :=
  (store.trace requests s).filterMap (·.1.issued?)

theorem issued_cons {σ : Type} (store : Store σ) (request : Request) (requests : List Request)
    (s : σ) :
    store.issued (request :: requests) s =
      (store.serve request s).1.issued?.toList ++
        store.issued requests (store.serve request s).2 := by
  unfold issued
  rw [trace, List.filterMap_cons]
  cases (store.serve request s).1.issued? <;> rfl

end Store

/-- A booking that stands in the way of a proposal: same venue, table and date, and windows that
overlap. -/
def Proposal.Contends (p : Proposal) (b : Booking) : Prop :=
  b.venue = p.venue ∧ b.table = p.table ∧ b.date = p.date ∧ b.window.overlaps p.window = true

namespace Ledger

variable {ledger : Ledger}

theorem mem_put (id : BookingId) (b : Booking) (entries : List (BookingId × Booking)) :
    (id, b) ∈ put id b entries := by
  induction entries with
  | nil => exact List.mem_singleton.2 rfl
  | cons head rest ih =>
    unfold put
    split
    · exact List.mem_cons_self
    · split
      · exact List.mem_cons_self
      · exact List.mem_cons_of_mem _ ih

theorem not_free_iff {p : Proposal} : ¬ ledger.Free p ↔ ∃ b ∈ ledger.bookings, p.Contends b := by
  unfold Free
  push Not
  constructor
  · rintro ⟨b, hb, clash⟩
    exact ⟨b, hb, (Booking.clashesWith_iff b p).1 (by simpa using clash)⟩
  · rintro ⟨b, hb, contends⟩
    exact ⟨b, hb, by simpa using (Booking.clashesWith_iff b p).2 contends⟩

structure Advance (request : Store.Request) (ledger after : Ledger) (answer : Store.Answer) :
    Prop where
  numbered : Numbered after
  rises : ledger.lastId.toNat ≤ after.lastId.toNat
  slowly : after.lastId.toNat ≤ ledger.lastId.toNat + request.insertions
  fresh : ∀ id, answer.issued? = some id →
    ledger.lastId.toNat < id.number.toNat ∧ id.number.toNat ≤ after.lastId.toNat

theorem insert_advance (h : Numbered ledger) (left : ledger.lastId.toNat + 1 < UInt64.size)
    (p : Proposal) :
    Advance (.insert p) ledger (store.insert p ledger).2 (.inserted (store.insert p ledger).1) := by
  by_cases free : ledger.Free p
  · have next := toNat_nextId left
    have last : (ledger.accept p).lastId.toNat = ledger.lastId.toNat + 1 := next
    rw [store_insert_of_free free]
    refine ⟨accept_numbered h left free, ?_, last.le, ?_⟩
    · exact (Nat.le_succ _).trans last.ge
    · intro id given
      cases given
      exact ⟨(Nat.lt_succ_self _).trans_eq next.symm, (next.trans last.symm).le⟩
  · obtain ⟨clash, _, _, refused⟩ := store_insert_of_not_free free
    rw [refused]
    refine ⟨h, le_refl _, Nat.le_add_right _ _, ?_⟩
    intro id given
    cases given

theorem serve_advance (h : Numbered ledger) (request : Store.Request)
    (left : ledger.lastId.toNat + request.insertions < UInt64.size) :
    Advance request ledger (store.serve request ledger).2 (store.serve request ledger).1 := by
  cases request with
  | insert p => exact insert_advance h left p
  | delete ids =>
    have last : (ledger.delete ids).2.lastId = ledger.lastId := by
      rw [delete_snd]
    refine ⟨delete_numbered h ids, ?_, ?_, ?_⟩
    · exact (congrArg UInt64.toNat last).ge
    · exact (congrArg UInt64.toNat last).le
    · intro id given
      cases given
  | query filter => exact ⟨h, le_refl _, le_refl _, by rintro id ⟨⟩⟩
  | onDate venue date => exact ⟨h, le_refl _, le_refl _, by rintro id ⟨⟩⟩
  | reopen => exact ⟨h, le_refl _, le_refl _, by rintro id ⟨⟩⟩

theorem numbered_after (h : Numbered ledger) (requests : List Store.Request)
    (few : ledger.lastId.toNat + (requests.map Store.Request.insertions).sum < UInt64.size) :
    Numbered (store.after requests ledger) := by
  induction requests generalizing ledger with
  | nil => exact h
  | cons request requests ih =>
    rw [List.map_cons, List.sum_cons] at few
    have step := serve_advance h request (by omega)
    have slowly := step.slowly
    exact ih step.numbered (by omega)

/-- Every number given out is above the last one and below those given out later. -/
theorem issued_ascending (h : Numbered ledger) (requests : List Store.Request)
    (few : ledger.lastId.toNat + (requests.map Store.Request.insertions).sum < UInt64.size) :
    (store.issued requests ledger).Pairwise (fun i j => i.number < j.number) ∧
      ∀ id ∈ store.issued requests ledger, ledger.lastId.toNat < id.number.toNat := by
  induction requests generalizing ledger with
  | nil =>
    constructor
    · exact List.Pairwise.nil
    · intro id hid
      cases hid
  | cons request requests ih =>
    rw [List.map_cons, List.sum_cons] at few
    have step := serve_advance h request (by omega)
    have rises := step.rises
    have slowly := step.slowly
    obtain ⟨ascending, above⟩ := ih step.numbered (by omega)
    rw [Store.issued_cons, List.pairwise_append]
    refine ⟨⟨?_, ascending, ?_⟩, ?_⟩
    · cases (store.serve request ledger).1.issued? <;> simp
    · intro i hi j hj
      obtain ⟨_, given⟩ := step.fresh i (Option.mem_toList.1 hi)
      have later := above j hj
      rw [UInt64.lt_iff_toNat_lt]
      omega
    · intro id hid
      rcases List.mem_append.1 hid with hid | hid
      · exact (step.fresh id (Option.mem_toList.1 hid)).1
      · have later := above id hid
        omega

/-- A refused insertion names the least number that clashes. -/
theorem store_insert_names_least (h : Invariant ledger) {p : Proposal} (taken : ¬ ledger.Free p) :
    ∃ b ∈ ledger.bookings, p.Contends b ∧
      (∀ c ∈ ledger.bookings, p.Contends c → b.id.number ≤ c.id.number) ∧
      store.insert p ledger = (.error (.exclusion b.id), ledger) := by
  cases found : ledger.bookings.find? (·.clashesWith p) with
  | none =>
    refine absurd (fun b hb => ?_) taken
    simpa using List.find?_eq_none.1 found b hb
  | some b =>
    obtain ⟨clash, before, behind, split, spared⟩ := List.find?_eq_some_iff_append.1 found
    refine ⟨b, List.mem_of_find?_eq_some found, (Booking.clashesWith_iff b p).1 clash, ?_,
      by simp only [store, insert, found]⟩
    intro c hc contends
    have clashes := (Booking.clashesWith_iff c p).2 contends
    have ascending := ids_ascending h
    rw [split] at hc ascending
    rcases List.mem_append.1 hc with hc | hc
    · have := spared c hc
      simp [clashes] at this
    · rcases List.mem_cons.1 hc with rfl | hc
      · exact UInt64.le_refl _
      · have rest := (List.pairwise_append.1 ascending).2.1
        exact UInt64.le_of_lt ((List.pairwise_cons.1 rest).1 c hc)

/-- A deletion answers with the numbers under which something was kept, at their first places in the
order. -/
theorem delete_fst (ledger : Ledger) (ids : List BookingId) :
    (ledger.delete ids).1 =
      (ids.filter fun id => ledger.entries.any (·.1 = id)).eraseDups := by
  induction ids generalizing ledger with
  | nil => rfl
  | cons id ids ih =>
    unfold delete
    split
    · rename_i present
      rw [List.filter_cons, if_pos present, List.eraseDups_cons, List.filter_filter]
      simp only [ih]
      congr 2
      apply List.filter_congr
      intro other _
      rw [Bool.eq_iff_iff]
      simp only [List.any_eq_true, List.mem_filter, decide_eq_true_eq, Bool.and_eq_true,
        Bool.not_eq_true', beq_eq_false_iff_ne]
      constructor
      · rintro ⟨e, ⟨he, elsewhere⟩, rfl⟩
        exact ⟨elsewhere, e, he, rfl⟩
      · rintro ⟨elsewhere, e, he, rfl⟩
        exact ⟨e, ⟨he, elsewhere⟩, rfl⟩
    · rename_i absent
      rw [List.filter_cons, if_neg absent, ih]

theorem delete_eq (h : Invariant ledger) (ids : List BookingId) :
    let removed := (ids.filter fun id => ∃ b ∈ ledger.bookings, b.id = id).eraseDups
    ledger.delete ids =
      (removed, { ledger with entries := ledger.entries.filter fun e => e.1 ∉ removed }) := by
  intro removed
  have first : (ledger.delete ids).1 = removed := by
    rw [delete_fst]
    refine congrArg List.eraseDups (List.filter_congr fun id _ => ?_)
    rw [Bool.eq_iff_iff]
    simp only [List.any_eq_true, decide_eq_true_eq]
    constructor
    · rintro ⟨e, he, rfl⟩
      exact ⟨e.2, mem_bookings.2 ⟨e.1, he⟩, h.keyed e he⟩
    · rintro ⟨b, hb, rfl⟩
      exact ⟨_, (mem_bookings_iff_entry h).1 hb, rfl⟩
  have second : (ledger.delete ids).2 =
      { ledger with entries := ledger.entries.filter fun e => e.1 ∉ removed } := by
    rw [delete_snd]
    congr 1
    apply List.filter_congr
    intro e he
    have stored : ∃ b, (e.1, b) ∈ ledger.entries := ⟨e.2, he⟩
    rw [← first, decide_eq_decide, mem_delete_fst]
    exact not_congr (and_iff_left stored).symm
  exact Prod.ext first second

/-- After any requests to an empty ledger: bookings are kept under their own numbers, which lie
between 1 and the last one given out; numbers were given out in rising order; no two bookings of one
venue, table and date overlap. The next insertion fails exactly if a booking contends with it, names
the least such one and changes nothing; the next deletion answers with the stored numbers among
those asked for, each once and in their order, and takes away their bookings only. -/
theorem ledger_kept_by_requests (requests : List Store.Request)
    (few : (requests.map Store.Request.insertions).sum < UInt64.size) :
    let ledger := store.after requests {}
    (∀ e ∈ ledger.entries, e.2.id = e.1 ∧ 1 ≤ e.1.number ∧ e.1.number ≤ ledger.lastId) ∧
    (ledger.entries.Pairwise fun d e => d.1.number < e.1.number) ∧
    ((store.issued requests {}).Pairwise fun i j => i.number < j.number) ∧
    (ledger.bookings.Pairwise fun a b => a.venue = b.venue → a.table = b.table → a.date = b.date →
      a.window.overlaps b.window = false) ∧
    (∀ p, let result := store.insert p ledger
      ((∃ e, result.1 = .error e) ↔ ∃ b ∈ ledger.bookings, p.Contends b) ∧
      (∀ e, result.1 = .error e → result.2 = ledger ∧
        ∃ b ∈ ledger.bookings, e = .exclusion b.id ∧ p.Contends b ∧
          ∀ c ∈ ledger.bookings, p.Contends c → b.id.number ≤ c.id.number) ∧
      ∀ b, result.1 = .ok b → b.proposal = p ∧ b ∈ result.2.bookings) ∧
    ∀ ids, let removed := (ids.filter fun id => ∃ b ∈ ledger.bookings, b.id = id).eraseDups
      store.delete ids ledger =
        (.ok removed, { ledger with entries := ledger.entries.filter fun e => e.1 ∉ removed }) := by
  intro ledger
  have few : (({} : Ledger).lastId).toNat + (requests.map Store.Request.insertions).sum <
      UInt64.size := by simpa using few
  have numbered : Numbered ledger := numbered_after empty_numbered requests few
  have invariant := numbered.invariant
  refine ⟨?_, invariant.ascending, (issued_ascending empty_numbered requests few).1, ?_, ?_, ?_⟩
  · intro e he
    refine ⟨invariant.keyed e he, ?_, ?_⟩
    · exact UInt64.le_iff_toNat_le.2 (numbered.positive e he)
    · exact UInt64.le_iff_toNat_le.2 (numbered.bounded e he)
  · refine List.pairwise_map.2 (invariant.exclusive.imp ?_)
    intro d e apart venue table date
    rw [Bool.eq_false_iff]
    intro overlaps
    exact apart ((Booking.clashesWith_iff d.2 e.2.proposal).2 ⟨venue, table, date, overlaps⟩)
  · intro p result
    by_cases free : ledger.Free p
    · have inserted : result = (.ok (p.booked ledger.nextId), ledger.accept p) :=
        store_insert_of_free free
      rw [← not_free_iff, inserted]
      refine ⟨by simp [free], by simp, ?_⟩
      rintro b ⟨⟩
      exact ⟨rfl, mem_bookings.2 ⟨_, mem_put _ _ _⟩⟩
    · obtain ⟨b, hb, contends, least, refused⟩ := store_insert_names_least invariant free
      have refused : result = (.error (.exclusion b.id), ledger) := refused
      rw [← not_free_iff, refused]
      refine ⟨by simp [free], ?_, by simp⟩
      rintro e ⟨⟩
      exact ⟨rfl, b, hb, rfl, contends, least⟩
  · intro ids removed
    simp only [store, delete_eq invariant ids]
    rfl

/-- The first table is taken, given up and taken again under a third number; the nightcap contends
with itself, and an order that names the third booking twice and the first one again deletes one. -/
theorem retaken_suppers_numbered :
    let requests : List Store.Request :=
      [.insert .supper, .insert .supper, .insert .nightcap, .delete [⟨5⟩, ⟨1⟩, ⟨1⟩], .insert .supper]
    let ledger := store.after requests {}
    (requests.map Store.Request.insertions).sum < UInt64.size ∧
      store.issued requests {} = [⟨1⟩, ⟨2⟩, ⟨3⟩] ∧
      ((store.issued requests {}).Pairwise fun i j => i.number < j.number) ∧
      (∃ e, (store.insert .nightcap ledger).1 = .error e) ∧
      store.delete [⟨3⟩, ⟨1⟩, ⟨3⟩] ledger =
        (.ok [⟨3⟩], { lastId := 3, entries := [(⟨2⟩, Proposal.nightcap.booked ⟨2⟩)] }) := by
  intro requests ledger
  have few : (requests.map Store.Request.insertions).sum < UInt64.size := by decide
  have contends : ∃ b ∈ ledger.bookings, Proposal.nightcap.Contends b :=
    ⟨Proposal.nightcap.booked ⟨2⟩, by decide, rfl, rfl, rfl, by decide⟩
  obtain ⟨-, -, rising, -, inserted, deleted⟩ := ledger_kept_by_requests requests few
  refine ⟨few, by decide, rising, (inserted .nightcap).1.2 contends, ?_⟩
  exact (deleted [⟨3⟩, ⟨1⟩, ⟨3⟩]).trans (by decide)

end Ledger

end TableBooking
