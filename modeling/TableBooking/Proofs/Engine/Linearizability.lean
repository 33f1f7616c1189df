import Mathlib.Data.List.FinRange
import Mathlib.Logic.Function.Basic
import TableBooking.Proofs.Engine.LastCall

/-!
Requests served at the same time over one ledger. Each call is one step, and the steps of the
requests interleave in any order. The order of the last calls is one in which the requests, served
one after another, get the same results and leave the same ledger.
-/
namespace TableBooking.Engine

inductive Phase where
  | waiting
  | running (rest : Dialogue Response)
  | returned (result : Except BookingError Response)

def Phase.outcome? : Phase → Option (Except BookingError Response)
  | .waiting => none
  | .running rest => rest.ended?
  | .returned result => some result

structure Configuration (n : Nat) where
  ledger : Ledger
  phase : Fin n → Phase

inductive Move (n : Nat) where
  | start (i : Fin n)
  | call (i : Fin n)
  | finish (i : Fin n)
  deriving DecidableEq

variable {n : Nat} (serve : Dialogue.Serving Ledger) (dialogues : Fin n → Dialogue Response)

/-- A call is one step with the reply to it; starting and finishing touch nothing shared. -/
inductive Step : Configuration n → Move n → Configuration n → Prop where
  | start {c i} : c.phase i = .waiting →
      Step c (.start i) ⟨c.ledger, Function.update c.phase i (.running (dialogues i))⟩
  | call {c i call next} : c.phase i = .running (.ask call next) →
      Step c (.call i) ⟨(serve call c.ledger).2,
        Function.update c.phase i (.running (next (serve call c.ledger).1))⟩
  | finish {c i rest result} : c.phase i = .running rest → rest.ended? = some result →
      Step c (.finish i) ⟨c.ledger, Function.update c.phase i (.returned result)⟩

inductive Interleaving (initial : Ledger) : List (Move n) → Configuration n → Prop where
  | nil : Interleaving initial [] ⟨initial, fun _ => .waiting⟩
  | move {moves c m d} : Interleaving initial moves c → Step serve dialogues c m d →
      Interleaving initial (moves ++ [m]) d

/-- One request had its result before the other was made. -/
def Precedes (moves : List (Move n)) (i j : Fin n) : Prop :=
  ∃ front back, moves = front ++ back ∧ .finish i ∈ front ∧ .start j ∈ back

def inOrder : List (Fin n) → Ledger → List (Except BookingError Response) × Ledger
  | [], ledger => ([], ledger)
  | i :: order, ledger =>
    let (result, after) := (dialogues i).run serve ledger
    let (results, last) := inOrder order after
    (result :: results, last)

theorem inOrder_append (order : List (Fin n)) (i : Fin n) (ledger : Ledger) :
    inOrder serve dialogues (order ++ [i]) ledger =
      ((inOrder serve dialogues order ledger).1 ++
        [((dialogues i).run serve (inOrder serve dialogues order ledger).2).1],
        ((dialogues i).run serve (inOrder serve dialogues order ledger).2).2) := by
  induction order generalizing ledger with
  | nil => rfl
  | cons j order ih => simp only [List.cons_append, inOrder, ih]

/-- Serving the requests in this order is what happened to those that make no more calls. -/
structure Settles (initial : Ledger) (c : Configuration n) (order : List (Fin n)) : Prop where
  nodup : order.Nodup
  settled : ∀ i, i ∈ order ↔ ∃ result, (c.phase i).outcome? = some result
  results : (inOrder serve dialogues order initial).1.map some =
    order.map fun i => (c.phase i).outcome?
  ledger : (inOrder serve dialogues order initial).2 = c.ledger

variable {serve dialogues} {initial : Ledger} {c d : Configuration n} {order : List (Fin n)}
  {moves : List (Move n)} {m : Move n}

theorem Settles.same (h : Settles serve dialogues initial c order)
    (outcomes : ∀ i, (d.phase i).outcome? = (c.phase i).outcome?) (ledger : d.ledger = c.ledger) :
    Settles serve dialogues initial d order := by
  refine ⟨h.nodup, fun i => ?_, ?_, h.ledger.trans ledger.symm⟩
  · rw [outcomes, h.settled]
  · simp only [outcomes, h.results]

theorem Settles.append (h : Settles serve dialogues initial c order) {j : Fin n}
    {result : Except BookingError Response}
    (others : ∀ i, i ≠ j → (d.phase i).outcome? = (c.phase i).outcome?)
    (before : (c.phase j).outcome? = none) (after : (d.phase j).outcome? = some result)
    (ran : (dialogues j).run serve c.ledger = (result, d.ledger)) :
    Settles serve dialogues initial d (order ++ [j]) := by
  have absent : j ∉ order := by
    rw [h.settled, before]
    simp
  have kept : ∀ i ∈ order, (d.phase i).outcome? = (c.phase i).outcome? :=
    fun i hi => others i fun e => absent (e ▸ hi)
  refine ⟨?_, ?_, ?_, ?_⟩
  · exact List.nodup_append.2 ⟨h.nodup, List.nodup_singleton j, by
      intro i hi k hk e
      exact absent (List.mem_singleton.1 hk ▸ e ▸ hi)⟩
  · intro i
    by_cases hij : i = j
    · subst hij
      simp [after]
    · rw [List.mem_append, List.mem_singleton, others i hij, h.settled]
      simp [hij]
  · rw [inOrder_append, h.ledger, ran]
    simp only [List.map_append, List.map_cons, List.map_nil, h.results, after]
    exact congrArg (· ++ _) (List.map_congr_left fun i hi => (kept i hi).symm)
  · rw [inOrder_append, h.ledger, ran]

/-- What the phases say of the moves behind them, and of the calls still to come. -/
structure Tracked (serve : Dialogue.Serving Ledger) (dialogues : Fin n → Dialogue Response)
    (moves : List (Move n)) (c : Configuration n) : Prop where
  unfinished : ∀ i rest, c.phase i = .running rest →
    Dialogue.LastDecides serve (dialogues i) rest
  finished : ∀ i, .finish i ∈ moves → ∃ result, c.phase i = .returned result

/-- Only the request that moves has to be looked at again. -/
theorem Tracked.move (h : Tracked serve dialogues moves c) {i : Fin n} {phase : Phase}
    {ledger : Ledger} (others : ∀ k, k ≠ i → m ≠ .finish k)
    (unfinished : ∀ rest, phase = .running rest → Dialogue.LastDecides serve (dialogues i) rest)
    (finished : .finish i ∈ moves ++ [m] → ∃ result, phase = .returned result) :
    Tracked serve dialogues (moves ++ [m]) ⟨ledger, Function.update c.phase i phase⟩ := by
  constructor
  · intro k rest hk
    by_cases hki : k = i
    · subst hki
      exact unfinished rest (by simpa only [Function.update_self] using hk)
    · exact h.unfinished k rest (by simpa only [Function.update_of_ne hki] using hk)
  · intro k hk
    by_cases hki : k = i
    · subst hki
      simpa only [Function.update_self] using finished hk
    · rcases List.mem_append.1 hk with hk | hk
      · simpa only [Function.update_of_ne hki] using h.finished k hk
      · exact absurd (List.mem_singleton.1 hk).symm (others k hki)

theorem Tracked.not_finished (h : Tracked serve dialogues moves c) {i : Fin n}
    (going : ∀ result, c.phase i ≠ .returned result) : .finish i ∉ moves := by
  intro hi
  obtain ⟨result, hresult⟩ := h.finished i hi
  exact going result hresult

theorem tracked_step (whole : ∀ i, Dialogue.LastDecides serve (dialogues i) (dialogues i))
    (h : Tracked serve dialogues moves c) (step : Step serve dialogues c m d) :
    Tracked serve dialogues (moves ++ [m]) d := by
  cases step with
  | @start i waiting =>
    have going := h.not_finished (i := i) (by simp [waiting])
    refine h.move (by simp) (fun rest hrest => ?_) (by simp [going])
    cases hrest
    exact whole i
  | @call i call next asking =>
    have going := h.not_finished (i := i) (by simp [asking])
    refine h.move (by simp) (fun rest hrest => ?_) (by simp [going])
    cases hrest
    exact (h.unfinished i _ asking).next c.ledger
  | @finish i rest result running ended =>
    refine h.move (fun k hki => ?_) (fun rest hrest => ?_) fun _ => ⟨result, rfl⟩
    · rintro ⟨⟩
      exact hki rfl
    · cases hrest

theorem outcome?_update {i k : Fin n} (phase : Phase) (hki : k ≠ i) :
    (Function.update c.phase i phase k).outcome? = (c.phase k).outcome? := by
  rw [Function.update_of_ne hki]

/-- A request that goes on is settled if it makes no more calls, and then its whole run is what
happened just now. -/
theorem Settles.running (h : Settles serve dialogues initial c order) {i : Fin n}
    {rest : Dialogue Response} {ledger : Ledger} (before : (c.phase i).outcome? = none)
    (still : rest.ended? = none → ledger = c.ledger)
    (ran : ∀ result, rest.ended? = some result →
      (dialogues i).run serve c.ledger = (result, ledger)) :
    let d : Configuration n := ⟨ledger, Function.update c.phase i (.running rest)⟩
    Settles serve dialogues initial d order ∨
      ∃ j, Settles serve dialogues initial d (order ++ [j]) := by
  intro d
  have now : (d.phase i).outcome? = rest.ended? := by
    simp only [d, Function.update_self, Phase.outcome?]
  cases ended : rest.ended? with
  | none =>
    refine Or.inl (h.same (fun k => ?_) (still ended))
    by_cases hki : k = i
    · subst hki
      rw [now, before, ended]
    · exact outcome?_update _ hki
  | some result =>
    -- the request takes its place in the order with its last call
    exact Or.inr ⟨i, h.append (fun k => outcome?_update _) before (now.trans ended)
      (ran result ended)⟩

/-- A move settles nothing, or the one request whose last call it makes. -/
theorem settles_step (h : Settles serve dialogues initial c order)
    (tracked : Tracked serve dialogues moves c) (step : Step serve dialogues c m d) :
    Settles serve dialogues initial d order ∨
      ∃ j, Settles serve dialogues initial d (order ++ [j]) := by
  cases step with
  | @start i waiting =>
    have before : (c.phase i).outcome? = none := by
      rw [waiting]
      rfl
    exact h.running before (fun _ => rfl) fun result ended => Dialogue.run_of_ended ended _
  | @call i call next asking =>
    have before : (c.phase i).outcome? = none := by
      rw [asking]
      rfl
    have decides := tracked.unfinished i _ asking c.ledger
    refine h.running before (fun ended => ?_) fun result ended => ?_
    · rw [ended] at decides
      exact decides.1
    · rw [ended] at decides
      exact decides
  | @finish i rest result running ended =>
    refine Or.inl (h.same (fun k => ?_) rfl)
    by_cases hki : k = i
    · subst hki
      simpa only [Function.update_self, running, Phase.outcome?] using ended.symm
    · exact outcome?_update _ hki

theorem precedes_append {i j : Fin n} (h : Precedes (moves ++ [m]) i j) :
    Precedes moves i j ∨ m = .start j ∧ .finish i ∈ moves := by
  obtain ⟨front, back, split, hi, hj⟩ := h
  obtain rfl | ⟨back, last, rfl⟩ := List.eq_nil_or_concat back
  · cases hj
  · rw [List.concat_eq_append] at hj split
    rw [← List.append_assoc] at split
    obtain ⟨rfl, same⟩ := List.append_inj' split rfl
    obtain rfl := List.singleton_inj.1 same
    rcases List.mem_append.1 hj with hj | hj
    · exact Or.inl ⟨front, back, rfl, hi, hj⟩
    · exact Or.inr ⟨(List.mem_singleton.1 hj).symm, List.mem_append_left _ hi⟩

/-- A request that preceded another stands before it. -/
def Timely (moves : List (Move n)) (order : List (Fin n)) : Prop :=
  ∀ i j, Precedes moves i j → i ∈ order ∧ (j ∈ order → order.idxOf i < order.idxOf j)

theorem timely_append_order (h : Timely moves order) (k : Fin n) :
    Timely moves (order ++ [k]) := by
  intro i j hij
  obtain ⟨hi, before⟩ := h i j hij
  refine ⟨List.mem_append_left _ hi, fun hj => ?_⟩
  rw [List.idxOf_append_of_mem hi]
  by_cases old : j ∈ order
  · rw [List.idxOf_append_of_mem old]
    exact before old
  · rw [List.idxOf_append_of_notMem old]
    exact Nat.lt_add_right _ (List.idxOf_lt_length_of_mem hi)

theorem timely_step (h : Timely moves order) (settles : Settles serve dialogues initial c order)
    (tracked : Tracked serve dialogues moves c) (step : Step serve dialogues c m d) :
    Timely (moves ++ [m]) order := by
  intro i j hij
  rcases precedes_append hij with old | ⟨rfl, finished⟩
  · exact h i j old
  · obtain ⟨result, hresult⟩ := tracked.finished i finished
    refine ⟨(settles.settled i).2 ⟨result, by rw [hresult]; rfl⟩, fun hj => ?_⟩
    obtain ⟨other, hother⟩ := (settles.settled j).1 hj
    cases step with
    | start waiting =>
      rw [waiting] at hother
      cases hother

/-- At every point of an interleaving, the requests that make no more calls can be put in an order
that explains them. -/
theorem interleaving_explained
    (whole : ∀ i, Dialogue.LastDecides serve (dialogues i) (dialogues i))
    (run : Interleaving serve dialogues initial moves c) :
    Tracked serve dialogues moves c ∧
      ∃ order, Settles serve dialogues initial c order ∧ Timely moves order := by
  induction run with
  | nil =>
    refine ⟨⟨by simp, by simp⟩, [], ⟨List.nodup_nil, by simp [Phase.outcome?], rfl, rfl⟩, ?_⟩
    rintro i j ⟨front, back, split, hi, _⟩
    rw [List.nil_eq_append_iff.1 split |>.1] at hi
    cases hi
  | move _ step ih =>
    obtain ⟨tracked, order, settles, timely⟩ := ih
    refine ⟨tracked_step whole tracked step, ?_⟩
    have later := timely_step timely settles tracked step
    rcases settles_step settles tracked step with same | ⟨j, more⟩
    · exact ⟨order, same, later⟩
    · exact ⟨order ++ [j], more, timely_append_order later j⟩

/-- However the calls of requests interleave, served one after another in some order that keeps
apart what did not overlap in time, they get the same results and leave the same ledger. -/
theorem interleaving_linearizable {directory : Directory} {timeouts : Fin n → Duration}
    {today : Date} {requests : Fin n → Request} {results : Fin n → Except BookingError Response}
    (run : Interleaving (serving directory Ledger.store)
      (fun i => (requests i).dialogue (timeouts i) today) initial moves c)
    (complete : ∀ i, c.phase i = .returned (results i)) :
    ∃ order : List (Fin n), order.Perm (List.finRange n) ∧
      (∀ i j, Precedes moves i j → order.idxOf i < order.idxOf j) ∧
      inOrder (serving directory Ledger.store) (fun i => (requests i).dialogue (timeouts i) today)
        order initial = (order.map results, c.ledger) := by
  obtain ⟨_, order, settles, timely⟩ := interleaving_explained
    (fun i => dialogue_lastDecides (timeouts i) today (requests i)) run
  have outcome : ∀ i, (c.phase i).outcome? = some (results i) := by
    intro i
    rw [complete]
    rfl
  have all : ∀ i, i ∈ order := fun i => (settles.settled i).2 ⟨_, outcome i⟩
  refine ⟨order, ?_, fun i j hij => (timely i j hij).2 (all j), ?_⟩
  · exact (List.perm_ext_iff_of_nodup settles.nodup (List.nodup_finRange n)).2 fun i => by
      simp [all i]
  · refine Prod.ext ?_ settles.ledger
    apply List.map_injective_iff.2 (Option.some_injective _)
    rw [settles.results, List.map_map]
    exact List.map_congr_left fun i _ => outcome i

/-- A commit of a taken table starts first and ends last; the table is given up in between. -/
theorem overtaken_commit_linearizable :
    let initial : Ledger := Ledger.accept {} Proposal.supper
    let requests : Fin 2 → Request := fun i =>
      if i = 0 then .commit Proposal.supper else .cancel ⟨1⟩
    let results : Fin 2 → Except BookingError Response := fun i =>
      if i = 0 then .ok (.booked (Proposal.supper.booked ⟨2⟩)) else .ok .cancelled
    let moves : List (Move 2) :=
      [.start 0, .start 1, .call 0, .call 1, .finish 1, .call 0, .call 0, .finish 0]
    ∃ order : List (Fin 2), order.Perm (List.finRange 2) ∧
      (∀ i j, Precedes moves i j → order.idxOf i < order.idxOf j) ∧
      inOrder (serving TableMap.sample.directory Ledger.store)
        (fun i => (requests i).dialogue (.ofMillis 50) Proposal.supper.date) order initial =
          (order.map results, ⟨2, [(⟨2⟩, Proposal.supper.booked ⟨2⟩)]⟩) := by
  intro initial requests results moves
  have begun : Interleaving (serving TableMap.sample.directory Ledger.store)
      (fun i => (requests i).dialogue (.ofMillis 50) Proposal.supper.date) initial [] _ := .nil
  have run := begun
    |>.move (.start (i := 0) rfl)
    |>.move (.start (i := 1) rfl)
    |>.move (.call (i := 0) rfl)
    |>.move (.call (i := 1) rfl)
    |>.move (.finish (i := 1) rfl rfl)
    |>.move (.call (i := 0) rfl)
    |>.move (.call (i := 0) rfl)
    |>.move (.finish (i := 0) rfl rfl)
  refine interleaving_linearizable run fun i => ?_
  match i with
  | 0 => rfl
  | 1 => rfl

end TableBooking.Engine
