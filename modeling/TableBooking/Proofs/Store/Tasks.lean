import Mathlib.Data.Fintype.Card
import Mathlib.Logic.Function.Iterate
import Mathlib.Logic.Relation
import TableBooking.Proofs.Ledger.Invariant
import TableBooking.Proofs.Store.File

/-!
Tasks that change one document at the same time. A task takes the guard and the lock, reads the
document, decides, hands the changed document to a thread that writes it, and answers once it is
written. A task may be dropped at any moment. That frees guard and lock at once, while a write that
was handed over still lands at some later time.

Tasks that are not dropped while they write have the effect of being served one after another. A
write that lands late may undo what was acknowledged in the meantime.
-/
namespace TableBooking.FileStore

inductive Phase (α : Type) where
  | waiting
  | locked
  | loaded (document : Document)
  | writing (answer : Except StoreError α) (changed : Document)
  | written (answer : Except StoreError α)
  | ended (answer : Except StoreError α)
  | dropped

namespace Phase

variable {α : Type}

def holds : Phase α → Bool
  | locked | loaded _ | writing _ _ | written _ => true
  | waiting | ended _ | dropped => false

def isOver : Phase α → Bool
  | ended _ | dropped => true
  | _ => false

/-- The write that was handed over and not seen to land. -/
def handed : Phase α → List Document
  | writing _ changed => [changed]
  | _ => []

end Phase

variable {α : Type} (path : Path)

def advance (decision : Document → Except StoreError α × Option Document) :
    Phase α → FileTree → Phase α × FileTree
  | .waiting, tree =>
    match lock path tree with
    | .error e => (.ended (.error e), tree)
    | .ok locked => (.locked, locked)
  | .locked, tree =>
    match load path tree with
    | .error e => (.ended (.error e), tree)
    | .ok document => (.loaded document, tree)
  | .loaded document, tree =>
    match decision document with
    | (answer, none) => (.ended answer, tree)
    | (answer, some changed) => (.writing answer changed, tree)
  | .writing answer changed, tree =>
    match save path changed tree with
    | .error e => (.ended (.error e), tree)
    | .ok after => (.written answer, after)
  | .written answer, tree => (.ended answer, tree)
  | .ended answer, tree => (.ended answer, tree)
  | .dropped, tree => (.dropped, tree)

/-- A task that is let alone answers and does what the request does as one step. -/
theorem advance_alone (decision : Document → Except StoreError α × Option Document)
    (tree : FileTree) :
    (fun s : Phase α × FileTree => advance path decision s.1 s.2)^[5] (.waiting, tree) =
      (.ended (change path decision tree).1, (change path decision tree).2) := by
  simp only [Function.iterate_succ, Function.iterate_zero, Function.comp_apply, id_eq]
  unfold change
  cases taken : lock path tree with
  | error e => simp only [advance, taken]
  | ok locked =>
    cases loaded : load path locked with
    | error e => simp only [advance, taken, loaded]
    | ok document =>
      rcases decided : decision document with ⟨answer, _ | changed⟩
      · simp only [advance, taken, loaded, decided]
      · cases saves : save path changed locked with
        | error e => simp only [advance, taken, loaded, decided, saves]
        | ok after => simp only [advance, taken, loaded, decided, saves]

structure Pool (n : Nat) (α : Type) where
  tree : FileTree
  phase : Fin n → Phase α := fun _ => .waiting
  /-- The writes of dropped tasks that have not landed. -/
  late : List Document := []

variable {n : Nat} (decisions : Fin n → Document → Except StoreError α × Option Document)

namespace Pool

def advance (pool : Pool n α) (i : Fin n) : Pool n α :=
  { pool with
    tree := (FileStore.advance path (decisions i) (pool.phase i) pool.tree).2
    phase := Function.update pool.phase i
      (FileStore.advance path (decisions i) (pool.phase i) pool.tree).1 }

def drop (pool : Pool n α) (i : Fin n) : Pool n α :=
  { pool with
    phase := Function.update pool.phase i .dropped
    late := (pool.phase i).handed ++ pool.late }

/-- A late write lands, or fails without a trace. -/
def land (pool : Pool n α) (document : Document) (late : List Document) : Pool n α :=
  { pool with tree := (save path document pool.tree).toOption.getD pool.tree, late }

end Pool

/-- The steps of tasks in any order. Guard and lock are taken only while no other task has them. If
`patient`, no task is dropped while it writes. -/
inductive Step (patient : Bool) : Pool n α → Pool n α → Prop where
  | advance {pool} (i : Fin n) :
      (pool.phase i = .waiting → ∀ k, (pool.phase k).holds = false) →
      Step patient pool (pool.advance path decisions i)
  | drop {pool} (i : Fin n) : (pool.phase i).isOver = false →
      (patient = true → (pool.phase i).handed = []) → Step patient pool (pool.drop i)
  | land {pool} (before : List Document) (document : Document) (after : List Document) :
      pool.late = before ++ document :: after →
      Step patient pool (pool.land path document (before ++ after))

def Leads (patient : Bool) : Pool n α → Pool n α → Prop :=
  Relation.ReflTransGen (Step path decisions patient)

def replay (start : Document) (order : List (Fin n)) : Document :=
  order.foldl (fun document i => (decisions i document).2.getD document) start

def AnsweredIn (start : Document) (order : List (Fin n)) (i : Fin n)
    (answer : Except StoreError α) : Prop :=
  ∃ before after, order = before ++ i :: after ∧
    answer = (decisions i (replay decisions start before)).1

/-- What the phase of a task says of the order in which changes were made so far. -/
def Placed (start : Document) (order : List (Fin n)) (i : Fin n) : Phase α → Prop
  | .waiting | .locked => i ∉ order
  | .loaded document => i ∉ order ∧ document = replay decisions start order
  | .writing answer changed =>
    i ∉ order ∧ decisions i (replay decisions start order) = (answer, some changed)
  | .written answer => AnsweredIn decisions start order i answer
  | .ended answer =>
    (∃ e, answer = .error (.file e)) ∨ AnsweredIn decisions start order i answer
  | .dropped => True

structure Serial (start : Document) (pool : Pool n α) (order : List (Fin n)) : Prop where
  keeps : Keeps path pool.tree (replay decisions start order)
  alone : ∀ i k, (pool.phase i).holds = true → (pool.phase k).holds = true → i = k
  awaited : pool.late = []
  nodup : order.Nodup
  placed : ∀ i, Placed decisions start order i (pool.phase i)

variable {path decisions} {start document : Document} {pool next : Pool n α}
  {order : List (Fin n)} {i : Fin n}

theorem replay_append_cons (before after : List (Fin n)) (i : Fin n) :
    replay decisions start (before ++ i :: after) =
      replay decisions ((decisions i (replay decisions start before)).2.getD
        (replay decisions start before)) after :=
  List.foldl_append

theorem replay_append (order : List (Fin n)) (i : Fin n) :
    replay decisions start (order ++ [i]) =
      (decisions i (replay decisions start order)).2.getD (replay decisions start order) :=
  replay_append_cons order [] i

theorem AnsweredIn.append {answer : Except StoreError α}
    (h : AnsweredIn decisions start order i answer) (k : Fin n) :
    AnsweredIn decisions start (order ++ [k]) i answer := by
  obtain ⟨before, after, rfl, same⟩ := h
  exact ⟨before, after ++ [k], by simp, same⟩

theorem answeredIn_last (order : List (Fin n)) (i : Fin n) :
    AnsweredIn decisions start (order ++ [i]) i (decisions i (replay decisions start order)).1 :=
  ⟨order, [], rfl, rfl⟩

/-- A change by one task does not concern those that have no lock. -/
theorem Placed.append {phase : Phase α} {k : Fin n} (h : Placed decisions start order i phase)
    (other : i ≠ k) (unlocked : phase.holds = false) :
    Placed decisions start (order ++ [k]) i phase := by
  cases phase with
  | waiting => simpa [Placed, other] using h
  | ended answer => exact h.imp_right fun answered => answered.append k
  | dropped => trivial
  | locked => cases unlocked
  | loaded => cases unlocked
  | writing => cases unlocked
  | written => cases unlocked

theorem load_error (keeps : Keeps path pool.tree document) {e : StoreError}
    (failed : load path pool.tree = .error e) : ∃ failure, e = .file failure := by
  by_cases readable : Readable path pool.tree
  · rw [keeps.load readable] at failed
    cases failed
  · rw [readable_iff] at readable
    push Not at readable
    obtain ⟨failure, same⟩ := readable
    rw [same] at failed
    cases failed
    exact ⟨failure, rfl⟩

theorem load_kept (keeps : Keeps path pool.tree document) {found : Document}
    (loaded : load path pool.tree = .ok found) : found = document := by
  have readable : Readable path pool.tree := by
    rw [readable_iff, loaded]
    simp
  rw [keeps.load readable] at loaded
  cases loaded
  rfl

theorem serial_start {tree : FileTree} (keeps : Keeps path tree start) :
    Serial path decisions start { tree } [] where
  keeps := keeps
  alone := by simp [Phase.holds]
  awaited := rfl
  nodup := .nil
  placed i := List.not_mem_nil

/-- While a task has the lock no other has. -/
theorem Serial.others (h : Serial path decisions start pool order)
    (locked : (pool.phase i).holds = true) : ∀ k, k ≠ i → (pool.phase k).holds = false := by
  intro k hki
  rw [Bool.eq_false_iff]
  intro hk
  exact hki (h.alone k i hk locked)

section Moves

variable {tree : FileTree} {phase : Phase α}

theorem Serial.alone_update (h : Serial path decisions start pool order)
    (others : phase.holds = true → ∀ k, k ≠ i → (pool.phase k).holds = false) :
    ∀ j k, (Function.update pool.phase i phase j).holds = true →
      (Function.update pool.phase i phase k).holds = true → j = k := by
  intro j k hj hk
  by_cases hji : j = i <;> by_cases hki : k = i
  · rw [hji, hki]
  · subst hji
    simp only [Function.update_self, Function.update_of_ne hki] at hj hk
    simp [others hj k hki] at hk
  · subst hki
    simp only [Function.update_self, Function.update_of_ne hji] at hj hk
    simp [others hk j hji] at hj
  · simp only [Function.update_of_ne hji, Function.update_of_ne hki] at hj hk
    exact h.alone j k hj hk

/-- A task that goes on without a change of the document. -/
theorem Serial.update (h : Serial path decisions start pool order)
    (keeps : Keeps path tree (replay decisions start order))
    (others : phase.holds = true → ∀ k, k ≠ i → (pool.phase k).holds = false)
    (placed : Placed decisions start order i phase) :
    Serial path decisions start { pool with tree, phase := Function.update pool.phase i phase }
      order := by
  refine ⟨keeps, h.alone_update others, h.awaited, h.nodup, fun k => ?_⟩
  by_cases hki : k = i
  · subst hki
    simpa only [Function.update_self] using placed
  · simpa only [Function.update_of_ne hki] using h.placed k

/-- The task that has the lock makes its change. -/
theorem Serial.append (h : Serial path decisions start pool order)
    (locked : (pool.phase i).holds = true) (fresh : i ∉ order)
    (keeps : Keeps path tree (replay decisions start (order ++ [i])))
    (placed : Placed decisions start (order ++ [i]) i phase) :
    Serial path decisions start { pool with tree, phase := Function.update pool.phase i phase }
      (order ++ [i]) := by
  have others := h.others locked
  refine ⟨keeps, h.alone_update fun _ => others, h.awaited, ?_, ?_⟩
  · exact List.nodup_append.2 ⟨h.nodup, List.nodup_singleton i, by
      rintro j hj k hk rfl
      exact fresh (List.mem_singleton.1 hk ▸ hj)⟩
  · intro k
    by_cases hki : k = i
    · subst hki
      simpa only [Function.update_self] using placed
    · simpa only [Function.update_of_ne hki] using (h.placed k).append hki (others k hki)

end Moves

theorem serial_advance (h : Serial path decisions start pool order)
    (guard : pool.phase i = .waiting → ∀ k, (pool.phase k).holds = false) :
    ∃ grown, Serial path decisions start (pool.advance path decisions i) grown := by
  have placed := h.placed i
  have others := h.others (i := i)
  unfold Pool.advance
  cases now : pool.phase i with
  | waiting =>
    rw [now] at placed
    have unlocked : ∀ k, k ≠ i → (pool.phase k).holds = false := fun k _ => guard now k
    cases taken : lock path pool.tree with
    | error e =>
      obtain ⟨failure, rfl⟩ := lock_eq_error taken
      simp only [advance, taken]
      exact ⟨order, h.update h.keeps (fun _ => unlocked) (Or.inl ⟨failure, rfl⟩)⟩
    | ok locked =>
      simp only [advance, taken]
      exact ⟨order, h.update (h.keeps.grows (lock_grows taken)) (fun _ => unlocked) placed⟩
  | locked =>
    rw [now] at placed others
    cases loaded : load path pool.tree with
    | error e =>
      obtain ⟨failure, rfl⟩ := load_error h.keeps loaded
      simp only [advance, loaded]
      exact ⟨order, h.update h.keeps (fun _ => others rfl) (Or.inl ⟨failure, rfl⟩)⟩
    | ok document =>
      simp only [advance, loaded]
      exact ⟨order, h.update h.keeps (fun _ => others rfl) ⟨placed, load_kept h.keeps loaded⟩⟩
  | loaded document =>
    have locked : (pool.phase i).holds = true := by rw [now]; rfl
    rw [now] at placed others
    obtain ⟨fresh, rfl⟩ := placed
    rcases decided : decisions i (replay decisions start order) with ⟨answer, _ | changed⟩
    · -- the answer without a change takes the last place in the order
      simp only [advance, decided]
      have same : replay decisions start (order ++ [i]) = replay decisions start order := by
        rw [replay_append, decided]
        rfl
      have answered : AnsweredIn decisions start (order ++ [i]) i _ := answeredIn_last order i
      rw [decided] at answered
      exact ⟨_, h.append locked fresh (same ▸ h.keeps) (Or.inr answered)⟩
    · simp only [advance, decided]
      exact ⟨order, h.update h.keeps (fun _ => others rfl) ⟨fresh, decided⟩⟩
  | writing answer changed =>
    have locked : (pool.phase i).holds = true := by rw [now]; rfl
    rw [now] at placed others
    obtain ⟨fresh, decided⟩ := placed
    cases saves : save path changed pool.tree with
    | error e =>
      obtain ⟨failure, rfl⟩ := save_eq_error saves
      simp only [advance, saves]
      exact ⟨order, h.update h.keeps (fun _ => others rfl) (Or.inl ⟨failure, rfl⟩)⟩
    | ok after =>
      simp only [advance, saves]
      have same : replay decisions start (order ++ [i]) = changed := by
        rw [replay_append, decided]
        rfl
      have answered : AnsweredIn decisions start (order ++ [i]) i _ := answeredIn_last order i
      rw [decided] at answered
      exact ⟨_, h.append locked fresh (same ▸ keeps_of_save saves) answered⟩
  | written answer =>
    rw [now] at placed others
    simp only [advance]
    exact ⟨order, h.update h.keeps (fun _ => others rfl) (Or.inr placed)⟩
  | ended answer =>
    rw [now] at placed
    simp only [advance]
    exact ⟨order, h.update h.keeps (fun locked => absurd locked (by simp [Phase.holds])) placed⟩
  | dropped =>
    simp only [advance]
    exact ⟨order, h.update h.keeps (fun locked => absurd locked (by simp [Phase.holds])) trivial⟩

theorem serial_step (h : Serial path decisions start pool order)
    (step : Step path decisions true pool next) :
    ∃ grown, Serial path decisions start next grown := by
  cases step with
  | advance i guard => exact serial_advance h guard
  | drop i unfinished patience =>
    refine ⟨order, ?_⟩
    simp only [Pool.drop, patience rfl, List.nil_append]
    exact h.update h.keeps (fun locked => absurd locked (by simp [Phase.holds])) trivial
  | land before document after listed =>
    rw [h.awaited] at listed
    simp at listed

theorem serial_of_leads {tree : FileTree} (keeps : Keeps path tree start)
    (run : Leads path decisions true { tree } pool) :
    ∃ order, Serial path decisions start pool order := by
  induction run with
  | refl => exact ⟨[], serial_start keeps⟩
  | tail _ step ih =>
    obtain ⟨order, serial⟩ := ih
    exact serial_step serial step

/-- Tasks that are not dropped while they write have the effect and the answers of requests served
one after another, except that one may fail in the file system and have none. -/
theorem awaited_tasks_serial {tree : FileTree} (keeps : Keeps path tree start)
    (run : Leads path decisions true { tree } pool) :
    ∃ order, order.Nodup ∧ Keeps path pool.tree (replay decisions start order) ∧
      ∀ i answer, pool.phase i = .ended answer →
        (∃ e, answer = .error (.file e)) ∨ AnsweredIn decisions start order i answer := by
  obtain ⟨order, serial⟩ := serial_of_leads keeps run
  refine ⟨order, serial.nodup, serial.keeps, ?_⟩
  intro i answer ended
  have placed := serial.placed i
  rwa [ended] at placed

section Alone

/-- No task is at the document, and nothing in the tree keeps one from it. -/
structure Idle (path : Path) (pool : Pool n α) (document : Document) : Prop where
  settled : Settled path pool.tree
  keeps : Keeps path pool.tree document
  free : ∀ k, (pool.phase k).holds = false

variable {patient : Bool} {tree : FileTree} {before after : Phase α}
  {answer : Except StoreError α} {changed : Document}

theorem Idle.update (h : Idle path pool document) (settled : Settled path tree)
    (keeps : Keeps path tree changed) (freed : after.holds = false) (late : List Document) :
    Idle path { tree, phase := Function.update pool.phase i after, late } changed := by
  refine ⟨settled, keeps, fun k => ?_⟩
  by_cases hki : k = i
  · subst hki
    simpa only [Function.update_self] using freed
  · simpa only [Function.update_of_ne hki] using h.free k

theorem Leads.advance (run : Leads path decisions patient pool next) (now : next.phase i = before)
    (guard : before = .waiting → ∀ k, (next.phase k).holds = false)
    (went : FileStore.advance path (decisions i) before next.tree = (after, tree)) :
    Leads path decisions patient pool
      { next with tree, phase := Function.update next.phase i after } := by
  subst now
  have step : Step path decisions patient next (next.advance path decisions i) := .advance i guard
  rw [Pool.advance, went] at step
  exact run.tail step

/-- A task that nobody is in the way of gets as far as handing over its document. -/
theorem Leads.writing (run : Leads path decisions patient pool next)
    (idle : Idle path next document) (waiting : next.phase i = .waiting)
    (decided : decisions i document = (answer, some changed)) :
    ∃ tree, Settled path tree ∧ Keeps path tree document ∧
      Leads path decisions patient pool
        { next with tree, phase := Function.update next.phase i (.writing answer changed) } := by
  obtain ⟨locked, taken, still⟩ := idle.settled.lock
  have kept := idle.keeps.grows (lock_grows taken)
  have loaded := kept.load still.readable
  have takes : FileStore.advance path (decisions i) .waiting next.tree = (.locked, locked) := by
    simp only [FileStore.advance, taken]
  have reads : FileStore.advance path (decisions i) .locked locked =
      (.loaded document, locked) := by
    simp only [FileStore.advance, loaded]
  have decides : FileStore.advance path (decisions i) (.loaded document) locked =
      (.writing answer changed, locked) := by
    simp only [FileStore.advance, decided]
  have first := run.advance waiting (fun _ => idle.free) takes
  have second := first.advance (Function.update_self ..) nofun reads
  have third := second.advance (Function.update_self ..) nofun decides
  simp only [Function.update_idem] at third
  exact ⟨locked, still, kept, third⟩

theorem Leads.ended (run : Leads path decisions patient pool next) (idle : Idle path next document)
    (waiting : next.phase i = .waiting)
    (decided : decisions i document = (answer, some changed)) :
    ∃ tree, Idle path ⟨tree, Function.update next.phase i (.ended answer), next.late⟩ changed ∧
      Leads path decisions patient pool
        ⟨tree, Function.update next.phase i (.ended answer), next.late⟩ := by
  obtain ⟨locked, still, -, writing⟩ := run.writing idle waiting decided
  obtain ⟨saved, saves, last⟩ := still.save changed
  have writes : FileStore.advance path (decisions i) (.writing answer changed) locked =
      (.written answer, saved) := by
    simp only [FileStore.advance, saves]
  have answers : FileStore.advance path (decisions i) (.written answer) saved =
      (.ended answer, saved) := rfl
  have fourth := writing.advance (Function.update_self ..) nofun writes
  have fifth := fourth.advance (Function.update_self ..) nofun answers
  simp only [Function.update_idem] at fifth
  exact ⟨saved, idle.update last (keeps_of_save saves) rfl _, fifth⟩

/-- Or it is dropped there, with its document still to land. -/
theorem Leads.dropped (run : Leads path decisions false pool next) (idle : Idle path next document)
    (waiting : next.phase i = .waiting)
    (decided : decisions i document = (answer, some changed)) :
    ∃ tree, Idle path ⟨tree, Function.update next.phase i .dropped, changed :: next.late⟩ document ∧
      Leads path decisions false pool
        ⟨tree, Function.update next.phase i .dropped, changed :: next.late⟩ := by
  obtain ⟨locked, still, kept, writing⟩ := run.writing idle waiting decided
  have dropped := writing.tail (.drop i (by simp [Phase.isOver]) (by simp))
  simp only [Pool.drop, Function.update_self, Function.update_idem, Phase.handed,
    List.singleton_append] at dropped
  exact ⟨locked, idle.update still kept rfl _, dropped⟩

theorem Leads.landed (run : Leads path decisions patient pool next) (idle : Idle path next document)
    {late : List Document} (listed : next.late = changed :: late) :
    ∃ tree, Idle path ⟨tree, next.phase, late⟩ changed ∧
      Leads path decisions patient pool ⟨tree, next.phase, late⟩ := by
  obtain ⟨saved, saves, still⟩ := idle.settled.save changed
  have landed := run.tail (.land [] changed late listed)
  rw [Pool.land, saves] at landed
  exact ⟨saved, ⟨still, keeps_of_save saves, idle.free⟩, landed⟩

end Alone

inductive Alteration where
  | insertion (p : Proposal)
  | deletion (ids : List BookingId)

def Alteration.decide :
    Alteration → Document → Except StoreError (Booking ⊕ List BookingId) × Option Document
  | .insertion p, document =>
    ((document.inserting p).1.map .inl, (document.inserting p).2)
  | .deletion ids, document =>
    ((document.deleting ids).1.map .inr, (document.deleting ids).2)

section Alterations

variable {alteration : Alteration} {b : Booking}

/-- A booking is gone only by a deletion of its number. -/
theorem Alteration.stays (h : b ∈ document.bookings) :
    b ∈ ((alteration.decide document).2.getD document).bookings ∨
      ∃ ids, alteration = .deletion ids ∧ b.id ∈ ids := by
  cases alteration with
  | insertion p =>
    left
    simp only [decide, Document.inserting, Document.insert]
    cases document.bookings.find? (·.clashesWith p) with
    | none => exact List.mem_append_left _ h
    | some clash => exact h
  | deletion ids =>
    by_cases asked : b.id ∈ ids
    · exact Or.inr ⟨ids, rfl, asked⟩
    · left
      simp only [decide, Document.deleting]
      cases present : document.present ids with
      | nil => exact h
      | cons id more =>
        have kept : b.id ∉ document.present ids := by
          intro listed
          exact asked (List.contains_iff_mem.1 (List.mem_filter.1 listed).2)
        rw [present] at kept
        simpa [Document.without, h] using kept

theorem Alteration.lastId_le (alteration : Alteration)
    (left : document.lastId.toNat + 1 < UInt64.size) :
    document.lastId.toNat ≤ ((alteration.decide document).2.getD document).lastId.toNat ∧
      ((alteration.decide document).2.getD document).lastId.toNat ≤ document.lastId.toNat + 1 := by
  have next : (document.lastId + 1).toNat = document.lastId.toNat + 1 :=
    @Ledger.toNat_nextId ⟨document.lastId, []⟩ left
  cases alteration with
  | insertion p =>
    simp only [decide, Document.inserting, Document.insert]
    cases document.bookings.find? (·.clashesWith p) with
    | none => simp [next]
    | some clash => simp
  | deletion ids =>
    simp only [decide, Document.deleting]
    cases document.present ids <;> simp [Document.without]

/-- An acknowledged insertion has put its booking under the next number. -/
theorem Alteration.acknowledged (alteration : Alteration)
    (left : document.lastId.toNat + 1 < UInt64.size)
    (told : (alteration.decide document).1 = .ok (.inl b)) :
    b.id.number.toNat = document.lastId.toNat + 1 ∧
      ((alteration.decide document).2.getD document).lastId.toNat = document.lastId.toNat + 1 ∧
      b ∈ ((alteration.decide document).2.getD document).bookings := by
  have next : (document.lastId + 1).toNat = document.lastId.toNat + 1 :=
    @Ledger.toNat_nextId ⟨document.lastId, []⟩ left
  cases alteration with
  | insertion p =>
    simp only [decide, Document.inserting, Document.insert] at told ⊢
    cases found : document.bookings.find? (·.clashesWith p) with
    | none =>
      rw [found] at told
      cases told
      exact ⟨next, next, List.mem_append_right _ (List.mem_singleton.2 rfl)⟩
    | some clash =>
      rw [found] at told
      cases told
  | deletion ids =>
    simp only [decide] at told
    cases answer : (document.deleting ids).1 <;> rw [answer] at told <;> cases told

end Alterations

section Acknowledgements

variable {alterations : Fin n → Alteration} {pool : Pool n (Booking ⊕ List BookingId)}
  {before after : List (Fin n)} {b c : Booking} {j : Fin n}

def altering (alterations : Fin n → Alteration) (i : Fin n) :
    Document → Except StoreError (Booking ⊕ List BookingId) × Option Document :=
  (alterations i).decide

def Acknowledged (pool : Pool n (Booking ⊕ List BookingId)) (i : Fin n) (b : Booking) : Prop :=
  pool.phase i = .ended (.ok (.inl b))

theorem stays_of_replay (h : b ∈ start.bookings) (order : List (Fin n)) :
    b ∈ (replay (altering alterations) start order).bookings ∨
      ∃ k ∈ order, ∃ ids, alterations k = .deletion ids ∧ b.id ∈ ids := by
  induction order generalizing start with
  | nil => exact Or.inl h
  | cons i order ih =>
    rcases Alteration.stays h with kept | ⟨ids, asked, named⟩
    · rcases ih kept with still | ⟨k, hk, gone⟩
      · exact Or.inl still
      · exact Or.inr ⟨k, List.mem_cons_of_mem _ hk, gone⟩
    · exact Or.inr ⟨i, List.mem_cons_self, ids, asked, named⟩

theorem lastId_replay (alterations : Fin n → Alteration) (order : List (Fin n))
    (left : start.lastId.toNat + order.length < UInt64.size) :
    start.lastId.toNat ≤ (replay (altering alterations) start order).lastId.toNat ∧
      (replay (altering alterations) start order).lastId.toNat ≤
        start.lastId.toNat + order.length := by
  induction order generalizing start with
  | nil => exact ⟨Nat.le_refl _, Nat.le_refl _⟩
  | cons i order ih =>
    rw [List.length_cons] at left ⊢
    obtain ⟨rises, slowly⟩ := (alterations i).lastId_le (by omega : start.lastId.toNat + 1 < _)
    obtain ⟨low, high⟩ := ih (by omega :
      (((alterations i).decide start).2.getD start).lastId.toNat + order.length < _)
    exact ⟨Nat.le_trans rises low, Nat.le_trans high (by omega)⟩

theorem acknowledged_number (left : start.lastId.toNat + (before.length + 1) < UInt64.size)
    (told : (altering alterations i (replay (altering alterations) start before)).1 =
      .ok (.inl b)) :
    b.id.number.toNat = (replay (altering alterations) start before).lastId.toNat + 1 := by
  have small := (lastId_replay alterations before (by omega : start.lastId.toNat + _ < _)).2
  exact ((alterations i).acknowledged (by omega) told).1

/-- In all that follows an acknowledged insertion its number is given out, and its booking is there
unless its number was deleted. -/
theorem acknowledged_later (after : List (Fin n))
    (left : start.lastId.toNat + (before.length + (after.length + 1)) < UInt64.size)
    (told : (altering alterations i (replay (altering alterations) start before)).1 =
      .ok (.inl b)) :
    b.id.number.toNat ≤
        (replay (altering alterations) start (before ++ i :: after)).lastId.toNat ∧
      (b ∈ (replay (altering alterations) start (before ++ i :: after)).bookings ∨
        ∃ k ∈ after, ∃ ids, alterations k = .deletion ids ∧ b.id ∈ ids) := by
  have small := (lastId_replay alterations before (by omega : start.lastId.toNat + _ < _)).2
  rw [replay_append_cons]
  obtain ⟨number, last, stored⟩ := (alterations i).acknowledged (by omega) told
  refine ⟨?_, stays_of_replay stored after⟩
  rw [number, ← last]
  refine (lastId_replay alterations after ?_).1
  rw [last]
  omega

/-- Of two acknowledged insertions the later one finds the number of the earlier one given out. -/
theorem acknowledged_ne {mid : List (Fin n)}
    (left : start.lastId.toNat + ((before ++ i :: mid).length + 1) < UInt64.size)
    (first : (altering alterations i (replay (altering alterations) start before)).1 =
      .ok (.inl b))
    (second : (altering alterations j
      (replay (altering alterations) start (before ++ i :: mid))).1 = .ok (.inl c)) :
    b.id ≠ c.id := by
  have next := acknowledged_number left second
  rw [List.length_append, List.length_cons] at left
  have given := (acknowledged_later mid (by omega) first).1
  intro same
  rw [same] at given
  omega

/-- As long as no task is dropped while it writes, a booking that was acknowledged stays until a
deletion takes its number, and no number is acknowledged twice. -/
theorem awaited_acknowledgements {tree : FileTree} (keeps : Keeps path tree start)
    (left : start.lastId.toNat + n < UInt64.size)
    (run : Leads path (altering alterations) true { tree } pool) :
    (∃ order, Keeps path pool.tree (replay (altering alterations) start order) ∧
      ∀ i b, Acknowledged pool i b →
        b ∈ (replay (altering alterations) start order).bookings ∨
          ∃ k ∈ order, ∃ ids, alterations k = .deletion ids ∧ b.id ∈ ids) ∧
      ∀ i j b c, i ≠ j → Acknowledged pool i b → Acknowledged pool j c → b.id ≠ c.id := by
  obtain ⟨order, nodup, kept, answered⟩ := awaited_tasks_serial keeps run
  have short : order.length ≤ n := by simpa using nodup.length_le_card
  have placed : ∀ i b, Acknowledged pool i b → ∃ before after, order = before ++ i :: after ∧
      (altering alterations i (replay (altering alterations) start before)).1 = .ok (.inl b) := by
    intro i b ended
    rcases answered i _ ended with ⟨e, failed⟩ | ⟨before, after, split, told⟩
    · cases failed
    · exact ⟨before, after, split, told.symm⟩
  constructor
  · refine ⟨order, kept, fun i b ended => ?_⟩
    obtain ⟨before, after, rfl, told⟩ := placed i b ended
    rw [List.length_append, List.length_cons] at short
    rcases (acknowledged_later after (by omega) told).2 with still | ⟨k, hk, gone⟩
    · exact Or.inl still
    · exact Or.inr ⟨k, by simp [hk], gone⟩
  · intro i j b c different hi hj
    obtain ⟨before, after, split, first⟩ := placed i b hi
    obtain ⟨front, back, other, second⟩ := placed j c hj
    rw [split, List.length_append, List.length_cons] at short
    have lengths := congrArg List.length (split.symm.trans other)
    simp only [List.length_append, List.length_cons] at lengths
    rcases List.append_eq_append_iff.1 (split.symm.trans other) with
      ⟨mid, rfl, rest⟩ | ⟨mid, rfl, rest⟩
    · cases mid with
      | nil =>
        cases rest
        exact absurd rfl different
      | cons k mid =>
        cases rest
        exact acknowledged_ne (by omega) first second
    · cases mid with
      | nil =>
        cases rest
        exact absurd rfl different
      | cons k mid =>
        cases rest
        exact (acknowledged_ne (by omega) second first).symm

end Acknowledgements

/-- The first task is dropped while it writes. Its document lands after two others have been
acknowledged: the booking of the second task is gone, though nothing was deleted, and the fourth
task is given the number of the third. -/
theorem late_write_undoes :
    let path : Path := ⟨"data/bookings.json"⟩
    let tree : FileTree := ⟨[(⟨false, ["data"]⟩, .directory)]⟩
    let decisions : Fin 4 → Document → Except StoreError Booking × Option Document :=
      fun i => Document.inserting (if i = 0 ∨ i = 2 then .supper else .nightcap)
    ∃ pool document, Leads path decisions false { tree } pool ∧ Keeps path pool.tree document ∧
      pool.phase 1 = .ended (.ok (Proposal.nightcap.booked ⟨1⟩)) ∧
      Proposal.nightcap.booked ⟨1⟩ ∉ document.bookings ∧
      pool.phase 2 = .ended (.ok (Proposal.supper.booked ⟨2⟩)) ∧
      pool.phase 3 = .ended (.ok (Proposal.nightcap.booked ⟨2⟩)) := by
  intro path tree decisions
  have settled : Settled path tree := settled_in_data
  have vacant : Vacant path tree := vacant_of_none (by decide)
  have none : Leads path decisions false { tree } { tree } := .refl
  have start : Idle path ({ tree } : Pool 4 Booking) {} :=
    ⟨settled, Or.inl ⟨rfl, vacant⟩, fun _ => rfl⟩
  obtain ⟨_, idle, dropped⟩ := none.dropped (i := 0) start rfl rfl
  obtain ⟨_, idle, second⟩ := dropped.ended (i := 1) idle rfl rfl
  obtain ⟨_, idle, third⟩ := second.ended (i := 2) idle rfl rfl
  obtain ⟨_, idle, landed⟩ := third.landed idle rfl
  obtain ⟨_, idle, fourth⟩ := landed.ended (i := 3) idle rfl rfl
  exact ⟨_, _, fourth, idle.keeps, rfl, by decide, rfl, rfl⟩

end TableBooking.FileStore
