import TableBooking.Proofs.Engine.Run

/-!
Runs taken apart into their stages. A commit comes to its insertion only after the rules and the
look at the table; a request that ends before an insertion or a deletion has left the state as it
was.
-/
namespace TableBooking

namespace Dialogue

def Conduct.Reads {σ : Type} (conduct : Conduct σ) : Prop :=
  ∀ call s reply after, call.changes = false → conduct call s reply after → after = s

theorem Runs.unchanged {σ α : Type} {conduct : Conduct σ} (reads : conduct.Reads)
    {p : Dialogue α} (asks : p.Asks (·.changes = false)) {s after : σ}
    {result : Except BookingError α} (run : Runs conduct p s result after) : after = s := by
  refine run.preserves (I := (· = s)) ?_ asks rfl
  rintro call t reply u reading rfl replied
  exact reads call _ reply u reading replied

/-- A dialogue that asks for no change leaves the state as it is. -/
theorem run_unchanged {σ α : Type} {directory : Directory} {store : Store σ} {p : Dialogue α}
    (asks : p.Asks (·.changes = false)) (s : σ) :
    (p.run (serving directory store) s).2 = s := by
  let conduct : Conduct σ := fun call s _ after => after = (serving directory store call s).2
  have reads : conduct.Reads := by
    intro call s _ after reading replied
    cases call with
    | insert => cases reading
    | delete => cases reading
    | _ => exact replied
  have run : Runs conduct p s _ _ := runs_run (fun _ _ => rfl) p s
  exact run.unchanged reads asks

theorem Runs.last_cases {σ α β : Type} {conduct : Conduct σ} {p : Dialogue α} {f : α → β}
    {s u : σ} {result : Except BookingError β}
    (run : Runs conduct (p >>= fun value => pure (f value)) s result u) :
    ∃ inner, Runs conduct p s inner u ∧ result = inner.map f :=
  run.map_cases

end Dialogue

namespace Engine

open Dialogue

variable {σ : Type} {conduct : Conduct σ} {timeout : Duration} {today : Date} {s after : σ}

/-- An insertion succeeds only with the store's answer. -/
theorem insertProposal_runs {p : Proposal} {result : Except BookingError Booking}
    (run : Runs conduct (insertProposal timeout p) s result after) :
    (∃ b, result = .ok b ∧ conduct (.insert p) s (.answered b) after) ∨
      ∃ e reply, result = .error e ∧ conduct (.insert p) s reply after ∧
        ∀ b, reply ≠ .answered b := by
  cases run with
  | @ask _ _ _ reply _ _ _ replied rest =>
    cases reply with
    | answered b =>
      cases rest
      exact Or.inl ⟨b, rfl, replied⟩
    | failed failure =>
      right
      cases failure <;> cases rest <;> exact ⟨_, _, rfl, replied, by rintro b ⟨⟩⟩
    | timedOut =>
      cases rest
      exact Or.inr ⟨_, _, rfl, replied, by rintro b ⟨⟩⟩

theorem place_runs {p : Proposal} {existing : List Booking} {result : Except BookingError Booking}
    (run : Runs conduct (place timeout p existing) s result after) :
    (∃ e, result = .error e ∧ after = s) ∨
      Runs conduct (insertProposal timeout p) s result after := by
  by_cases clear : overlapping existing p.table p.window = []
  · rw [place_of_nil clear] at run
    exact Or.inr run
  · rw [place_of_ne_nil clear] at run
    cases run
    exact Or.inl ⟨_, rfl, rfl⟩

/-- A commit is refused without a change, or it comes to its insertion with the rules obeyed and the
table found. -/
theorem commit_runs (reads : conduct.Reads) {p : Proposal} {result : Except BookingError Booking}
    (run : Runs conduct (commit timeout today p) s result after) :
    (∃ e, result = .error e ∧ after = s) ∨
      p.check today = .ok () ∧ Runs conduct (checkTable timeout p) s (.ok ()) s ∧
        Runs conduct (insertProposal timeout p) s result after := by
  cases checked : p.check today with
  | error rule =>
    rw [commit_of_broken_rule checked] at run
    cases run
    exact Or.inl ⟨_, rfl, rfl⟩
  | ok _ =>
    rw [commit_of_check checked] at run
    have tableRead : (checkTable timeout p).Asks (·.changes = false) :=
      asks_checkTable (fun _ h => h) timeout p
    have bookingsRead : (bookingsFor timeout p.venue [p.table] p.date).Asks (·.changes = false) :=
      asks_bookingsFor (fun _ h => h) timeout _ _ _
    rcases run.bind_cases with ⟨e, looked, ended⟩ | ⟨_, t, looked, secured⟩
    · exact Or.inl ⟨e, ended, looked.unchanged reads tableRead⟩
    · obtain rfl := looked.unchanged reads tableRead
      rcases secured.bind_cases with ⟨e, asked, ended⟩ | ⟨existing, t, asked, placed⟩
      · exact Or.inl ⟨e, ended, asked.unchanged reads bookingsRead⟩
      · obtain rfl := asked.unchanged reads bookingsRead
        rcases place_runs placed with refused | inserted
        · exact Or.inl refused
        · exact Or.inr ⟨rfl, looked, inserted⟩

theorem commitText_runs {text : String} {result : Except BookingError Booking}
    (run : Runs conduct (commitText timeout today text) s result after) :
    (∃ e, result = .error e ∧ after = s) ∨
      ∃ p, Proposal.ofJson text = .ok p ∧ Runs conduct (commit timeout today p) s result after := by
  unfold commitText at run
  cases decoded : Proposal.ofJson text with
  | error rule =>
    rw [decoded] at run
    cases run
    exact Or.inl ⟨_, rfl, rfl⟩
  | ok p =>
    rw [decoded] at run
    exact Or.inr ⟨p, rfl, run⟩

theorem removal_runs {id : BookingId} {removed : List BookingId} {result : Except BookingError Unit}
    (run : Runs conduct (if removed.contains id then .done () else .refused (.notFound id)) s result
      after) :
    after = s ∧ result = if id ∈ removed then .ok () else .error (.notFound id) := by
  by_cases named : id ∈ removed
  · rw [if_pos (List.contains_iff_mem.2 named)] at run
    cases run
    exact ⟨rfl, (if_pos named).symm⟩
  · rw [if_neg (mt List.contains_iff_mem.1 named)] at run
    cases run
    exact ⟨rfl, (if_neg named).symm⟩

/-- A cancellation is decided by the numbers that the store says it has removed. -/
theorem cancel_runs {id : BookingId} {result : Except BookingError Unit}
    (run : Runs conduct (cancel timeout id) s result after) :
    (∃ removed : List BookingId, conduct (.delete [id]) s (.answered removed) after ∧
        result = if id ∈ removed then .ok () else .error (.notFound id)) ∨
      ∃ e reply, result = .error e ∧ conduct (.delete [id]) s reply after ∧
        ∀ removed, reply ≠ .answered removed := by
  cases run with
  | @ask _ _ _ reply _ _ _ replied rest =>
    cases reply with
    | answered removed =>
      obtain ⟨rfl, told⟩ := removal_runs rest
      exact Or.inl ⟨removed, replied, told⟩
    | failed failure =>
      cases rest
      exact Or.inr ⟨_, _, rfl, replied, by rintro b ⟨⟩⟩
    | timedOut =>
      cases rest
      exact Or.inr ⟨_, _, rfl, replied, by rintro b ⟨⟩⟩

end Engine

end TableBooking
