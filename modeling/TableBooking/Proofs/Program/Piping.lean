import TableBooking.Proofs.CommandLine.Commands
import TableBooking.Proofs.Engine.Candidates
import TableBooking.Proofs.Program.Run

/-!
Booking an enquiry at once is proposing a table for it and handing what was printed to a second
invocation that commits it. Main statement: either both come to the same end on the same files, or
no table is proposed and booking ends as proposing did.
-/
namespace TableBooking

namespace Json

/-- What is printed is read back, the end of its line included. -/
theorem readWhole_printed {α : Type} {reader : Reader α} {value : Value} {a : α}
    (h : Reads reader value a) : readWhole reader (utf8 (Program.printed value)) = .ok a := by
  have lineEnd : Blank [0x0A] := by
    intro b hb
    rw [List.mem_singleton.1 hb]
    rfl
  have text : utf8 (Program.printed value) = encoded (value.writeAt .pretty 0) ++ [0x0A] := by
    rw [Program.printed, utf8_eq_encoded, String.toList_append, encoded_append, Value.write,
      String.toList_ofList]
    rfl
  have read := h .pretty 0 [] [0x0A] blank_nil (delimited_of_isSpace rfl [])
  rw [List.nil_append, ← text] at read
  rw [readWhole, read]
  rfl

end Json

theorem Proposal.ofJson_printed (p : Proposal) :
    Proposal.ofJson (Program.printed p.toValue) = .ok p := by
  have read := Json.readWhole_printed
    (Wire.reads_proposalParts "RawProposal" (Wire.reads_endpoints p.window))
  simp only [Proposal.ofJson, read, p.window.make_self]

namespace Program

open Arguments

section Dialogues

variable {σ : Type} {directory : Directory} {store : Store σ} {timeout : Duration} {today : Date}
  {e : Enquiry} {s : σ}

theorem dialogue_commit (surroundings : Surroundings) (text : String) (tree : FileTree) :
    dialogue (.commit "-") timeout { surroundings with input := Json.utf8 text } tree =
      .ok (committing timeout surroundings.today text) := by
  simp only [dialogue, proposalText, if_true, Json.ofUtf8?_utf8]
  rfl

theorem run_matchSlot_snd :
    ((Engine.matchSlot timeout today e).run (serving directory store) s).2 = s :=
  Dialogue.run_unchanged (Engine.asks_matchSlot (fun _ h => h) timeout today e) s

theorem run_proposing {result : Except BookingError Proposal}
    (ran : ((Engine.matchSlot timeout today e).run (serving directory store) s).1 = result) :
    (proposing timeout today e).run (serving directory store) s =
      (result.map fun p => printed p.toValue, s) := by
  have whole : (Engine.matchSlot timeout today e).run (serving directory store) s = (result, s) :=
    Prod.ext ran run_matchSlot_snd
  rw [proposing, Dialogue.run_bind, whole]
  cases result <;> rfl

theorem run_booking_of_error {error : BookingError}
    (ran : ((Engine.matchSlot timeout today e).run (serving directory store) s).1 = .error error) :
    (booking timeout today e).run (serving directory store) s = (.error error, s) := by
  have whole : (Engine.matchSlot timeout today e).run (serving directory store) s =
      (.error error, s) := Prod.ext ran run_matchSlot_snd
  rw [booking, Engine.book, bind_assoc, Dialogue.run_bind, whole]

/-- A proposal that was printed is committed as it would have been without printing. -/
theorem run_booking_of_ok {p : Proposal}
    (ran : ((Engine.matchSlot timeout today e).run (serving directory store) s).1 = .ok p) :
    (booking timeout today e).run (serving directory store) s =
      (committing timeout today (printed p.toValue)).run (serving directory store) s := by
  have whole : (Engine.matchSlot timeout today e).run (serving directory store) s = (.ok p, s) :=
    Prod.ext ran run_matchSlot_snd
  rw [booking, Engine.book, bind_assoc, Dialogue.run_bind, whole, committing,
    Engine.commitText_of_ofJson p.ofJson_printed]

end Dialogues

section Invocations

variable {words : List String} {arguments : Arguments} {surroundings : Surroundings}
  {fetch : TableService.Fetch} {tree : FileTree}

theorem run_of_basis_error (accepted : ofWords words = .ok arguments) {outcome : Outcome}
    (based : basis arguments surroundings.environment tree = .error outcome) :
    run words surroundings fetch tree = (outcome, tree) := by
  rw [run, prepare_accepted accepted, based]
  rfl

theorem run_of_basis_ok (accepted : ofWords words = .ok arguments)
    {settings : Settings} {tables : TableSource} {d : Dialogue String}
    (based : basis arguments surroundings.environment tree = .ok (settings, tables))
    (asked : dialogue arguments.command settings.callTimeout surroundings tree = .ok d) :
    run words surroundings fetch tree =
      carryOut ⟨settings.callTimeout, tables, arguments.dataDirectory.join "bookings.json", d⟩ fetch
        tree := by
  have prepared : prepare words surroundings tree = .ok
      ⟨settings.callTimeout, tables, arguments.dataDirectory.join "bookings.json", d⟩ := by
    rw [prepare_accepted accepted, based]
    change assigned arguments surroundings tree (settings, tables) = _
    rw [assigned, asked]
    rfl
  rw [run, prepared]

theorem carryOut_of_run {job : Job} {result : Except BookingError String} {after : FileTree}
    (ran : job.dialogue.run (serving (directory job.tables fetch) (FileStore.store job.bookings))
      tree = (result, after)) : carryOut job fetch tree = (report result, after) := by
  rw [carryOut, ran]

/-- With the same settings, tables and files, booking an enquiry comes to what committing the printed
proposal comes to, or both commands about the enquiry are refused in the same way. -/
theorem carryOut_booking (enquiry : EnquiryArguments) (timeout : Duration) (today : Date)
    (tables : TableSource) (path : Path) :
    let proposed :=
      carryOut ⟨timeout, tables, path, enquiring enquiry (proposing timeout today)⟩ fetch tree
    let booked :=
      carryOut ⟨timeout, tables, path, enquiring enquiry (booking timeout today)⟩ fetch tree
    (∃ error, proposed = (report (.error error), tree) ∧ booked = proposed) ∨
      ∃ text, proposed = (report (.ok text), tree) ∧
        booked = carryOut ⟨timeout, tables, path, committing timeout today text⟩ fetch tree := by
  cases valid : enquiry.enquiry with
  | error rule =>
    rw [enquiring_of_error valid, enquiring_of_error valid]
    exact Or.inl ⟨.invalidRequest rule, rfl, rfl⟩
  | ok e =>
    rw [enquiring_of_ok valid, enquiring_of_ok valid]
    cases ran : ((Engine.matchSlot timeout today e).run
        (serving (directory tables fetch) (FileStore.store path)) tree).1 with
    | error error =>
      left
      have refused : carryOut ⟨timeout, tables, path, proposing timeout today e⟩ fetch tree =
          (report (.error error), tree) := carryOut_of_run (run_proposing ran)
      exact ⟨error, refused, (carryOut_of_run (run_booking_of_error ran)).trans refused.symm⟩
    | ok p =>
      right
      refine ⟨printed p.toValue, carryOut_of_run (run_proposing ran), ?_⟩
      simp only [carryOut, run_booking_of_ok ran]

variable {common : List String} {q : CommandLine.Progress CommonDraft}

/-- Booking an enquiry comes to the same outcome and the same files as proposing a table for it and,
if and only if that succeeds, committing what it printed. Proposing that does not succeed prints
nothing. -/
theorem book_eq_match_then_commit (h : Common common q)
    (accepted : ofWords (common ++ "book" :: words) = .ok arguments) (typed : Json.Bytes) :
    let proposed := run (common ++ "match" :: words) surroundings fetch tree
    let booked := run (common ++ "book" :: words) { surroundings with input := typed } fetch tree
    if proposed.1.exitCode = 0 then
      booked = run (common ++ ["commit", "--proposal", "-"])
        { surroundings with input := Json.utf8 proposed.1.output } fetch proposed.2
    else booked = proposed ∧ proposed.1.output = "" := by
  intro proposed booked
  obtain ⟨enquiry, books, proposes, commits⟩ := ofWords_book h accepted
  cases based : basis arguments surroundings.environment tree with
  | error outcome =>
    obtain ⟨code, silent⟩ := aborts_basis arguments _ tree outcome based
    have matched : proposed = (outcome, tree) := run_of_basis_error proposes based
    have ended : booked = (outcome, tree) := run_of_basis_error accepted based
    have failed : proposed.1.exitCode ≠ 0 := by
      rw [matched, code]
      exact Nat.one_ne_zero
    rw [if_neg failed, matched, ended]
    exact ⟨rfl, silent⟩
  | ok basis =>
    obtain ⟨settings, tables⟩ := basis
    have matched : proposed = _ := run_of_basis_ok proposes based rfl
    have asked : dialogue arguments.command settings.callTimeout
        { surroundings with input := typed } tree = .ok (enquiring enquiry
          (booking settings.callTimeout surroundings.today)) := by
      rw [books]
      rfl
    have ended : booked = _ := run_of_basis_ok accepted based asked
    rcases carryOut_booking enquiry settings.callTimeout surroundings.today tables
        (arguments.dataDirectory.join "bookings.json") with
      ⟨error, refused, same⟩ | ⟨text, printed, same⟩
    · have matched : proposed = (report (.error error), tree) := matched.trans refused
      have failed : proposed.1.exitCode ≠ 0 := by
        rw [matched]
        exact error.exitCode_ne_zero
      rw [if_neg failed, ended, same, refused, matched]
      exact ⟨rfl, rfl⟩
    · have matched : proposed = (report (.ok text), tree) := matched.trans printed
      have succeeded : proposed.1.exitCode = 0 := by
        rw [matched]
        rfl
      rw [if_pos succeeded, matched, ended, same]
      refine (run_of_basis_ok commits ?_ (dialogue_commit surroundings text tree)).symm
      exact based

/-- A table for two is booked for an evening, at once and in two steps. -/
theorem supper_booked_in_two_steps :
    let common := ["--data-dir", "d"]
    let tree : FileTree := .sample
    let surroundings : Surroundings := ⟨fun _ => none, [], Proposal.supper.date⟩
    let fetch : TableService.Fetch := fun _ => none
    let proposed := run (common ++ "match" :: supperWords) surroundings fetch tree
    (∃ q, Common common q) ∧ (∃ arguments, ofWords (common ++ "book" :: supperWords) = .ok arguments) ∧
      proposed.1.exitCode = 0 ∧
      run (common ++ "book" :: supperWords) surroundings fetch tree =
        run (common ++ ["commit", "--proposal", "-"])
          { surroundings with input := Json.utf8 proposed.1.output } fetch proposed.2 := by
  intro common tree surroundings fetch proposed
  have complete : Common common _ := ⟨rfl, rfl⟩
  have accepted : ofWords (common ++ "book" :: supperWords) = .ok _ := rfl
  have succeeded : proposed.1.exitCode = 0 := by
    unfold proposed run prepare dialogue Engine.matchSlot Engine.findTables candidates
    simp only [dropRepeats_eq]
    decide +kernel
  have piped : if proposed.1.exitCode = 0 then _ else _ :=
    book_eq_match_then_commit complete accepted []
  rw [if_pos succeeded] at piped
  exact ⟨⟨_, complete⟩, ⟨_, accepted⟩, succeeded, piped⟩

end Invocations

end Program

end TableBooking
