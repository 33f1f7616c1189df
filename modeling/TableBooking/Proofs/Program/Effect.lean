import TableBooking.Proofs.Engine.Candidates
import TableBooking.Proofs.Program.Run
import TableBooking.Proofs.Store.Effect

/-!
What an invocation leaves of the bookings document. Main statement: one that fails, or that only
proposes or lists, leaves the file byte for byte; one that books appends the booking that it prints;
one that cancels takes out the bookings of its number.
-/
namespace TableBooking

/-- Collaborators of which the directory may reply anything, or nothing in time, and the store does
what it does with the file at a path. -/
def onDisk (path : Path) : Dialogue.Conduct FileTree := fun call tree reply after =>
  match call.collaborator with
  | .tableDirectory => after = tree
  | .bookingStore =>
    ∃ directory, serving directory (FileStore.store path) call tree = (reply, after)

section Disk

variable {path : Path} {tree after : FileTree}

theorem onDisk_serving (directory : Directory) (call : Call) :
    onDisk path call tree (serving directory (FileStore.store path) call tree).1
      (serving directory (FileStore.store path) call tree).2 := by
  cases call with
  | listTables => rfl
  | getTable => rfl
  | _ => exact ⟨directory, rfl⟩

theorem onDisk_reads : (onDisk path).Reads := by
  intro call tree reply after reading replied
  cases call with
  | insert => cases reading
  | delete => cases reading
  | listTables => exact replied
  | getTable => exact replied
  | query =>
    obtain ⟨_, served⟩ := replied
    exact (congrArg Prod.snd served).symm
  | onDate =>
    obtain ⟨_, served⟩ := replied
    exact (congrArg Prod.snd served).symm

theorem onDisk_insert {p : Proposal} {reply : Reply StoreError Booking}
    (replied : onDisk path (.insert p) tree reply after) :
    reply = .ofExcept (FileStore.insert path p tree).1 ∧
      after = (FileStore.insert path p tree).2 := by
  obtain ⟨_, served⟩ := replied
  exact ⟨(congrArg Prod.fst served).symm, (congrArg Prod.snd served).symm⟩

theorem onDisk_delete {ids : List BookingId} {reply : Reply StoreError (List BookingId)}
    (replied : onDisk path (.delete ids) tree reply after) :
    reply = .ofExcept (FileStore.delete path ids tree).1 ∧
      after = (FileStore.delete path ids tree).2 := by
  obtain ⟨_, served⟩ := replied
  exact ⟨(congrArg Prod.fst served).symm, (congrArg Prod.snd served).symm⟩

end Disk

namespace Engine

open Dialogue

inductive BookingEffect (path : Path) (tree : FileTree) :
    Except BookingError Booking → FileTree → Prop where
  | refused {e after} : after.content? path.place = tree.content? path.place →
      BookingEffect path tree (.error e) after
  | booked {document p after} :
      Document.ofContent (tree.content? path.place) = .ok document →
      after.content? path.place = some (document.accept p).text →
      BookingEffect path tree (.ok (p.booked ⟨document.lastId + 1⟩)) after

inductive CancelEffect (path : Path) (id : BookingId) (tree : FileTree) :
    Except BookingError Unit → FileTree → Prop where
  | refused {e after} : after.content? path.place = tree.content? path.place →
      CancelEffect path id tree (.error e) after
  | cancelled {document after} :
      Document.ofContent (tree.content? path.place) = .ok document →
      after.content? path.place = some (document.without [id]).text →
      CancelEffect path id tree (.ok ()) after

variable {path : Path} {tree after : FileTree} {timeout : Duration} {today : Date}

theorem insertProposal_onDisk {p : Proposal} {result : Except BookingError Booking}
    (run : Runs (onDisk path) (insertProposal timeout p) tree result after) :
    BookingEffect path tree result after := by
  rcases insertProposal_runs run with ⟨b, rfl, replied⟩ | ⟨e, reply, rfl, replied, unanswered⟩
  · obtain ⟨told, rfl⟩ := onDisk_insert replied
    rcases FileStore.insert_outcome path p tree with
      ⟨e, failed, _⟩ | ⟨document, held, _, taken, text⟩
    · rw [failed] at told
      cases told
    · rw [taken] at told
      cases told
      exact .booked held text
  · obtain ⟨rfl, rfl⟩ := onDisk_insert replied
    rcases FileStore.insert_outcome path p tree with ⟨_, _, same⟩ | ⟨_, _, _, taken, _⟩
    · exact .refused same
    · rw [taken] at unanswered
      exact absurd rfl (unanswered _)

theorem commit_onDisk {p : Proposal} {result : Except BookingError Booking}
    (run : Runs (onDisk path) (commit timeout today p) tree result after) :
    BookingEffect path tree result after := by
  rcases commit_runs onDisk_reads run with ⟨e, rfl, rfl⟩ | ⟨_, _, inserted⟩
  · exact .refused rfl
  · exact insertProposal_onDisk inserted

theorem commitText_onDisk {text : String} {result : Except BookingError Booking}
    (run : Runs (onDisk path) (commitText timeout today text) tree result after) :
    BookingEffect path tree result after := by
  rcases commitText_runs run with ⟨e, rfl, rfl⟩ | ⟨p, _, committed⟩
  · exact .refused rfl
  · exact commit_onDisk committed

theorem book_onDisk {enquiry : Enquiry} {result : Except BookingError Booking}
    (run : Runs (onDisk path) (book timeout today enquiry) tree result after) :
    BookingEffect path tree result after := by
  have reading : (matchSlot timeout today enquiry).Asks (·.changes = false) :=
    asks_matchSlot (fun _ h => h) timeout today enquiry
  rcases run.bind_cases with ⟨e, matched, rfl⟩ | ⟨p, t, matched, committed⟩
  · obtain rfl := matched.unchanged onDisk_reads reading
    exact .refused rfl
  · obtain rfl := matched.unchanged onDisk_reads reading
    exact commit_onDisk committed

theorem cancel_onDisk {id : BookingId} {result : Except BookingError Unit}
    (run : Runs (onDisk path) (cancel timeout id) tree result after) :
    CancelEffect path id tree result after := by
  rcases cancel_runs run with ⟨removed, replied, rfl⟩ | ⟨e, reply, rfl, replied, unanswered⟩
  · obtain ⟨told, rfl⟩ := onDisk_delete replied
    rcases FileStore.delete_outcome path [id] tree with
      ⟨⟨e, failed⟩ | none, same⟩ | ⟨document, held, some, taken, text⟩
    · rw [failed] at told
      cases told
    · rw [none] at told
      cases told
      exact .refused same
    · rw [taken] at told
      cases told
      -- what is removed is not empty and holds nothing but the number asked for
      obtain ⟨other, among⟩ := List.exists_mem_of_ne_nil _ some
      have named : other = id := List.mem_singleton.1 (Document.mem_present.1 among).1
      rw [named] at among
      rw [if_pos among]
      exact .cancelled held text
  · obtain ⟨rfl, rfl⟩ := onDisk_delete replied
    rcases FileStore.delete_outcome path [id] tree with ⟨_, same⟩ | ⟨_, _, _, taken, _⟩
    · exact .refused same
    · rw [taken] at unanswered
      exact absurd rfl (unanswered _)

end Engine

namespace Program

open Dialogue

variable {path : Path} {tree after : FileTree} {timeout : Duration} {surroundings : Surroundings}

/-- How an invocation may end, whatever the table directory replies: its outcome and the files
afterwards. -/
def Ends (words : List String) (surroundings : Surroundings) (tree : FileTree) (outcome : Outcome)
    (after : FileTree) : Prop :=
  match prepare words surroundings tree with
  | .error reported => outcome = reported ∧ after = tree
  | .ok job => ∃ result, Runs (onDisk job.bookings) job.dialogue tree result after ∧
      outcome = report result

theorem ends_run (words : List String) (surroundings : Surroundings) (fetch : TableService.Fetch)
    (tree : FileTree) :
    Ends words surroundings tree (run words surroundings fetch tree).1
      (run words surroundings fetch tree).2 := by
  unfold Ends run
  cases prepare words surroundings tree with
  | error reported => exact ⟨rfl, rfl⟩
  | ok job =>
    exact ⟨_, runs_run (fun call _ => onDisk_serving (directory job.tables fetch) call) _ _, rfl⟩

/-- The document at a path has got the printed booking at its end, under the next number. -/
def Appends (path : Path) (tree after : FileTree) (output : String) : Prop :=
  ∃ document changed booking, Document.ofContent (tree.content? path.place) = .ok document ∧
    Document.ofContent (after.content? path.place) = .ok changed ∧
    changed.bookings = document.bookings ++ [booking] ∧
    (document.lastId.toNat < 2 ^ 64 - 1 → changed.lastId.toNat = document.lastId.toNat + 1) ∧
    output = printed booking.toValue

/-- The document at a path has lost the bookings of a number and nothing else. -/
def Removes (path : Path) (id : BookingId) (tree after : FileTree) : Prop :=
  ∃ document changed, Document.ofContent (tree.content? path.place) = .ok document ∧
    Document.ofContent (after.content? path.place) = .ok changed ∧
    changed.bookings = document.bookings.filter (·.id ≠ id) ∧ changed.lastId = document.lastId

def Leaves (path : Path) (tree : FileTree) (outcome : Outcome) (after : FileTree) : Command → Prop
  | .propose _ | .list _ _ => after = tree
  | .book _ | .commit _ => outcome.exitCode = 0 → Appends path tree after outcome.output
  | .cancel id => outcome.exitCode = 0 → Removes path id tree after

/-- A failure leaves the document as it is, byte for byte. -/
def Spares (path : Path) (tree : FileTree) (outcome : Outcome) (after : FileTree) : Prop :=
  outcome.exitCode ≠ 0 → after.content? path.place = tree.content? path.place

theorem appends_of_effect {result : Except BookingError Booking}
    (effect : Engine.BookingEffect path tree result after) :
    let outcome := report (result.map fun b => printed b.toValue)
    Spares path tree outcome after ∧
      (outcome.exitCode = 0 → Appends path tree after outcome.output) := by
  cases effect with
  | @refused e _ same =>
    exact ⟨fun _ => same, fun succeeded => absurd succeeded e.exitCode_ne_zero⟩
  | @booked document p _ held text =>
    refine ⟨fun failed => absurd rfl failed, fun _ => ?_⟩
    refine ⟨document, document.accept p, p.booked ⟨document.lastId + 1⟩, held, ?_, rfl, ?_, rfl⟩
    · rw [text]
      exact Document.ofContent_text _
    · intro left
      change (document.lastId + 1).toNat = _
      rw [UInt64.toNat_add, UInt64.toNat_one]
      omega

theorem removes_of_effect {id : BookingId} {result : Except BookingError Unit} {text : String}
    (effect : Engine.CancelEffect path id tree result after) :
    let outcome := report (result.map fun _ => text)
    Spares path tree outcome after ∧ (outcome.exitCode = 0 → Removes path id tree after) := by
  cases effect with
  | @refused e _ same =>
    exact ⟨fun _ => same, fun succeeded => absurd succeeded e.exitCode_ne_zero⟩
  | @cancelled document _ held text =>
    refine ⟨fun failed => absurd rfl failed, fun _ => ?_⟩
    refine ⟨document, document.without [id], held, ?_, ?_, rfl⟩
    · rw [text]
      exact Document.ofContent_text _
    · exact List.filter_congr fun b _ => by simp

theorem asks_enquiring {P : Call → Prop} {enquiry : EnquiryArguments}
    {request : Enquiry → Dialogue String} (asks : ∀ e, (request e).Asks P) :
    (enquiring enquiry request).Asks P := by
  cases valid : enquiry.enquiry with
  | error rule =>
    rw [enquiring_of_error valid]
    trivial
  | ok e =>
    rw [enquiring_of_ok valid]
    exact asks e

theorem leaves_of_reading {d : Dialogue String} (asks : d.Asks (·.changes = false))
    {result : Except BookingError String} (run : Runs (onDisk path) d tree result after) :
    Spares path tree (report result) after ∧ after = tree := by
  obtain rfl := run.unchanged onDisk_reads asks
  exact ⟨fun _ => rfl, rfl⟩

theorem leaves_of_propose {arguments : EnquiryArguments} {result : Except BookingError String}
    (run : Runs (onDisk path) (enquiring arguments (proposing timeout surroundings.today)) tree
      result after) : Spares path tree (report result) after ∧ after = tree := by
  refine leaves_of_reading (asks_enquiring fun e => ?_) run
  exact asks_bind (Engine.asks_matchSlot (fun _ h => h) timeout _ e) fun _ => trivial

theorem leaves_of_book {arguments : EnquiryArguments} {result : Except BookingError String}
    (run : Runs (onDisk path) (enquiring arguments (booking timeout surroundings.today)) tree
      result after) :
    Spares path tree (report result) after ∧
      ((report result).exitCode = 0 → Appends path tree after (report result).output) := by
  cases valid : arguments.enquiry with
  | error rule =>
    rw [enquiring_of_error valid] at run
    cases run
    exact appends_of_effect (.refused rfl)
  | ok e =>
    rw [enquiring_of_ok valid] at run
    unfold booking at run
    obtain ⟨inner, booked, rfl⟩ := run.last_cases
    exact appends_of_effect (Engine.book_onDisk booked)

theorem leaves_of_commit {text : String} {result : Except BookingError String}
    (run : Runs (onDisk path) (committing timeout surroundings.today text) tree result after) :
    Spares path tree (report result) after ∧
      ((report result).exitCode = 0 → Appends path tree after (report result).output) := by
  unfold committing at run
  obtain ⟨inner, committed, rfl⟩ := run.last_cases
  exact appends_of_effect (Engine.commitText_onDisk committed)

/-- The dialogue of a command, led to its end on the files. -/
theorem leaves_of_dialogue {command : Command} {d : Dialogue String}
    (asked : dialogue command timeout surroundings tree = .ok d)
    {result : Except BookingError String} (run : Runs (onDisk path) d tree result after) :
    Spares path tree (report result) after ∧ Leaves path tree (report result) after command := by
  cases command with
  | propose arguments =>
    cases asked
    exact leaves_of_propose run
  | book arguments =>
    cases asked
    exact leaves_of_book run
  | commit source =>
    cases read : proposalText source surroundings.input tree with
    | error outcome =>
      simp only [dialogue, read] at asked
      cases asked
    | ok text =>
      simp only [dialogue, read] at asked
      cases asked
      exact leaves_of_commit run
  | cancel id =>
    cases asked
    obtain ⟨inner, cancelled, rfl⟩ := run.last_cases
    exact removes_of_effect (Engine.cancel_onDisk cancelled)
  | list venue date =>
    cases asked
    refine leaves_of_reading ?_ run
    exact asks_bind (Engine.asks_bookingsOn (fun _ h => h) timeout venue date) fun _ => trivial

/-- Every invocation leaves the bookings document as its end says. A command line that is not
accepted, help included, leaves all files. Of one that is, a failure leaves the document byte for
byte, proposing and listing leave all files, a booking is appended as it is printed, and a
cancellation takes out the bookings of its number. -/
theorem invocation_effect {words : List String} {outcome : Outcome}
    (ends : Ends words surroundings tree outcome after) :
    match Arguments.ofWords words with
    | .error _ => after = tree
    | .ok arguments =>
      let path := arguments.dataDirectory.join "bookings.json"
      Spares path tree outcome after ∧ Leaves path tree outcome after arguments.command := by
  cases accepted : Arguments.ofWords words with
  | error fault =>
    have prepared : prepare words surroundings tree = .error (misused fault) := by
      rw [prepare, accepted]
      rfl
    rw [Ends, prepared] at ends
    exact ends.2
  | ok arguments =>
    dsimp only
    cases prepared : prepare words surroundings tree with
    | error reported =>
      rw [Ends, prepared] at ends
      obtain ⟨rfl, rfl⟩ := ends
      obtain ⟨code, -⟩ := aborts_prepare accepted outcome prepared
      have failed : outcome.exitCode ≠ 0 := by
        rw [code]
        exact Nat.one_ne_zero
      refine ⟨fun _ => rfl, ?_⟩
      cases arguments.command with
      | propose => rfl
      | list => rfl
      | book => exact fun succeeded => absurd succeeded failed
      | commit => exact fun succeeded => absurd succeeded failed
      | cancel => exact fun succeeded => absurd succeeded failed
    | ok job =>
      rw [Ends, prepared] at ends
      obtain ⟨result, run, rfl⟩ := ends
      obtain ⟨asked, place⟩ := prepare_eq_ok accepted prepared
      rw [place] at run
      exact leaves_of_dialogue asked run

/-- A table for two is booked where no document is there yet. -/
theorem supper_appended :
    let words := ["--data-dir", "d", "book"] ++ supperWords
    let tree : FileTree := .sample
    let surroundings : Surroundings := ⟨fun _ => none, [], Proposal.supper.date⟩
    let ended := run words surroundings (fun _ => none) tree
    Ends words surroundings tree ended.1 ended.2 ∧ ended.1.exitCode = 0 ∧
      Appends (Path.join ⟨"d"⟩ "bookings.json") tree ended.2 ended.1.output := by
  intro words tree surroundings ended
  have ends : Ends words surroundings tree ended.1 ended.2 := ends_run ..
  have accepted : Arguments.ofWords words = .ok _ := rfl
  have effect := invocation_effect ends
  rw [accepted] at effect
  have succeeded : ended.1.exitCode = 0 := by
    unfold ended run prepare dialogue Engine.book Engine.matchSlot Engine.findTables candidates
    simp only [dropRepeats_eq]
    decide +kernel
  exact ⟨ends, succeeded, effect.2 succeeded⟩

end Program

end TableBooking
