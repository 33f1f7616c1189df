import TableBooking.Program
import TableBooking.Proofs.Engine.Stages
import TableBooking.Proofs.Wire.Printed

/-!
An invocation taken apart: the dialogues that commands print from, what is read before a collaborator
is asked, and how it is reported when that fails.
-/
namespace TableBooking

theorem BookingError.exitCode_ne_zero (e : BookingError) : e.exitCode ≠ 0 := by
  cases e <;> exact Nat.succ_ne_zero _

namespace Program

/-- Where this ends an invocation, nothing is printed and the exit code is that of a failure to read
something. -/
def Aborts {α : Type} (read : Except Outcome α) : Prop :=
  ∀ outcome, read = .error outcome → outcome.exitCode = 1 ∧ outcome.output = ""

section Reading

variable {α β : Type}

theorem aborts_ok (value : α) : Aborts (.ok value : Except Outcome α) := by
  rintro outcome ⟨⟩

theorem aborts_failed (context cause : String) :
    Aborts (.error (failed context cause) : Except Outcome α) := by
  rintro outcome ⟨⟩
  exact ⟨rfl, rfl⟩

theorem aborts_bind {read : Except Outcome α} {next : α → Except Outcome β} (first : Aborts read)
    (second : ∀ value, Aborts (next value)) : Aborts (read >>= next) := by
  intro outcome ended
  cases read with
  | error o =>
    cases ended
    exact first outcome rfl
  | ok value => exact second value outcome ended

end Reading

def proposing (timeout : Duration) (today : Date) (e : Enquiry) : Dialogue String := do
  let proposal ← Engine.matchSlot timeout today e
  pure (printed proposal.toValue)

def booking (timeout : Duration) (today : Date) (e : Enquiry) : Dialogue String := do
  let booking ← Engine.book timeout today e
  pure (printed booking.toValue)

def committing (timeout : Duration) (today : Date) (text : String) : Dialogue String := do
  let booking ← Engine.commitText timeout today text
  pure (printed booking.toValue)

theorem enquiring_of_error {α : Type} {enquiry : EnquiryArguments} {rule : Rule}
    (h : enquiry.enquiry = .error rule) (request : Enquiry → Dialogue α) :
    enquiring enquiry request = .refused (.invalidRequest rule) := by
  unfold enquiring
  rw [h]

theorem enquiring_of_ok {α : Type} {enquiry : EnquiryArguments} {e : Enquiry}
    (h : enquiry.enquiry = .ok e)
    (request : Enquiry → Dialogue α) : enquiring enquiry request = request e := by
  unfold enquiring
  rw [h]

variable (arguments : Arguments) (environment : Placeholder.Variables) (tree : FileTree)

theorem aborts_checkedSettings : Aborts (checkedSettings arguments environment tree) := by
  refine aborts_bind ?_ ?_
  · unfold settings
    split
    · split
      · exact aborts_ok _
      · exact aborts_failed _ _
    · split
      · exact aborts_ok _
      · exact aborts_failed _ _
  · intro settings
    dsimp only
    split
    · exact aborts_ok _
    · rintro outcome ⟨⟩
      exact ⟨rfl, rfl⟩

theorem aborts_tableSource (settings : Settings) (dataDirectory : Path) :
    Aborts (tableSource settings dataDirectory tree) := by
  unfold tableSource
  split
  · exact aborts_ok _
  · dsimp only
    split
    · exact aborts_failed _ _
    · split
      · exact aborts_ok _
      · exact aborts_failed _ _

theorem aborts_proposalText (source : String) (input : Json.Bytes) :
    Aborts (proposalText source input tree) := by
  unfold proposalText
  split
  · split
    · exact aborts_ok _
    · exact aborts_failed _ _
  · dsimp only
    split
    · exact aborts_failed _ _
    · split
      · exact aborts_ok _
      · exact aborts_failed _ _

def basis : Except Outcome (Settings × TableSource) := do
  let settings ← checkedSettings arguments environment tree
  let tables ← tableSource settings arguments.dataDirectory tree
  pure (settings, tables)

theorem aborts_basis : Aborts (basis arguments environment tree) := by
  refine aborts_bind (aborts_checkedSettings arguments environment tree) ?_
  intro settings
  refine aborts_bind (aborts_tableSource tree settings _) ?_
  intro tables
  exact aborts_ok _

theorem aborts_dialogue (command : Command) (timeout : Duration) (surroundings : Surroundings) :
    Aborts (dialogue command timeout surroundings tree) := by
  cases command with
  | commit source =>
    refine aborts_bind (aborts_proposalText tree source _) ?_
    intro text
    exact aborts_ok _
  | _ => exact aborts_ok _

variable {arguments : Arguments} {words : List String} {surroundings : Surroundings}
  {tree : FileTree}

def assigned (arguments : Arguments) (surroundings : Surroundings) (tree : FileTree)
    (basis : Settings × TableSource) : Except Outcome Job := do
  let dialogue ← dialogue arguments.command basis.1.callTimeout surroundings tree
  pure {
    timeout := basis.1.callTimeout
    tables := basis.2
    bookings := arguments.dataDirectory.join "bookings.json"
    dialogue }

theorem prepare_accepted (accepted : Arguments.ofWords words = .ok arguments) :
    prepare words surroundings tree =
      basis arguments surroundings.environment tree >>= assigned arguments surroundings tree := by
  unfold prepare basis
  rw [accepted]
  simp only [bind_assoc, pure_bind]
  rfl

theorem aborts_prepare (accepted : Arguments.ofWords words = .ok arguments) :
    Aborts (prepare words surroundings tree) := by
  rw [prepare_accepted accepted]
  refine aborts_bind (aborts_basis arguments _ tree) ?_
  intro basis
  refine aborts_bind (aborts_dialogue tree _ _ _) ?_
  intro dialogue
  exact aborts_ok _

theorem prepare_eq_ok (accepted : Arguments.ofWords words = .ok arguments) {job : Job}
    (prepared : prepare words surroundings tree = .ok job) :
    dialogue arguments.command job.timeout surroundings tree = .ok job.dialogue ∧
      job.bookings = arguments.dataDirectory.join "bookings.json" := by
  rw [prepare_accepted accepted] at prepared
  cases based : basis arguments surroundings.environment tree with
  | error outcome =>
    rw [based] at prepared
    cases prepared
  | ok basis =>
    rw [based] at prepared
    change assigned arguments surroundings tree basis = _ at prepared
    unfold assigned at prepared
    cases asked : dialogue arguments.command basis.1.callTimeout surroundings tree with
    | error outcome =>
      rw [asked] at prepared
      cases prepared
    | ok d =>
      rw [asked] at prepared
      cases prepared
      exact ⟨asked, rfl⟩

end Program

/-- A data directory with one table for two and no bookings yet. -/
def FileTree.sample : FileTree :=
  ⟨[(⟨false, ["d"]⟩, .directory),
    (⟨false, ["d", "tables.json"]⟩, .file (Json.utf8
      "\x7b\"hop-and-vine\":[\x7b\"id\":1,\"name\":\"window\",\"capacity\":2\x7d]\x7d"))]⟩

def Program.supperWords : List String :=
  ["--venue", "hop-and-vine", "--customer", "test@test.test", "--party", "2",
    "--date", "2024-06-01", "--from", "18:00", "--to", "20:00"]

end TableBooking
