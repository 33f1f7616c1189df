import TableBooking.Booking
import TableBooking.Calendar.Reader
import TableBooking.CommandLine.Reader
import TableBooking.Decimal.Natural
import TableBooking.Files.Path

/-!
The command line of the program: what is to be done, and with which data and settings.
-/
namespace TableBooking

open CommandLine

structure EnquiryArguments where
  venue : String
  customer : String
  party : UInt32
  date : Date
  startsAt : TimeOfDay
  endsAt : TimeOfDay
  deriving DecidableEq

def EnquiryArguments.enquiry (a : EnquiryArguments) : Except Rule Enquiry := do
  let window ← Window.make ⟨a.date, a.startsAt⟩ ⟨a.date, a.endsAt⟩
  pure {
    venue := ⟨a.venue⟩
    customer := ⟨a.customer⟩
    partySize := a.party
    date := a.date
    window }

inductive Command where
  | propose (enquiry : EnquiryArguments)
  | book (enquiry : EnquiryArguments)
  /-- Book a proposal that is in a file, or comes in where the source is a hyphen. -/
  | commit (source : String)
  | cancel (booking : BookingId)
  | list (venue : VenueId) (date : Date)
  deriving DecidableEq

structure Arguments where
  /-- The settings file; without one the environment has the settings. -/
  config : Option Path := none
  dataDirectory : Path := ⟨"./data"⟩
  timeoutMs : Option UInt64 := none
  verbose : Bool := false
  jsonLogs : Bool := false
  command : Command
  deriving DecidableEq

namespace Arguments

abbrev ValueReader (α : Type) := String → Except UsageFault α

def accept {ε α : Type} : Except ε α → Except UsageFault α
  | .ok value => .ok value
  | .error _ => .error .invalidValue

def anyText : ValueReader String := .ok

def path : ValueReader Path := fun s =>
  if s.isEmpty then .error .missingValue else .ok ⟨s⟩

def large : ValueReader UInt64 := fun s =>
  (accept (Decimal.readNatural UInt64.size s)).map Nat.toUInt64

/-- A number of 32 bits, which may also be written as minus zero. -/
def small : ValueReader UInt32 := fun s =>
  match s.toList with
  | '-' :: c :: digits => (accept (Decimal.appendDigits 1 0 (c :: digits))).map Nat.toUInt32
  | _ => (accept (Decimal.readNatural UInt32.size s)).map Nat.toUInt32

def date : ValueReader Date := fun s => accept (Calendar.readDate s)

def time : ValueReader TimeOfDay := fun s => accept (Calendar.readClockTime s)

def valued {Draft α : Type} (long : String) (short : Option Char) (valueName : String)
    (get : Draft → Option α) (put : Draft → α → Draft) (value : ValueReader α) :
    Parameter Draft where
  long
  short
  valueName := some valueName
  isSet draft := (get draft).isSome
  set draft s := (value s).map (put draft)

def switch {Draft : Type} (long : String) (short : Option Char) (get : Draft → Bool)
    (put : Draft → Draft) : Parameter Draft where
  long
  short
  isSet := get
  set draft _ := .ok (put draft)

def need {α : Type} : Option α → Except UsageFault α
  | some value => .ok value
  | none => .error .missingArgument

structure CommonDraft where
  config : Option Path := none
  dataDirectory : Option Path := none
  timeoutMs : Option UInt64 := none
  verbose : Bool := false
  jsonLogs : Bool := false
  deriving DecidableEq

def commonParameters : List (Parameter CommonDraft) :=
  [ valued "config" (some 'c') "CONFIG" CommonDraft.config
      (fun d v => { d with config := some v }) path,
    valued "data-dir" none "DATA_DIR" CommonDraft.dataDirectory
      (fun d v => { d with dataDirectory := some v }) path,
    valued "timeout-ms" none "TIMEOUT_MS" CommonDraft.timeoutMs
      (fun d v => { d with timeoutMs := some v }) large,
    switch "verbose" (some 'v') CommonDraft.verbose fun d => { d with verbose := true },
    switch "json-logs" none CommonDraft.jsonLogs fun d => { d with jsonLogs := true } ]

/-- What stands behind a command; a command uses some of it. -/
structure CommandDraft where
  venue : Option String := none
  customer : Option String := none
  party : Option UInt32 := none
  date : Option Date := none
  startsAt : Option TimeOfDay := none
  endsAt : Option TimeOfDay := none
  proposal : Option String := none
  id : Option UInt64 := none

def venueParameter : Parameter CommandDraft :=
  valued "venue" none "VENUE" CommandDraft.venue (fun d v => { d with venue := some v }) anyText

def dateParameter : Parameter CommandDraft :=
  valued "date" none "DATE" CommandDraft.date (fun d v => { d with date := some v }) date

def enquiryParameters : List (Parameter CommandDraft) :=
  [ venueParameter,
    valued "customer" none "CUSTOMER" CommandDraft.customer
      (fun d v => { d with customer := some v }) anyText,
    valued "party" none "PARTY" CommandDraft.party (fun d v => { d with party := some v }) small,
    dateParameter,
    valued "from" none "FROM" CommandDraft.startsAt (fun d v => { d with startsAt := some v }) time,
    valued "to" none "TO" CommandDraft.endsAt (fun d v => { d with endsAt := some v }) time ]

def CommandDraft.enquiry (d : CommandDraft) : Except UsageFault EnquiryArguments := do
  pure {
    venue := ← need d.venue
    customer := ← need d.customer
    party := ← need d.party
    date := ← need d.date
    startsAt := ← need d.startsAt
    endsAt := ← need d.endsAt }

structure CommandForm where
  name : String
  parameters : List (Parameter CommandDraft)
  finish : CommandDraft → Except UsageFault Command

def commandForms : List CommandForm :=
  [ { name := "match", parameters := enquiryParameters,
      finish := fun d => d.enquiry.map Command.propose },
    { name := "book", parameters := enquiryParameters,
      finish := fun d => d.enquiry.map Command.book },
    { name := "commit",
      parameters := [ valued "proposal" none "PROPOSAL" CommandDraft.proposal
        (fun d v => { d with proposal := some v }) anyText ],
      finish := fun d => .ok (.commit (d.proposal.getD "-")) },
    { name := "cancel",
      parameters := [ valued "id" none "ID" CommandDraft.id
        (fun d v => { d with id := some v }) large ],
      finish := fun d => do pure (.cancel ⟨← need d.id⟩) },
    { name := "list", parameters := [venueParameter, dateParameter],
      finish := fun d => do pure (.list ⟨← need d.venue⟩ (← need d.date)) } ]

def commonGrammar : Grammar CommonDraft where
  parameters := commonParameters
  commands := commandForms.map (·.name)

def readCommand (form : CommandForm) (words : List String) : Except UsageFault Command := do
  let (p, _) ← readWords { parameters := form.parameters } { draft := ({} : CommandDraft) } words
  form.finish (← p.settle)

/-- Reads the words of a command line. The command is judged before the last parameter that stands
in front of it. -/
def ofWords (words : List String) : Except UsageFault Arguments := do
  let (p, rest) ← readWords commonGrammar { draft := ({} : CommonDraft) } words
  match rest with
  | none =>
    let draft ← p.settle
    throw (if draft = {} then .nothingGiven else .missingCommand)
  | some (name, words) =>
    match commandForms.find? (·.name = name) with
    | none => throw .unknownCommand
    | some form =>
      let command ← readCommand form words
      let draft ← p.settle
      pure {
        config := draft.config
        dataDirectory := draft.dataDirectory.getD ⟨"./data"⟩
        timeoutMs := draft.timeoutMs
        verbose := draft.verbose
        jsonLogs := draft.jsonLogs
        command }

end Arguments

end TableBooking
