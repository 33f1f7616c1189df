import TableBooking.CommandLine.Arguments

/-!
The words of a command line around the name of its command. What stands before the name is read the
same way whichever command follows, and two commands with the same parameters read what stands
behind it the same way.
-/
namespace TableBooking

namespace CommandLine

variable {Draft : Type} {grammar : Grammar Draft} {p q : Progress Draft}

def readWord (grammar : Grammar Draft) (p : Progress Draft) (word : String) :
    Except UsageFault (Progress Draft) :=
  match Word.ofText word with
  | .escape => .ok { p with onlyWords := true }
  | .long name value => readLong grammar p name value
  | .short letters => readShort grammar p letters
  | .plain =>
    match p.pending with
    | some (parameter, none) => .ok { p with pending := some (parameter, some word) }
    | _ => strayWord grammar p word

theorem strayWord_bind {α β : Type} (word : String) (f : α → Except UsageFault β) :
    (strayWord grammar p word >>= f) = strayWord grammar p word := by
  unfold strayWord
  split
  · rfl
  · split <;> rfl

theorem readWords_cons (word : String) (rest : List String) :
    readWords grammar p (word :: rest) =
      if p.onlyWords then strayWord grammar p word
      else if !p.awaitsValue && grammar.commands.contains word then .ok (p, some (word, rest))
      else if !p.awaitsValue && grammar.commands ≠ [] && word = "help" then helpAbout grammar rest
      else readWord grammar p word >>= fun q => readWords grammar q rest := by
  rw [readWords]
  by_cases only : p.onlyWords
  · rw [if_pos only, if_pos only]
  · rw [if_neg only, if_neg only]
    by_cases command : !p.awaitsValue && grammar.commands.contains word
    · rw [if_pos command, if_pos command]
    · rw [if_neg command, if_neg command]
      by_cases help : !p.awaitsValue && grammar.commands ≠ [] && word = "help"
      · rw [if_pos help, if_pos help]
      · rw [if_neg help, if_neg help]
        unfold readWord
        cases Word.ofText word with
        | escape => rfl
        | long name value =>
          dsimp only
          cases readLong grammar p name value <;> rfl
        | short letters =>
          dsimp only
          cases readShort grammar p letters <;> rfl
        | plain =>
          dsimp only
          rcases p.pending with _ | ⟨_, _ | _⟩
          · exact (strayWord_bind word _).symm
          · rfl
          · exact (strayWord_bind word _).symm

theorem strayWord_ne_ok {α : Type} (word : String) (value : α) :
    strayWord grammar p word ≠ .ok value := by
  unfold strayWord
  split
  · simp
  · split <;> simp

theorem helpAbout_ne_ok {α : Type} (words : List String) (value : α) :
    helpAbout grammar words ≠ .ok value := by
  unfold helpAbout
  split
  · simp
  · split <;> simp
  · simp

/-- Reading goes on where it stopped. -/
theorem readWords_append {front : List String} (h : readWords grammar p front = .ok (q, none))
    (back : List String) : readWords grammar p (front ++ back) = readWords grammar q back := by
  induction front generalizing p with
  | nil =>
    cases h
    rfl
  | cons word front ih =>
    rw [readWords_cons] at h
    rw [List.cons_append, readWords_cons]
    by_cases only : p.onlyWords
    · rw [if_pos only] at h
      exact absurd h (strayWord_ne_ok _ _)
    · rw [if_neg only] at h ⊢
      by_cases command : !p.awaitsValue && grammar.commands.contains word
      · rw [if_pos command] at h
        cases h
      · rw [if_neg command] at h ⊢
        by_cases help : !p.awaitsValue && grammar.commands ≠ [] && word = "help"
        · rw [if_pos help] at h
          exact absurd h (helpAbout_ne_ok _ _)
        · rw [if_neg help] at h ⊢
          cases read : readWord grammar p word with
          | error fault =>
            rw [read] at h
            cases h
          | ok next =>
            rw [read] at h
            exact ih h

end CommandLine

namespace Arguments

open CommandLine

/-- Words that set parameters of the program and wait for no value. -/
def Common (words : List String) (p : Progress CommonDraft) : Prop :=
  readWords commonGrammar { draft := {} } words = .ok (p, none) ∧ p.awaitsValue = false

def ofDraft (draft : CommonDraft) (command : Command) : Arguments where
  config := draft.config
  dataDirectory := draft.dataDirectory.getD ⟨"./data"⟩
  timeoutMs := draft.timeoutMs
  verbose := draft.verbose
  jsonLogs := draft.jsonLogs
  command

variable {common words : List String} {p : Progress CommonDraft} {form : CommandForm}
  {arguments : Arguments}

theorem readWords_command (h : Common common p) (known : form ∈ commandForms) :
    readWords commonGrammar { draft := {} } (common ++ form.name :: words) =
      if p.onlyWords then strayWord commonGrammar p form.name
      else .ok (p, some (form.name, words)) := by
  have isCommand : commonGrammar.commands.contains form.name = true :=
    List.contains_iff_mem.2 (List.mem_map_of_mem known)
  rw [readWords_append h.1, readWords_cons, h.2, isCommand]
  rfl

theorem find?_commandForms (known : form ∈ commandForms) :
    commandForms.find? (·.name = form.name) = some form := by
  simp only [commandForms, List.mem_cons, List.not_mem_nil, or_false] at known
  rcases known with rfl | rfl | rfl | rfl | rfl <;> rfl

/-- A command line is accepted when its command is, and then the last of the common parameters. -/
theorem ofWords_command (h : Common common p) (known : form ∈ commandForms) :
    ofWords (common ++ form.name :: words) = .ok arguments ↔
      p.onlyWords = false ∧ ∃ command draft, readCommand form words = .ok command ∧
        p.settle = .ok draft ∧ arguments = ofDraft draft command := by
  unfold ofWords
  rw [readWords_command h known]
  by_cases only : p.onlyWords
  · rw [if_pos only, strayWord_bind]
    exact iff_of_false (strayWord_ne_ok _ _) (by simp [only])
  · rw [if_neg only]
    dsimp only [Bind.bind, Except.bind]
    rw [find?_commandForms known]
    dsimp only
    cases readCommand form words with
    | error fault => exact iff_of_false nofun (by simp)
    | ok command =>
      cases p.settle with
      | error fault => exact iff_of_false nofun (by simp)
      | ok draft =>
        constructor
        · rintro ⟨⟩
          exact ⟨Bool.eq_false_iff.2 only, command, draft, rfl, rfl, rfl⟩
        · rintro ⟨-, _, _, ⟨⟩, ⟨⟩, rfl⟩
          rfl

def enquiryForm (name : String) (request : EnquiryArguments → Command) : CommandForm where
  name
  parameters := enquiryParameters
  finish d := d.enquiry.map request

def readEnquiry (words : List String) : Except UsageFault EnquiryArguments := do
  let (p, _) ← readWords { parameters := enquiryParameters } { draft := ({} : CommandDraft) } words
  (← p.settle).enquiry

theorem readCommand_enquiryForm (name : String) (request : EnquiryArguments → Command) :
    readCommand (enquiryForm name request) words = (readEnquiry words).map request := by
  unfold readCommand readEnquiry
  dsimp only [enquiryForm]
  cases readWords { parameters := enquiryParameters } { draft := ({} : CommandDraft) } words with
  | error fault => rfl
  | ok value =>
    obtain ⟨p, rest⟩ := value
    change (p.settle >>= fun d => d.enquiry.map request) =
      (p.settle >>= CommandDraft.enquiry).map request
    cases p.settle <;> rfl

def commitForm : CommandForm where
  name := "commit"
  parameters := [valued "proposal" none "PROPOSAL" CommandDraft.proposal
    (fun d v => { d with proposal := some v }) anyText]
  finish d := .ok (.commit (d.proposal.getD "-"))

theorem readCommand_commitForm :
    readCommand commitForm ["--proposal", "-"] = .ok (.commit "-") := by
  rfl

/-- Where a command line that books an enquiry is accepted, so are the one that proposes a table for
it and the one that books a proposal from standard input, with the same common parameters. -/
theorem ofWords_book (h : Common common p)
    (accepted : ofWords (common ++ "book" :: words) = .ok arguments) :
    ∃ enquiry, arguments.command = .book enquiry ∧
      ofWords (common ++ "match" :: words) = .ok { arguments with command := .propose enquiry } ∧
      ofWords (common ++ ["commit", "--proposal", "-"]) =
        .ok { arguments with command := .commit "-" } := by
  have books : enquiryForm "book" Command.book ∈ commandForms := by
    simp [commandForms, enquiryForm]
  have proposes : enquiryForm "match" Command.propose ∈ commandForms := by
    simp [commandForms, enquiryForm]
  have commits : commitForm ∈ commandForms := by
    simp [commandForms, commitForm]
  obtain ⟨only, command, draft, read, settled, rfl⟩ := (ofWords_command h books).1 accepted
  rw [readCommand_enquiryForm] at read
  cases enquired : readEnquiry words with
  | error fault =>
    rw [enquired] at read
    cases read
  | ok enquiry =>
    rw [enquired] at read
    cases read
    refine ⟨enquiry, rfl, ?_, ?_⟩
    · refine (ofWords_command h proposes).2 ⟨only, .propose enquiry, draft, ?_, settled, rfl⟩
      rw [readCommand_enquiryForm, enquired]
      rfl
    · exact (ofWords_command h commits).2
        ⟨only, .commit "-", draft, readCommand_commitForm, settled, rfl⟩

end Arguments

end TableBooking
