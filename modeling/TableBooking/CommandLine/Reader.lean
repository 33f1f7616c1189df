/-!
Reading the words of a command line. Words are taken from left to right; a parameter that takes a
value waits for it, and the value is looked at only when the next parameter comes or the words end.
The first word that does not fit decides the fault.
-/
namespace TableBooking.CommandLine

inductive UsageFault where
  | unknownArgument
  | unknownCommand
  /-- A parameter without its value, or with an empty one where that is no value. -/
  | missingValue
  | invalidValue
  | repeated
  | unexpectedValue
  | missingArgument
  | missingCommand
  | nothingGiven
  | helpRequested
  deriving DecidableEq

structure Parameter (Draft : Type) where
  long : String
  short : Option Char := none
  /-- What the value has to be; nothing for a parameter that is on when it is there. -/
  valueName : Option String := none
  isSet : Draft → Bool
  set : Draft → String → Except UsageFault Draft

structure Grammar (Draft : Type) where
  parameters : List (Parameter Draft)
  commands : List String := []

/-- How far the words are read: the draft so far, and the parameter whose value is not in it yet,
with the value if that has come. -/
structure Progress (Draft : Type) where
  draft : Draft
  pending : Option (Parameter Draft × Option String) := none
  /-- Whether the words that end all parameters have come. -/
  onlyWords : Bool := false

variable {Draft : Type}

namespace Progress

def awaitsValue (p : Progress Draft) : Bool :=
  match p.pending with
  | some (_, none) => true
  | _ => false

def give (draft : Draft) (parameter : Parameter Draft) (value : String) :
    Except UsageFault Draft :=
  if parameter.isSet draft then .error .repeated else parameter.set draft value

def settle (p : Progress Draft) : Except UsageFault Draft :=
  match p.pending with
  | none => .ok p.draft
  | some (_, none) => .error .missingValue
  | some (parameter, some value) => give p.draft parameter value

/-- Takes up a parameter, with the value that its word brings along, if any. -/
def takeUp (p : Progress Draft) (parameter : Parameter Draft) (attached : Option String) :
    Except UsageFault (Progress Draft) := do
  let draft ← p.settle
  match parameter.valueName, attached with
  | some _, none => pure { p with draft, pending := some (parameter, none) }
  | _, attached =>
    pure { p with draft := ← give draft parameter (attached.getD ""), pending := none }

/-- Asks for help, unless what was pending is at fault. -/
def help (p : Progress Draft) : Except UsageFault (Progress Draft) := do
  let _ ← p.settle
  throw .helpRequested

end Progress

inductive Word where
  | escape
  | long (name : String) (value : Option String)
  | short (letters : List Char)
  | plain

def Word.ofText (word : String) : Word :=
  match word.toList with
  | ['-', '-'] => .escape
  | '-' :: '-' :: rest =>
    let name := rest.takeWhile (· != '=')
    match rest.drop name.length with
    | [] => .long (String.ofList name) none
    | _ :: value => .long (String.ofList name) (some (String.ofList value))
  | '-' :: c :: rest => .short (c :: rest)
  | _ => .plain

def readLong (grammar : Grammar Draft) (p : Progress Draft) (name : String)
    (value : Option String) : Except UsageFault (Progress Draft) :=
  if name = "help" then if value.isSome then .error .unexpectedValue else p.help
  else
    match grammar.parameters.find? (·.long = name) with
    | none => .error .unknownArgument
    | some parameter =>
      if parameter.valueName.isNone ∧ value.isSome then .error .unexpectedValue
      else p.takeUp parameter value

/-- Parameters given by letters. The first of them that takes a value takes the rest of the word,
less an equals sign at its head. -/
def readShort (grammar : Grammar Draft) : Progress Draft → List Char →
    Except UsageFault (Progress Draft)
  | p, [] => .ok p
  | p, c :: rest =>
    if c = 'h' then p.help
    else
      match grammar.parameters.find? (·.short = some c) with
      | none => .error .unknownArgument
      | some parameter =>
        if parameter.valueName.isSome then
          p.takeUp parameter
            (match rest with
            | [] => none
            | '=' :: value => some (String.ofList value)
            | value => some (String.ofList value))
        else do
          let p ← p.takeUp parameter none
          readShort grammar p rest

def strayWord {α : Type} (grammar : Grammar Draft) (p : Progress Draft) (word : String) :
    Except UsageFault α :=
  if p.onlyWords ∧ (grammar.commands.contains word ∨ (grammar.commands ≠ [] ∧ word = "help")) then
    .error .unknownArgument
  else if grammar.commands = [] then .error .unknownArgument
  else .error .unknownCommand

/-- Help about commands: each word must be a command, and only the first has commands below it. -/
def helpAbout {α : Type} (grammar : Grammar Draft) : List String → Except UsageFault α
  | [] => .error .helpRequested
  | [word] =>
    if grammar.commands.contains word ∨ word = "help" then .error .helpRequested
    else .error .unknownCommand
  | _ => .error .unknownCommand

/-- Reads words up to a command, which is given back with the words behind it. -/
def readWords (grammar : Grammar Draft) :
    Progress Draft → List String →
      Except UsageFault (Progress Draft × Option (String × List String))
  | p, [] => .ok (p, none)
  | p, word :: rest =>
    if p.onlyWords then strayWord grammar p word
    else if !p.awaitsValue && grammar.commands.contains word then .ok (p, some (word, rest))
    else if !p.awaitsValue && grammar.commands ≠ [] && word = "help" then helpAbout grammar rest
    else
      match Word.ofText word with
      | .escape => readWords grammar { p with onlyWords := true } rest
      | .long name value =>
        match readLong grammar p name value with
        | .error fault => .error fault
        | .ok p => readWords grammar p rest
      | .short letters =>
        match readShort grammar p letters with
        | .error fault => .error fault
        | .ok p => readWords grammar p rest
      | .plain =>
        match p.pending with
        | some (parameter, none) =>
          readWords grammar { p with pending := some (parameter, some word) } rest
        | _ => strayWord grammar p word

end TableBooking.CommandLine
