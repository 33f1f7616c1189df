import TableBooking.Toml.Document

/-!
Reading TOML documents. A document is read into its statements, line by line, and these build its
tables. Values may nest to a fixed depth.
-/
namespace TableBooking.Toml

/-- The deepest nesting of arrays and tables written as values. -/
def maxDepth : Nat := 80

def dropComment? : List Char → Option (List Char)
  | '#' :: rest =>
    let rest := rest.dropWhile isPlain
    if rest = [] ∨ (lineBreak? rest).isSome then some rest else none
  | rest => some rest

/-- Passes over blanks, comments and line breaks. `fuel` bounds the number of lines. -/
def dropLines? : Nat → List Char → Option (List Char)
  | 0, _ => none
  | fuel + 1, s => do
    let rest ← dropComment? (dropBlanks s)
    match lineBreak? rest with
    | some (_, rest) => dropLines? fuel rest
    | none => some rest

def dropGap? (s : List Char) : Option (List Char) :=
  dropLines? (s.length + 1) s

def isBareKeyChar (c : Char) : Bool :=
  c.isAlphanum || c = '_' || c = '-'

def simpleKey? (s : List Char) : Option (String × List Char) :=
  match s with
  | [] => none
  | c :: _ =>
    if c = '"' ∨ c.toNat = 0x27 then shortText? s
    else
      let key := s.takeWhile isBareKeyChar
      if key = [] then none else some (String.ofList key, s.drop key.length)

def keyPath? : Nat → Reader (List String)
  | 0, _ => none
  | fuel + 1, s => do
    let (key, rest) ← simpleKey? (dropBlanks s)
    match dropBlanks rest with
    | '.' :: rest => do
      let (path, rest) ← keyPath? fuel rest
      some (key :: path, rest)
    | rest => some ([key], rest)

def path? (s : List Char) : Option (List String × List Char) :=
  keyPath? (s.length + 1) s

mutual

/-- A value. `fuel` bounds the characters, `depth` the nesting below. -/
def readValue : Nat → Nat → Reader Value
  | 0, _, _ => none
  | _ + 1, _, [] => none
  | fuel + 1, depth, c :: rest =>
    if c = '"' ∨ c.toNat = 0x27 then
      (text? (c :: rest)).map fun (t, rest) => (.text t, rest)
    else if c = '[' then
      if depth = 0 then none
      else (readItems fuel (depth - 1) rest).map fun (items, rest) => (.array false items, rest)
    else if c = '{' then
      if depth = 0 then none
      else do
        let (members, rest) ← readMembers fuel (depth - 1) rest
        let value ← inlineTable? members
        some (value, rest)
    else (scalar? (c :: rest)).map fun (v, rest) => (.scalar v, rest)

def readItems : Nat → Nat → Reader (List Value)
  | 0, _, _ => none
  | fuel + 1, depth, s => do
    match ← dropGap? s with
    | ']' :: rest => some ([], rest)
    | s => do
      let (value, rest) ← readValue fuel depth s
      match ← dropGap? rest with
      | ']' :: rest => some ([value], rest)
      | ',' :: rest => do
        let (values, rest) ← readItems fuel depth rest
        some (value :: values, rest)
      | _ => none

def readMembers : Nat → Nat → Reader (List (List String × Value))
  | 0, _, _ => none
  | fuel + 1, depth, s => do
    match ← dropGap? s with
    | '}' :: rest => some ([], rest)
    | s => do
      let (path, rest) ← path? s
      match rest with
      | '=' :: rest => do
        let (value, rest) ← readValue fuel depth (dropBlanks rest)
        match ← dropGap? rest with
        | '}' :: rest => some ([(path, value)], rest)
        | ',' :: rest => do
          let (members, rest) ← readMembers fuel depth rest
          some ((path, value) :: members, rest)
        | _ => none
      | _ => none

end

def endLine? (s : List Char) : Option (List Char) := do
  let rest ← dropComment? (dropBlanks s)
  match lineBreak? rest with
  | some (_, rest) => some rest
  | none => if rest = [] then some [] else none

def readStatement (s : List Char) : Option (Statement × List Char) :=
  match s with
  | '[' :: '[' :: rest => do
    let (path, rest) ← path? rest
    match rest with
    | ']' :: ']' :: rest => some (.arrayHeader path, rest)
    | _ => none
  | '[' :: rest => do
    let (path, rest) ← path? rest
    match rest with
    | ']' :: rest => some (.header path, rest)
    | _ => none
  | _ => do
    let (path, rest) ← path? s
    match rest with
    | '=' :: rest => do
      let (value, rest) ← readValue (s.length + 1) maxDepth (dropBlanks rest)
      some (.assignment path value, rest)
    | _ => none

def readStatements : Nat → List Char → Option (List Statement)
  | 0, _ => none
  | fuel + 1, s => do
    match ← dropGap? s with
    | [] => some []
    | s => do
      let (statement, rest) ← readStatement s
      let rest ← endLine? rest
      let statements ← readStatements fuel rest
      some (statement :: statements)

/-- A text without the mark that says in which order its bytes stand. -/
def withoutOrderMark (s : List Char) : List Char :=
  match s with
  | c :: rest => if c.toNat = 0xFEFF then rest else s
  | [] => []

def read? (text : String) : Option Members :=
  let s := withoutOrderMark text.toList
  (readStatements (s.length + 1) s).bind ofStatements?

end TableBooking.Toml
