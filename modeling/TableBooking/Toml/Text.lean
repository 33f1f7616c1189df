import TableBooking.Text.CodePoints

/-!
Strings of TOML: basic strings, which know escapes, and literal ones, which do not, each on one line
or over several. A reader gives back what follows the string, or nothing if the string is not well
formed.
-/
namespace TableBooking.Toml

abbrev Reader (α : Type) := List Char → Option (α × List Char)

/-- The characters that may stand in a text by themselves; line breaks are told apart from them. -/
def isPlain (c : Char) : Bool :=
  c = '\t' || (0x20 ≤ c.toNat && c.toNat ≠ 0x7F)

def lineBreak? : Reader (List Char)
  | '\n' :: rest => some (['\n'], rest)
  | '\r' :: '\n' :: rest => some (['\r', '\n'], rest)
  | _ => none

def isBlank (c : Char) : Bool :=
  c = ' ' || c = '\t'

def dropBlanks (s : List Char) : List Char :=
  s.dropWhile isBlank

/-- What an escape with so many hexadecimal digits stands for; surrogates stand for nothing. -/
def hexEscape? (width : Nat) (s : List Char) : Option (Char × List Char) :=
  let digits := s.take width
  if digits.length = width ∧ digits.all fun c => (Text.hexDigit? c).isSome then
    let n := Text.hexValue digits
    if h : n.isValidChar then some (Char.ofNatAux n h, s.drop width) else none
  else none

def escape? : Reader Char
  | [] => none
  | c :: rest =>
    if c = 'b' then some (Char.ofNat 0x08, rest)
    else if c = 't' then some ('\t', rest)
    else if c = 'n' then some ('\n', rest)
    else if c = 'f' then some (Char.ofNat 0x0C, rest)
    else if c = 'r' then some ('\r', rest)
    else if c = 'e' then some (Char.ofNat 0x1B, rest)
    else if c = '"' then some ('"', rest)
    else if c = '\\' then some ('\\', rest)
    else if c = 'x' then hexEscape? 2 rest
    else if c = 'u' then hexEscape? 4 rest
    else if c = 'U' then hexEscape? 8 rest
    else none

def basicContent : Nat → Reader (List Char)
  | 0, _ => none
  | _ + 1, [] => none
  | fuel + 1, c :: rest =>
    if c = '"' then some ([], rest)
    else if c = '\\' then do
      let (d, rest) ← escape? rest
      let (more, rest) ← basicContent fuel rest
      some (d :: more, rest)
    else if isPlain c then do
      let (more, rest) ← basicContent fuel rest
      some (c :: more, rest)
    else none

def literalContent (quote : Char) : Reader (List Char)
  | [] => none
  | c :: rest =>
    if c = quote then some ([], rest)
    else if isPlain c then (literalContent quote rest).map fun (more, rest) => (c :: more, rest)
    else none

def quotesAhead (quote : Char) (s : List Char) : Nat :=
  (s.takeWhile (· == quote)).length

/-- The end of a string over several lines: three quotes, before which up to two more belong to the
content. The quotes taken as content are given back. -/
def closing? (quote : Char) (s : List Char) : Option (List Char × List Char) :=
  let n := quotesAhead quote s
  if n < 3 then none
  else
    let extra := min (n - 3) 2
    some (List.replicate extra quote, s.drop (3 + extra))

/-- What follows a backslash at the end of a line: blanks and line breaks up to the next character
that is neither. -/
def continuation? (s : List Char) : Option (List Char) :=
  match lineBreak? (dropBlanks s) with
  | none => none
  | some (_, rest) => some (joinLines rest.length rest)
where
  joinLines : Nat → List Char → List Char
    | 0, s => s
    | fuel + 1, s =>
      match lineBreak? (dropBlanks s) with
      | none => dropBlanks s
      | some (_, rest) => joinLines fuel rest

/-- The content of a string over several lines; backslashes are escapes if `escapes` says so.
`fuel` bounds its characters. -/
def longContent (quote : Char) (escapes : Bool) : Nat → Reader (List Char)
  | 0, _ => none
  | _ + 1, [] => none
  | fuel + 1, c :: rest =>
    match closing? quote (c :: rest) with
    | some (last, rest) => some (last, rest)
    | none =>
      if escapes ∧ c = '\\' then
        match continuation? rest with
        | some rest => longContent quote escapes fuel rest
        | none => do
          let (d, rest) ← escape? rest
          let (more, rest) ← longContent quote escapes fuel rest
          some (d :: more, rest)
      else
        match lineBreak? (c :: rest) with
        | some (chars, rest) => do
          let (more, rest) ← longContent quote escapes fuel rest
          some (chars ++ more, rest)
        | none =>
          if isPlain c then do
            let (more, rest) ← longContent quote escapes fuel rest
            some (c :: more, rest)
          else none

def dropLineBreak (s : List Char) : List Char :=
  match lineBreak? s with
  | some (_, rest) => rest
  | none => s

def shortText? : Reader String
  | '"' :: rest =>
    (basicContent (rest.length + 1) rest).map fun (s, rest) => (String.ofList s, rest)
  | c :: rest =>
    if c.toNat = 0x27 then
      (literalContent c rest).map fun (s, rest) => (String.ofList s, rest)
    else none
  | [] => none

def text? (s : List Char) : Option (String × List Char) :=
  match s with
  | [] => none
  | quote :: rest =>
    if 3 ≤ quotesAhead quote s then
      if quote = '"' ∨ quote.toNat = 0x27 then
        (longContent quote (quote = '"') (s.length + 1) (dropLineBreak (rest.drop 2))).map
          fun (content, rest) => (String.ofList content, rest)
      else none
    else shortText? s

end TableBooking.Toml
