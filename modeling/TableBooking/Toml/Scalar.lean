import TableBooking.Calendar.Date
import TableBooking.Decimal.Padded
import TableBooking.Toml.Text

/-!
The values of TOML that are written without quotes: truth values, integers, binary64 numbers, and
dates and times. Of numbers that are no integers and of dates and times, only that they are well
formed is kept.
-/
namespace TableBooking.Toml

inductive Scalar where
  | boolean (value : Bool)
  | integer (value : Int)
  | float
  /-- A date, a time or both. -/
  | moment
  deriving DecidableEq

/-- The digits of a number without the underscores between them; none if an underscore does not
stand between two digits, or something else does. -/
def bareDigits? (isDigit : Char → Bool) : List Char → Option (List Char)
  | [] => none
  | [c] => if isDigit c then some [c] else none
  | c :: '_' :: rest => if isDigit c then (bareDigits? isDigit rest).map (c :: ·) else none
  | c :: rest => if isDigit c then (bareDigits? isDigit rest).map (c :: ·) else none

def isDigitOf (base : Nat) (c : Char) : Bool :=
  match Text.hexDigit? c with
  | some d => d < base
  | none => false

def valueInBase (base : Nat) (digits : List Char) : Nat :=
  (digits.filterMap Text.hexDigit?).foldl (fun n d => base * n + d) 0

def digits? (s : List Char) : Option Nat :=
  (bareDigits? (isDigitOf 10) s).map (valueInBase 10)

/-- Digits in decimal that do not begin with a zero unless they are one. -/
def canonicalDigits? (s : List Char) : Option Nat :=
  if s.head? = some '0' ∧ s ≠ ['0'] then none else digits? s

/-- A sign and what follows it; the first part says whether the sign is a minus. -/
def splitSign : List Char → Bool × List Char
  | '-' :: rest => (true, rest)
  | '+' :: rest => (false, rest)
  | rest => (false, rest)

/-- Integers are held in 128 bits, with or without a sign. -/
def inIntegerRange (n : Int) : Bool :=
  -(Nat.pow 2 127 : Int) ≤ n && n < (Nat.pow 2 128 : Int)

/-- An integer in decimal with or without a sign, or in another base behind its mark. -/
def integer? (s : List Char) : Option Int :=
  let inBase (base : Nat) (digits : List Char) : Option Int :=
    (bareDigits? (isDigitOf base) digits).map fun ds => (valueInBase base ds : Int)
  let n? : Option Int :=
    match s with
    | '0' :: 'x' :: digits => inBase 16 digits
    | '0' :: 'o' :: digits => inBase 8 digits
    | '0' :: 'b' :: digits => inBase 2 digits
    | _ =>
      let (negative, digits) := splitSign s
      (canonicalDigits? digits).map fun n => if negative then -(n : Int) else n
  n?.filter inIntegerRange

def digitCount (s : List Char) : Nat :=
  (s.filter (· != '_')).length

/-- The least number that is too large for a binary64 number. -/
def floatLimit : Nat := Nat.pow 2 1024 - Nat.pow 2 970

def overflows (significand : Nat) (exponent : Int) : Bool :=
  if significand = 0 then false
  else if 400 < exponent then true
  else if 0 ≤ exponent then floatLimit ≤ significand * Nat.pow 10 exponent.toNat
  else if (Nat.toDigits 10 significand).length < exponent.natAbs then false
  else floatLimit ≤ significand / Nat.pow 10 exponent.natAbs

def exponent? (s : List Char) : Option Int :=
  let (negative, digits) := splitSign s
  (digits? digits).map fun n => if negative then -(n : Int) else n

def isFloat (s : List Char) : Bool :=
  let unsigned := (splitSign s).2
  if unsigned = ['i', 'n', 'f'] ∨ unsigned = ['n', 'a', 'n'] then true
  else
    let mantissa := unsigned.takeWhile fun c => c != 'e' && c != 'E'
    let whole := mantissa.takeWhile (· != '.')
    let fraction? := (mantissa.drop whole.length).tail
    let hasFraction := whole.length < mantissa.length
    let exponentPart := unsigned.drop mantissa.length
    let exponent := if exponentPart = [] then some 0 else exponent? exponentPart.tail
    match canonicalDigits? whole, (if hasFraction then digits? fraction? else some 0), exponent with
    | some m, some f, some e =>
      let places := if hasFraction then digitCount fraction? else 0
      (hasFraction || exponentPart != []) &&
        !overflows (m * Nat.pow 10 places + f) (e - places)
    | _, _, _ => false

def fixedDigits? (width : Nat) (s : List Char) : Option (Nat × List Char) :=
  let digits := s.take width
  if digits.length = width ∧ digits.all (isDigitOf 10) then
    some (valueInBase 10 digits, s.drop width)
  else none

def after? (c : Char) : List Char → Option (List Char)
  | d :: rest => if d = c then some rest else none
  | [] => none

def date? (s : List Char) : Option (List Char) := do
  let (year, s) ← fixedDigits? 4 s
  let s ← after? '-' s
  let (month, s) ← fixedDigits? 2 s
  let s ← after? '-' s
  let (day, s) ← fixedDigits? 2 s
  if 1 ≤ month ∧ month ≤ 12 ∧ 1 ≤ day ∧ day ≤ Date.daysInMonth year month then some s else none

def seconds? (s : List Char) : Option (List Char) := do
  let (second, s) ← fixedDigits? 2 s
  let s ←
    match s with
    | '.' :: rest =>
      let (ds, rest) := Decimal.takeDigits rest
      if ds.isEmpty then none else some rest
    | _ => some s
  if second ≤ 60 then some s else none

/-- A time of day, whose seconds may be left out, and what follows it. -/
def time? (s : List Char) : Option (List Char) := do
  let (hour, s) ← fixedDigits? 2 s
  let s ← after? ':' s
  let (minute, s) ← fixedDigits? 2 s
  let s ←
    match s with
    | ':' :: rest => seconds? rest
    | _ => some s
  if hour ≤ 23 ∧ minute ≤ 59 then some s else none

def isOffset (s : List Char) : Bool :=
  match s with
  | ['Z'] => true
  | ['z'] => true
  | c :: rest =>
    if c = '+' ∨ c = '-' then
      let minutes? : Option (Nat × Nat × List Char) := do
        let (hour, rest) ← fixedDigits? 2 rest
        let rest ← after? ':' rest
        let (minute, rest) ← fixedDigits? 2 rest
        some (hour, minute, rest)
      match minutes? with
      | some (hour, minute, []) => hour ≤ 23 && minute ≤ 59
      | _ => false
    else false
  | [] => false

def isMoment (s : List Char) : Bool :=
  match date? s with
  | some [] => true
  | some (c :: rest) =>
    if c = 'T' ∨ c = 't' ∨ c = ' ' then
      match time? rest with
      | some [] => true
      | some rest => isOffset rest
      | none => false
    else false
  | none => time? s = some []

def isScalarChar (c : Char) : Bool :=
  c.isAlphanum || ['+', '-', '_', '.', ':'].contains c

/-- The text of a value without quotes, and what follows it. A blank may part a date from a time. -/
def scalarText (s : List Char) : List Char × List Char :=
  let first := s.takeWhile isScalarChar
  match s.drop first.length with
  | ' ' :: d :: rest =>
    if date? first = some [] ∧ d.isDigit then
      let second := (d :: rest).takeWhile isScalarChar
      (first ++ ' ' :: second, (d :: rest).drop second.length)
    else (first, ' ' :: d :: rest)
  | rest => (first, rest)

def scalar? (s : List Char) : Option (Scalar × List Char) :=
  let (word, rest) := scalarText s
  if word = "true".toList then some (.boolean true, rest)
  else if word = "false".toList then some (.boolean false, rest)
  else
    match integer? word with
    | some n => some (.integer n, rest)
    | none =>
      if isFloat word then some (.float, rest)
      else if isMoment word then some (.moment, rest)
      else none

end TableBooking.Toml
