import TableBooking.Calendar.Timestamp
import TableBooking.Decimal.Padded
import TableBooking.Text.Blank

/-!
Reading dates, times of day and instants. Instants are read in a relaxed form of RFC 3339: blanks
may stand around the parts, the date and the time may be joined by a space, and any offset is
turned into UTC. The first part that does not fit decides the error.
-/
namespace TableBooking.Calendar

open TableBooking.Text TableBooking.Decimal

inductive ReadError where
  /-- A number is outside the range of its part, or the parts name no day. -/
  | outOfRange
  /-- The instant has no date on the UTC calendar. -/
  | impossible
  | invalid
  | tooShort
  | trailing
  deriving DecidableEq, Repr

def ReadError.message : ReadError → String
  | .outOfRange => "input is out of range"
  | .impossible => "no possible date and time matching input"
  | .invalid => "input contains invalid characters"
  | .tooShort => "premature end of input"
  | .trailing => "trailing input"

abbrev Reader (α : Type) := List Char → Except ReadError (α × List Char)

/-- Numbers are held in 64 signed bits while they are read. -/
def numberLimit : Nat := 0x8000000000000000

/-- Goes on with a number whose digits so far are worth `n`, for at most `width` more digits. -/
def moreDigits : Nat → Nat → Reader Nat
  | 0, n, s => .ok (n, s)
  | _ + 1, n, [] => .ok (n, [])
  | width + 1, n, c :: rest =>
    match digit? c with
    | none => .ok (n, c :: rest)
    | some d =>
      if 10 * n + d < numberLimit then moreDigits width (10 * n + d) rest
      else .error .outOfRange

def number (width : Nat) : Reader Nat
  | [] => .error .tooShort
  | c :: rest =>
    match digit? c with
    | none => .error .invalid
    | some d => moreDigits (width - 1) d rest

/-- A number after blanks, which must not exceed `limit`. -/
def boundedNumber (width least limit : Nat) : Reader Nat := fun s => do
  let (n, rest) ← number width (dropBlanks s)
  if least ≤ n ∧ n ≤ limit then .ok (n, rest) else .error .outOfRange

/-- A year after blanks: up to four digits, or a sign and any number of digits. -/
def year : Reader Int := fun s => do
  let (y, rest) ←
    match dropBlanks s with
    | '-' :: t => do let (n, r) ← number t.length t; pure (-(n : Int), r)
    | '+' :: t => do let (n, r) ← number t.length t; pure ((n : Int), r)
    | t => do let (n, r) ← number 4 t; pure ((n : Int), r)
  if -0x80000000 ≤ y ∧ y < 0x80000000 then .ok (y, rest) else .error .outOfRange

def literal (c : Char) : Reader Unit
  | [] => .error .tooShort
  | d :: rest => if d = c then .ok ((), rest) else .error .invalid

structure DateParts where
  year : Int
  month : Nat
  day : Nat

/-- Year, month and day with hyphens between them; blanks may stand before each part and hyphen. -/
def dateParts : Reader DateParts := fun s => do
  let (y, s) ← year s
  let (_, s) ← literal '-' (dropBlanks s)
  let (m, s) ← boundedNumber 2 1 12 s
  let (_, s) ← literal '-' (dropBlanks s)
  let (d, s) ← boundedNumber 2 1 31 s
  pure (⟨y, m, d⟩, s)

structure TimeParts where
  hour : Nat
  minute : Nat
  second : Nat
  fraction : Nat

/-- A fraction of up to nine digits, in nanoseconds; digits beyond the ninth are passed over. -/
def fraction (s : List Char) : Except ReadError (Nat × List Char) := do
  let (n, rest) ← number 9 s
  let (_, tail) := takeDigits rest
  pure (n * Nat.pow 10 (9 - (s.length - rest.length)), tail)

def timeParts : Reader TimeParts := fun s => do
  let (h, s) ← boundedNumber 2 0 23 s
  let (_, s) ← literal ':' (dropBlanks s)
  let (m, s) ← boundedNumber 2 0 59 s
  let (_, s) ← literal ':' (dropBlanks s)
  let (sec, s) ← boundedNumber 2 0 60 s
  let (f, s) ←
    match s with
    | '.' :: t => fraction t
    | _ => pure (0, s)
  pure (⟨h, m, sec, f⟩, dropBlanks s)

def joint : Reader Unit
  | [] => .error .tooShort
  | c :: rest => if c = 't' ∨ c = 'T' ∨ c = ' ' then .ok ((), rest) else .error .invalid

def byteLength : List Char → Nat
  | [] => 0
  | c :: rest => c.utf8Size + byteLength rest

/-- Two digits; a text of fewer than two bytes is too short rather than invalid. -/
def twoDigits : Reader (Nat × Nat) := fun s =>
  if byteLength s < 2 then .error .tooShort
  else
    match s with
    | a :: b :: rest =>
      match digit? a, digit? b with
      | some x, some y => .ok ((x, y), rest)
      | _, _ => .error .invalid
    | _ => .error .invalid

def offsetMinutes : Reader Nat := fun s => do
  let ((h1, h2), s) ← twoDigits s
  let ((m1, m2), s) ← twoDigits (s.dropWhile fun c => c == ':' || isBlank c)
  if m1 < 6 then pure ((10 * h1 + h2) * 60 + 10 * m1 + m2, s) else .error .outOfRange

def opensUtc : List Char → Option (List Char)
  | u :: t :: c :: rest =>
    if (u = 'U' ∨ u = 'u') ∧ (t = 'T' ∨ t = 't') ∧ (c = 'C' ∨ c = 'c') then some rest else none
  | _ => none

/-- The offset from UTC in minutes: `UTC`, `Z`, or a sign with hours and minutes. -/
def zone : Reader Int := fun s =>
  match opensUtc s with
  | some rest => .ok (0, rest)
  | none =>
    match s with
    | [] => .error .tooShort
    | c :: rest =>
      if c = 'Z' ∨ c = 'z' then .ok (0, rest)
      else if c = '+' then do let (n, r) ← offsetMinutes rest; pure ((n : Int), r)
      else if c = '-' ∨ c = '−' then do let (n, r) ← offsetMinutes rest; pure (-(n : Int), r)
      else .error .invalid

def DateParts.date (p : DateParts) : Except ReadError Date :=
  match Date.ofParts? p.year p.month p.day with
  | some d => .ok d
  | none => .error .outOfRange

def TimeParts.time (p : TimeParts) : Except ReadError TimeOfDay :=
  match TimeOfDay.ofParts? p.hour p.minute p.second p.fraction with
  | some t => .ok t
  | none => .error .outOfRange

def readDate (s : String) : Except ReadError Date := do
  let (parts, rest) ← dateParts s.toList
  if dropBlanks rest = [] then parts.date else .error .trailing

/-- Reads a whole text as an instant. An offset of a day or more is out of range. -/
def readTimestamp (s : String) : Except ReadError Timestamp := do
  let (dateParts, rest) ← dateParts s.toList
  let (_, rest) ← joint rest
  let (timeParts, rest) ← timeParts rest
  let (minutes, rest) ← zone rest
  if dropBlanks rest ≠ [] then throw .trailing
  let date ← dateParts.date
  let time ← timeParts.time
  if minutes.natAbs ≥ 24 * 60 then throw .outOfRange
  match Timestamp.ofLocal? date time (minutes * 60) (by omega) with
  | some t => pure t
  | none => throw .impossible

def clockTime (withSeconds : Bool) (s : String) : Except ReadError TimeOfDay := do
  let (h, rest) ← boundedNumber 2 0 23 s.toList
  let (_, rest) ← literal ':' rest
  let (m, rest) ← boundedNumber 2 0 59 rest
  let (sec, rest) ←
    if withSeconds then do
      let (_, rest) ← literal ':' rest
      boundedNumber 2 0 60 rest
    else pure (0, rest)
  if rest = [] then TimeParts.time ⟨h, m, sec, 0⟩ else .error .trailing

/-- A time of day as a customer writes it, with or without seconds. Where neither form fits, the
error is that of the longer one. -/
def readClockTime (s : String) : Except ReadError TimeOfDay :=
  match clockTime false s with
  | .ok t => .ok t
  | .error _ => clockTime true s

end TableBooking.Calendar
