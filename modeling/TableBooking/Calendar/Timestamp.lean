import TableBooking.Calendar.Date

/-!
Instants on the UTC calendar, to the nanosecond and with leap seconds, and the span between two of
them. Main statement: instants are ordered as (date, second, fraction), which is the order of one
integer, `Timestamp.place`.
-/
namespace TableBooking

def nanosPerSecond : Nat := 1_000_000_000

/-- A time of day: whole seconds since midnight and a fraction. A fraction of a second or more reads
the leap second that follows the last second of a minute. Representations that put such a fraction
behind any other second are left out: no text is read as one, and `ofLocal?` makes none. -/
structure TimeOfDay where
  second : Nat
  nano : Nat
  valid : second < 86400 ∧ nano < 2 * nanosPerSecond ∧ (nanosPerSecond ≤ nano → second % 60 = 59)
  deriving DecidableEq

namespace TimeOfDay

/-- The time with these parts, `second` being 60 in a leap second. -/
def ofParts? (hour minute second fraction : Nat) : Option TimeOfDay :=
  let leap := if second = 60 then nanosPerSecond else 0
  let whole := if second = 60 then 59 else second
  if hour < 24 ∧ minute < 60 ∧ second ≤ 60 ∧ fraction < nanosPerSecond then
    let s := hour * 3600 + minute * 60 + whole
    let n := leap + fraction
    if h : s < 86400 ∧ n < 2 * nanosPerSecond ∧ (nanosPerSecond ≤ n → s % 60 = 59) then
      some ⟨s, n, h⟩
    else none
  else none

def hour (t : TimeOfDay) : Nat := t.second / 3600

def minute (t : TimeOfDay) : Nat := t.second / 60 % 60

def secondOfMinute (t : TimeOfDay) : Nat :=
  t.second % 60 + t.nano / nanosPerSecond

def fraction (t : TimeOfDay) : Nat := t.nano % nanosPerSecond

end TimeOfDay

structure Timestamp where
  date : Date
  time : TimeOfDay
  deriving DecidableEq

namespace Timestamp

/-- The place of a reading among all readings. Every second is given two seconds' worth of
fractions, so that a leap second stands between its second and the next. -/
def place (t : Timestamp) : Int :=
  (t.date.dayNumber * 86400 + t.time.second) * (2 * nanosPerSecond : Nat) + t.time.nano

instance : LT Timestamp := ⟨fun a b => a.place < b.place⟩

instance : LE Timestamp := ⟨fun a b => a.place ≤ b.place⟩

instance (a b : Timestamp) : Decidable (a < b) :=
  inferInstanceAs (Decidable (a.place < b.place))

instance (a b : Timestamp) : Decidable (a ≤ b) :=
  inferInstanceAs (Decidable (a.place ≤ b.place))

theorem lt_iff (a b : Timestamp) : a < b ↔ a.place < b.place :=
  Iff.rfl

theorem le_iff (a b : Timestamp) : a ≤ b ↔ a.place ≤ b.place :=
  Iff.rfl

/-- The instant at the same clock reading `offset` seconds east of Greenwich, if its date exists.
The fraction is kept, so a leap second stays one. -/
def ofLocal? (date : Date) (time : TimeOfDay) (offset : Int)
    (whole : offset % 60 = 0) : Option Timestamp :=
  let s := (time.second : Int) - offset
  let date? :=
    if s < 0 then date.prev? else if s < 86400 then some date else date.next?
  have bound : (s % 86400).toNat < 86400 := by omega
  have minuteKept : (s % 86400).toNat % 60 = time.second % 60 := by omega
  date?.map fun d =>
    ⟨d, (s % 86400).toNat, time.nano,
      bound, time.valid.2.1, fun h => minuteKept ▸ time.valid.2.2 h⟩

/-- Whole seconds that leap seconds add to a difference: one if the earlier reading is in a leap
second and the later one is past it on the clock, one less the other way round. -/
def leapCorrection (start stop : TimeOfDay) : Int :=
  if start.second < stop.second then (if nanosPerSecond ≤ start.nano then 1 else 0)
  else if stop.second < start.second then (if nanosPerSecond ≤ stop.nano then -1 else 0)
  else 0

/-- The nanoseconds from `start` to `stop`. Leap seconds count where the two readings show them. -/
def span (start stop : Timestamp) : Int :=
  ((stop.date.dayNumber - start.date.dayNumber) * 86400 +
      ((stop.time.second : Int) - start.time.second) + leapCorrection start.time stop.time) *
    (nanosPerSecond : Nat) +
  ((stop.time.nano : Int) - start.time.nano)

end Timestamp

end TableBooking
