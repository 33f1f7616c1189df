import TableBooking.Calendar.Timestamp
import TableBooking.Decimal.Padded

/-!
The written forms of dates, times and instants: ISO 8601 calendar dates and RFC 3339 instants in
UTC. Years outside 0 to 9999 carry a sign, and a fraction takes as few groups of three digits as it
needs.
-/
namespace TableBooking

open Decimal (padded)

/-- Four digits, and a sign where four unsigned digits cannot hold the year. -/
def Date.yearText (year : Int) : List Char :=
  if 0 ≤ year ∧ year ≤ 9999 then padded 4 year.toNat
  else (if year < 0 then '-' else '+') :: padded 4 year.natAbs

def Date.text (d : Date) : List Char :=
  Date.yearText d.year ++ '-' :: padded 2 d.month ++ '-' :: padded 2 d.day

instance : ToString Date := ⟨fun d => String.ofList d.text⟩

namespace TimeOfDay

def shortText (t : TimeOfDay) : List Char :=
  padded 2 t.hour ++ ':' :: padded 2 t.minute

/-- The fraction of a second: nothing, milliseconds, microseconds or nanoseconds. -/
def fractionText (nanos : Nat) : List Char :=
  if nanos = 0 then []
  else if nanos % 1_000_000 = 0 then '.' :: padded 3 (nanos / 1_000_000)
  else if nanos % 1_000 = 0 then '.' :: padded 6 (nanos / 1_000)
  else '.' :: padded 9 nanos

def text (t : TimeOfDay) : List Char :=
  t.shortText ++ ':' :: padded 2 t.secondOfMinute ++ fractionText t.fraction

instance : ToString TimeOfDay := ⟨fun t => String.ofList t.text⟩

end TimeOfDay

def Timestamp.text (t : Timestamp) : List Char :=
  t.date.text ++ 'T' :: t.time.text ++ ['Z']

instance : ToString Timestamp := ⟨fun t => String.ofList t.text⟩

end TableBooking
