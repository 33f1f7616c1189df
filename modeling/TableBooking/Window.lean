import TableBooking.Calendar.Printer
import TableBooking.Rule

/-!
Windows of time, closed at the start and open at the end. A window begins before it ends and is not
longer than a booking may be. Main statement: two windows overlap exactly when some instant is in
both.
-/
namespace TableBooking

def Window.maxSpan : Int := maxBookingHours * 3600 * (nanosPerSecond : Nat)

structure Window where
  startsAt : Timestamp
  endsAt : Timestamp
  ordered : startsAt < endsAt
  short : Timestamp.span startsAt endsAt ≤ Window.maxSpan
  deriving DecidableEq

namespace Window

/-- The window between two instants; the order is checked before the length. -/
def make (startsAt endsAt : Timestamp) : Except Rule Window :=
  if ordered : startsAt < endsAt then
    if short : Timestamp.span startsAt endsAt ≤ maxSpan then .ok ⟨startsAt, endsAt, ordered, short⟩
    else .error .windowTooLong
  else .error .windowNotOrdered

def span (w : Window) : Int :=
  Timestamp.span w.startsAt w.endsAt

def Covers (w : Window) (t : Timestamp) : Prop :=
  w.startsAt ≤ t ∧ t < w.endsAt

/-- Whether the windows share an instant; windows that only touch do not. -/
def overlaps (a b : Window) : Bool :=
  a.startsAt < b.endsAt && b.startsAt < a.endsAt

def liesWithin (w : Window) (date : Date) : Bool :=
  w.startsAt.date = date && w.endsAt.date = date

theorem make_self (w : Window) : make w.startsAt w.endsAt = .ok w := by
  simp [make, w.ordered, w.short]

theorem overlaps_iff_covers (a b : Window) :
    a.overlaps b = true ↔ ∃ t, a.Covers t ∧ b.Covers t := by
  simp only [overlaps, Bool.and_eq_true, decide_eq_true_eq, Covers, Timestamp.lt_iff,
    Timestamp.le_iff]
  have ha := (Timestamp.lt_iff _ _).1 a.ordered
  have hb := (Timestamp.lt_iff _ _).1 b.ordered
  constructor
  · rintro ⟨h1, h2⟩
    by_cases h : a.startsAt.place ≤ b.startsAt.place
    · exact ⟨b.startsAt, ⟨h, h2⟩, Int.le_refl _, hb⟩
    · exact ⟨a.startsAt, ⟨Int.le_refl _, ha⟩, by omega, h1⟩
  · rintro ⟨t, ⟨h1, h2⟩, h3, h4⟩
    omega

/-- Date and minute of the start, and minute of the end. -/
def text (w : Window) : List Char :=
  w.startsAt.date.text ++ 'T' :: w.startsAt.time.shortText ++ '-' :: w.endsAt.time.shortText

instance : ToString Window := ⟨fun w => String.ofList w.text⟩

end Window

end TableBooking
