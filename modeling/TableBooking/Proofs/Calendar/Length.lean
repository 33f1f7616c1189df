import TableBooking.Proofs.Calendar.Order
import TableBooking.Proofs.Wire.Decoders
import TableBooking.Proofs.Wire.Printed

/-!
The length of a window. No window that is made or read is longer than a booking may be. Every one
takes some time, but for those whose length loses the leap second that ends a day: the difference of
two clock readings counts a leap second only towards a later reading of the same day, while in the
order of instants the leap second is before all of the next day.
-/
namespace TableBooking

open TableBooking.Json

namespace Timestamp

/-- The first instant is in the leap second that ends a day, and the other one is in the first
second of the next day, at no later a fraction. -/
def LeapUncounted (start stop : Timestamp) : Prop :=
  stop.date.dayNumber = start.date.dayNumber + 1 ∧
    start.time.second = 86399 ∧ stop.time.second = 0 ∧
    stop.time.nano + nanosPerSecond ≤ start.time.nano

instance (start stop : Timestamp) : Decidable (LeapUncounted start stop) :=
  inferInstanceAs (Decidable (_ ∧ _ ∧ _ ∧ _))

theorem span_pos_iff_of_later_day {start stop : Timestamp}
    (later : start.date.dayNumber < stop.date.dayNumber) :
    0 < span start stop ↔ ¬LeapUncounted start stop := by
  have first := start.time.valid
  have last := stop.time.valid
  unfold span leapCorrection LeapUncounted
  simp only [nanosPerSecond] at first last ⊢
  by_cases forth : start.time.second < stop.time.second
  · rw [if_pos forth]
    -- more than a day on the clock, which no fraction takes back
    split_ifs <;> omega
  · rw [if_neg forth]
    split_ifs <;> omega

end Timestamp

namespace Window

theorem make_eq_ok {startsAt endsAt : Timestamp} {w : Window} (h : make startsAt endsAt = .ok w) :
    w.startsAt = startsAt ∧ w.endsAt = endsAt := by
  unfold make at h
  split_ifs at h
  cases h
  exact ⟨rfl, rfl⟩

theorem span_pos_iff (w : Window) :
    0 < w.span ↔ ¬Timestamp.LeapUncounted w.startsAt w.endsAt := by
  have ordered := (Timestamp.lt_iff _ _).1 w.ordered
  have days := Timestamp.dayNumber_mono ((Timestamp.le_iff _ _).2 ordered.le)
  obtain same | later := days.eq_or_lt
  · have within : w.liesWithin w.startsAt.date = true :=
      (liesWithin_iff w _).2 ⟨rfl, (Date.dayNumber_injective same).symm⟩
    constructor
    · intro _ lost
      have next := lost.1
      omega
    · intro _
      exact span_pos within
  · exact Timestamp.span_pos_iff_of_later_day later

theorem maxSpan_eq : maxSpan = 12 * 3600 * 1_000_000_000 := rfl

/-- The window reaches from one instant to the other, at most twelve hours later. It takes some time
unless a leap second is not counted. -/
def MeasuredFrom (w : Window) (startsAt endsAt : Timestamp) : Prop :=
  w.startsAt = startsAt ∧ w.endsAt = endsAt ∧ w.span ≤ 12 * 3600 * 1_000_000_000 ∧
    (0 < w.span ↔ ¬Timestamp.LeapUncounted startsAt endsAt)

theorem measured_of_make {startsAt endsAt : Timestamp} {w : Window}
    (h : make startsAt endsAt = .ok w) : w.MeasuredFrom startsAt endsAt := by
  obtain ⟨rfl, rfl⟩ := make_eq_ok h
  exact ⟨rfl, rfl, maxSpan_eq ▸ w.short, w.span_pos_iff⟩

end Window

/-- Every window is measured from the instants that it is made of: directly, at any place of a text,
or within a proposal that is handed back. -/
theorem Window.constructed_length (startsAt endsAt : Timestamp) (s : Bytes) (text : String) :
    (∀ w, make startsAt endsAt = .ok w → w.MeasuredFrom startsAt endsAt) ∧
    (∀ w rest, Wire.window s = .ok (w, rest) →
      ∃ e, Wire.endpoints s = .ok (e, rest) ∧ w.MeasuredFrom e.startsAt e.endsAt) ∧
    (∀ p, Proposal.ofJson text = .ok p →
      ∃ parts, readWhole (Wire.proposalParts "RawProposal" Wire.endpoints) (utf8 text) = .ok parts ∧
        p.window.MeasuredFrom parts.window.startsAt parts.window.endsAt) := by
  refine ⟨?_, ?_, ?_⟩
  · intro w made
    exact measured_of_make made
  · intro w rest read
    obtain ⟨e, ends, made⟩ := Wire.window_eq_ok read
    exact ⟨e, ends, measured_of_make made⟩
  · intro p read
    obtain ⟨parts, gathered, made⟩ := Proposal.ofJson_eq_ok read
    exact ⟨parts, gathered, measured_of_make made⟩

def Timestamp.newYearsEve (time : TimeOfDay) : Timestamp :=
  ⟨⟨2016, 12, 31, by decide⟩, time⟩

def Timestamp.newYear (time : TimeOfDay) : Timestamp :=
  ⟨⟨2017, 1, 1, by decide⟩, time⟩

/-- From the leap second until half a second into the new year. -/
def Window.newYearToast : Window where
  startsAt := .newYearsEve ⟨86399, 1_000_000_000, by decide⟩
  endsAt := .newYear ⟨0, 500_000_000, by decide⟩
  ordered := by decide
  short := by decide

def Proposal.newYearToast : Proposal where
  venue := ⟨"hop-and-vine"⟩
  customer := ⟨"test@test.test"⟩
  table := ⟨1⟩
  partySize := 2
  date := Window.newYearToast.startsAt.date
  window := .newYearToast

/-- Half a second of it is counted, also when the window is read from the text that it is printed
as. -/
theorem newYearToast_measured :
    Window.make Window.newYearToast.startsAt Window.newYearToast.endsAt = .ok .newYearToast ∧
    0 < Window.newYearToast.span ∧
    (∃ e, Wire.endpoints (utf8 (Window.newYearToast.toValue.write .compact)) = .ok (e, []) ∧
      Window.newYearToast.MeasuredFrom e.startsAt e.endsAt) ∧
    ∃ parts, readWhole (Wire.proposalParts "RawProposal" Wire.endpoints)
        (utf8 (Proposal.newYearToast.toValue.write .compact)) = .ok parts ∧
      Proposal.newYearToast.window.MeasuredFrom parts.window.startsAt parts.window.endsAt := by
  obtain ⟨making, reading, handedBack⟩ :=
    Window.constructed_length Window.newYearToast.startsAt Window.newYearToast.endsAt
      (utf8 (Window.newYearToast.toValue.write .compact))
      (Proposal.newYearToast.toValue.write .compact)
  have made := Window.newYearToast.make_self
  refine ⟨made, ?_, ?_, handedBack _ (Proposal.newYearToast.ofJson_written .compact)⟩
  · obtain ⟨-, -, -, counted⟩ := making _ made
    exact counted.2 (by decide)
  · apply reading
    have read := Wire.reads_window Window.newYearToast .compact 0 [] [] blank_nil (by rintro _ ⟨⟩)
    rw [List.nil_append, List.append_nil] at read
    rw [Value.write, utf8_ofList, read]

/-- From the leap second to midnight there is a window that takes no time, and from the middle of
the leap second into the second behind it there is a window that takes less. -/
theorem leap_second_to_midnight_takes_no_time :
    (∃ w, Window.make (.newYearsEve ⟨86399, 1_000_000_000, by decide⟩)
      (.newYear ⟨0, 0, by decide⟩) = .ok w ∧ w.span = 0) ∧
    ∃ w, Window.make (.newYearsEve ⟨86399, 1_500_000_000, by decide⟩)
      (.newYear ⟨0, 200_000_000, by decide⟩) = .ok w ∧ w.span = -300_000_000 := by
  constructor
  · have made := Window.make_self
      ⟨.newYearsEve ⟨86399, 1_000_000_000, by decide⟩, .newYear ⟨0, 0, by decide⟩,
        by decide, by decide⟩
    exact ⟨_, made, by decide⟩
  · have made := Window.make_self
      ⟨.newYearsEve ⟨86399, 1_500_000_000, by decide⟩, .newYear ⟨0, 200_000_000, by decide⟩,
        by decide, by decide⟩
    exact ⟨_, made, by decide⟩

end TableBooking
