import Mathlib.Algebra.Order.Ring.Int
import Mathlib.Tactic.Common
import TableBooking.Window

/-!
The order of dates and of instants. Day numbers tell dates apart, a day holds exactly the instants
read on it, and so a window that lies within a date covers no instant of another one.
-/
namespace TableBooking

namespace Date

theorem isLeap_iff (year : Int) :
    isLeap year = true ↔ year % 4 = 0 ∧ (year % 100 ≠ 0 ∨ year % 400 = 0) := by
  simp [isLeap]

theorem daysBeforeYear_succ (year : Int) :
    daysBeforeYear (year + 1) = daysBeforeYear year + if isLeap year then 366 else 365 := by
  unfold daysBeforeYear
  by_cases leap : isLeap year
  · rw [if_pos leap]
    rw [isLeap_iff] at leap
    omega
  · rw [if_neg leap]
    rw [isLeap_iff] at leap
    omega

theorem daysBeforeYear_mono {y z : Int} (h : y ≤ z) : daysBeforeYear y ≤ daysBeforeYear z := by
  unfold daysBeforeYear
  omega

theorem daysBeforeMonth_succ (year : Int) {month : Nat} (h : 1 ≤ month) :
    daysBeforeMonth year (month + 1) = daysBeforeMonth year month + daysInMonth year month := by
  obtain ⟨m, rfl⟩ := Nat.exists_eq_add_of_le' h
  rfl

theorem daysBeforeMonth_mono (year : Int) {m n : Nat} (h : m ≤ n) :
    daysBeforeMonth year m ≤ daysBeforeMonth year n := by
  induction n, h using Nat.le_induction with
  | base => exact le_refl _
  | succ n _ ih =>
    refine ih.trans ?_
    cases n with
    | zero => exact le_refl _
    | succ n => exact Nat.le_add_right _ _

theorem daysBeforeMonth_thirteen (year : Int) :
    daysBeforeMonth year 13 = if isLeap year then 366 else 365 := by
  by_cases leap : isLeap year <;> simp [daysBeforeMonth, daysInMonth, leap]

/-- The days of a year are numbered behind those of the years before and before those of the years
after. -/
theorem dayNumber_within_year (d : Date) :
    daysBeforeYear d.year < d.dayNumber ∧ d.dayNumber ≤ daysBeforeYear (d.year + 1) := by
  obtain ⟨_, _, first, last, day, inMonth⟩ := d.valid
  have upTo := daysBeforeMonth_mono d.year (show d.month + 1 ≤ 13 by omega)
  rw [daysBeforeMonth_thirteen, daysBeforeMonth_succ d.year first] at upTo
  rw [daysBeforeYear_succ]
  unfold dayNumber
  by_cases leap : isLeap d.year
  · simp only [leap, if_true] at upTo ⊢
    omega
  · simp only [leap, Bool.false_eq_true, if_false] at upTo ⊢
    omega

theorem year_eq_of_dayNumber_eq {d e : Date} (h : d.dayNumber = e.dayNumber) :
    d.year = e.year := by
  have hd := dayNumber_within_year d
  have he := dayNumber_within_year e
  by_contra hne
  rcases lt_or_gt_of_ne hne with hlt | hgt
  · have := daysBeforeYear_mono (show d.year + 1 ≤ e.year by omega)
    omega
  · have := daysBeforeYear_mono (show e.year + 1 ≤ d.year by omega)
    omega

/-- Two days of one year with the same number are in the same month. -/
theorem month_eq_of_dayNumber_eq {d e : Date} (h : d.dayNumber = e.dayNumber) :
    d.month = e.month := by
  have hy := year_eq_of_dayNumber_eq h
  obtain ⟨_, _, hd₁, _, hd₂, hd₃⟩ := d.valid
  obtain ⟨_, _, he₁, _, he₂, he₃⟩ := e.valid
  unfold dayNumber at h
  rw [hy] at h hd₃
  by_contra hne
  rcases lt_or_gt_of_ne hne with hlt | hgt
  · have := daysBeforeMonth_mono e.year (show d.month + 1 ≤ e.month by omega)
    rw [daysBeforeMonth_succ e.year hd₁] at this
    omega
  · have := daysBeforeMonth_mono e.year (show e.month + 1 ≤ d.month by omega)
    rw [daysBeforeMonth_succ e.year he₁] at this
    omega

theorem dayNumber_injective : Function.Injective dayNumber := by
  intro d e h
  have hy := year_eq_of_dayNumber_eq h
  have hm := month_eq_of_dayNumber_eq h
  have hd : d.day = e.day := by
    unfold dayNumber at h
    rw [hy, hm] at h
    omega
  cases d
  cases e
  simp_all

end Date

namespace Timestamp

/-- The place of an instant lies in its day's share of the places. -/
theorem place_within_day (t : Timestamp) :
    t.date.dayNumber * (86400 * (2 * nanosPerSecond : Nat)) ≤ t.place ∧
      t.place < (t.date.dayNumber + 1) * (86400 * (2 * nanosPerSecond : Nat)) := by
  obtain ⟨second, nano, _⟩ := t.time.valid
  unfold place
  simp only [nanosPerSecond] at nano ⊢
  omega

theorem dayNumber_mono {s t : Timestamp} (h : s ≤ t) : s.date.dayNumber ≤ t.date.dayNumber := by
  rw [le_iff] at h
  have hs := place_within_day s
  have ht := place_within_day t
  simp only [nanosPerSecond] at hs ht
  omega

theorem place_injective : Function.Injective place := by
  intro s t h
  have hdate : s.date = t.date := by
    apply Date.dayNumber_injective
    exact le_antisymm (dayNumber_mono ((le_iff s t).2 h.le)) (dayNumber_mono ((le_iff t s).2 h.ge))
  have hs := s.time.valid
  have ht := t.time.valid
  simp only [place, hdate, nanosPerSecond] at h
  simp only [nanosPerSecond] at hs ht
  have hsecond : s.time.second = t.time.second := by omega
  have hnano : s.time.nano = t.time.nano := by omega
  obtain ⟨_, ⟨_, _, _⟩⟩ := s
  obtain ⟨_, ⟨_, _, _⟩⟩ := t
  simp_all

end Timestamp

namespace Window

theorem liesWithin_iff (w : Window) (date : Date) :
    w.liesWithin date = true ↔ w.startsAt.date = date ∧ w.endsAt.date = date := by
  simp [liesWithin]

theorem overlaps_comm (a b : Window) : a.overlaps b = b.overlaps a := by
  simp [overlaps, Bool.and_comm]

/-- A window within a date covers instants of that date only. -/
theorem date_of_covers {w : Window} {date : Date} {t : Timestamp} (h : w.liesWithin date = true)
    (ht : w.Covers t) : t.date = date := by
  obtain ⟨hstart, hend⟩ := (liesWithin_iff w date).1 h
  have hlow := Timestamp.dayNumber_mono ht.1
  have hhigh := Timestamp.dayNumber_mono ((Timestamp.le_iff _ _).2 (le_of_lt ht.2))
  rw [hstart] at hlow
  rw [hend] at hhigh
  exact Date.dayNumber_injective (le_antisymm hhigh hlow)

/-- A window within one date takes some time, also where it begins or ends in a leap second. -/
theorem span_pos {w : Window} {date : Date} (h : w.liesWithin date = true) : 0 < w.span := by
  obtain ⟨starts, ends⟩ := (liesWithin_iff w date).1 h
  have ordered := (Timestamp.lt_iff _ _).1 w.ordered
  have first := w.startsAt.time.valid
  have last := w.endsAt.time.valid
  simp only [Timestamp.place, starts, ends, nanosPerSecond] at ordered first last
  unfold span Timestamp.span Timestamp.leapCorrection
  rw [starts, ends]
  by_cases later : w.startsAt.time.second < w.endsAt.time.second
  · rw [if_pos later]
    -- the leap second that the start stands in has been counted before the next second begins
    by_cases leap : nanosPerSecond ≤ w.startsAt.time.nano
    · rw [if_pos leap]
      simp only [nanosPerSecond] at leap ⊢
      omega
    · rw [if_neg leap]
      simp only [nanosPerSecond] at leap ⊢
      omega
  · rw [if_neg later, if_neg (by omega)]
    simp only [nanosPerSecond]
    omega

end Window

end TableBooking
