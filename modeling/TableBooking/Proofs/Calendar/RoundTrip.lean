import TableBooking.Calendar.Printer
import TableBooking.Calendar.Reader
import TableBooking.Proofs.Decimal.Numeral

/-!
Dates and instants are read back as they were printed, in every year of the calendar, with leap
seconds and with fractions.
-/
namespace TableBooking.Calendar

open TableBooking.Text TableBooking.Decimal

theorem bind_of_ok {α β : Type} {x : Except ReadError α} {a : α} (h : x = .ok a)
    (f : α → Except ReadError β) : x >>= f = f a := by
  rw [h]
  rfl

theorem isBlank_of_isDigit {c : Char} (h : c.isDigit = true) : isBlank c = false := by
  rw [Char.isDigit_iff_toNat] at h
  have : 48 ≤ c.toNat ∧ c.toNat ≤ 57 := h
  simp only [isBlank, Bool.or_eq_false_iff, Bool.and_eq_false_iff, decide_eq_false_iff_not,
    beq_eq_false_iff_ne]
  omega

/-- A text before which a numeral ends. -/
def Ends (rest : List Char) : Prop :=
  ∀ c ∈ rest.head?, digit? c = none

theorem moreDigits_append {s rest : List Char} {width n : Nat} (digits : ∀ c ∈ s, c.isDigit = true)
    (fits : s.length ≤ width) (ends : s.length = width ∨ Ends rest)
    (small : Nat.ofDigitChars 10 s n < numberLimit) :
    moreDigits width n (s ++ rest) = .ok (Nat.ofDigitChars 10 s n, rest) := by
  induction s generalizing width n with
  | nil =>
    cases width with
    | zero => simp [moreDigits]
    | succ width =>
      have ends : Ends rest := ends.resolve_left (by simp)
      cases rest with
      | nil => simp [moreDigits]
      | cons c rest => simp [moreDigits, ends c rfl]
  | cons c s ih =>
    obtain ⟨width, rfl⟩ : ∃ w, width = w + 1 := ⟨width - 1, by simp at fits; omega⟩
    rw [Nat.ofDigitChars_cons] at small ⊢
    have step := le_ofDigitChars s (10 * n + (c.toNat - '0'.toNat))
    simp only [List.cons_append, moreDigits, digit?_of_isDigit (digits c List.mem_cons_self)]
    rw [if_pos (by omega)]
    exact ih (fun d hd => digits d (List.mem_cons_of_mem _ hd)) (by simpa using fits)
      (by simpa using ends) small

theorem number_append {s rest : List Char} {width n : Nat} (h : Numeral s n) (nonempty : s ≠ [])
    (fits : s.length ≤ width) (ends : s.length = width ∨ Ends rest) (small : n < numberLimit) :
    number width (s ++ rest) = .ok (n, rest) := by
  cases s with
  | nil => exact absurd rfl nonempty
  | cons c s =>
    have value := h.value
    rw [Nat.ofDigitChars_cons, Nat.mul_zero, Nat.zero_add] at value
    have length : (c :: s).length = s.length + 1 := rfl
    simp only [List.cons_append, number, digit?_of_isDigit (h.digits c List.mem_cons_self)]
    rw [moreDigits_append (fun d hd => h.digits d (List.mem_cons_of_mem _ hd)) (by omega)
      (ends.imp_left (by omega)) (by omega), value]

theorem number_padded {width n : Nat} (pos : 0 < width) (h : n < 10 ^ width)
    (small : n < numberLimit) (rest : List Char) :
    number width (padded width n ++ rest) = .ok (n, rest) :=
  number_append (padded_numeral width n) (padded_ne_nil width n)
    (Nat.le_of_eq (length_padded pos h)) (Or.inl (length_padded pos h)) small

theorem dropBlanks_numeral {s : List Char} {n : Nat} (h : Numeral s n) (nonempty : s ≠ [])
    (rest : List Char) : dropBlanks (s ++ rest) = s ++ rest := by
  cases s with
  | nil => exact absurd rfl nonempty
  | cons c s =>
    exact dropBlanks_cons_of_not_blank (isBlank_of_isDigit (h.digits c List.mem_cons_self))

theorem boundedNumber_padded {least limit n : Nat} (low : least ≤ n) (high : n ≤ limit)
    (fits : limit < 100) (rest : List Char) :
    boundedNumber 2 least limit (padded 2 n ++ rest) = .ok (n, rest) := by
  have small : n < numberLimit := by unfold numberLimit; omega
  unfold boundedNumber
  rw [dropBlanks_numeral (padded_numeral 2 n) (padded_ne_nil 2 n),
    number_padded (by decide) (by omega) small]
  simp [bind, Except.bind, low, high]

theorem ends_hyphen (rest : List Char) : Ends ('-' :: rest) := by
  rintro c ⟨⟩
  rfl

/-- A text that begins with a digit begins with no sign. -/
theorem unsigned_of_isDigit {α : Type} {c : Char} {s : List Char} (h : c.isDigit = true)
    (negative positive unsigned : List Char → α) :
    (match c :: s with
      | '-' :: t => negative t
      | '+' :: t => positive t
      | t => unsigned t) = unsigned (c :: s) := by
  split
  · cases (List.cons.inj ‹_›).1
    cases h
  · cases (List.cons.inj ‹_›).1
    cases h
  · rfl

section Year

variable {c : Char} {s rest : List Char} {n : Nat}

theorem year_of_digit (h : c.isDigit = true) (read : number 4 (c :: s) = .ok (n, rest))
    (small : n < 0x80000000) : year (c :: s) = .ok ((n : Int), rest) := by
  have range : -0x80000000 ≤ (n : Int) ∧ (n : Int) < 0x80000000 := by omega
  unfold year
  rw [dropBlanks_cons_of_not_blank (isBlank_of_isDigit h)]
  refine (unsigned_of_isDigit h _ _ _).trans ?_
  refine (bind_of_ok read _).trans ?_
  exact (pure_bind ((n : Int), rest) _).trans (if_pos range)

theorem year_of_minus (read : number s.length s = .ok (n, rest)) (small : n < 0x80000000) :
    year ('-' :: s) = .ok (-(n : Int), rest) := by
  have range : -0x80000000 ≤ -(n : Int) ∧ -(n : Int) < 0x80000000 := by omega
  unfold year
  rw [dropBlanks_cons_of_not_blank (by decide)]
  refine (bind_of_ok read _).trans ?_
  exact (pure_bind (-(n : Int), rest) _).trans (if_pos range)

theorem year_of_plus (read : number s.length s = .ok (n, rest)) (small : n < 0x80000000) :
    year ('+' :: s) = .ok ((n : Int), rest) := by
  have range : -0x80000000 ≤ (n : Int) ∧ (n : Int) < 0x80000000 := by omega
  unfold year
  rw [dropBlanks_cons_of_not_blank (by decide)]
  refine (bind_of_ok read _).trans ?_
  exact (pure_bind ((n : Int), rest) _).trans (if_pos range)

end Year

theorem year_yearText {y : Int} (low : Date.minYear ≤ y) (high : y ≤ Date.maxYear)
    (rest : List Char) : year (Date.yearText y ++ '-' :: rest) = .ok (y, '-' :: rest) := by
  unfold Date.minYear at low
  unfold Date.maxYear at high
  have small : y.natAbs < numberLimit := by unfold numberLimit; omega
  unfold Date.yearText
  by_cases plain : 0 ≤ y ∧ y ≤ 9999
  · obtain ⟨n, rfl⟩ := Int.eq_ofNat_of_zero_le plain.1
    have numeral := padded_numeral 4 n
    have read := number_padded (by decide : 0 < 4) (by omega : n < 10 ^ 4) small ('-' :: rest)
    rw [if_pos plain, Int.toNat_natCast]
    cases digits : padded 4 n with
    | nil => exact absurd digits (padded_ne_nil 4 n)
    | cons c s =>
      rw [digits] at read numeral
      exact year_of_digit (numeral.digits c List.mem_cons_self) read (by omega)
  · -- behind a sign the digits are read up to the hyphen
    have read : number (padded 4 y.natAbs ++ '-' :: rest).length
        (padded 4 y.natAbs ++ '-' :: rest) = .ok (y.natAbs, '-' :: rest) :=
      number_append (padded_numeral 4 _) (padded_ne_nil 4 _) (by simp)
        (Or.inr (ends_hyphen rest)) small
    rw [if_neg plain]
    by_cases negative : y < 0
    · have value : -(y.natAbs : Int) = y := by omega
      rw [if_pos negative, List.cons_append, year_of_minus read (by omega), value]
    · have value : (y.natAbs : Int) = y := by omega
      rw [if_neg negative, List.cons_append, year_of_plus read (by omega), value]

theorem dateParts_text (d : Date) (rest : List Char) :
    dateParts (d.text ++ rest) = .ok (⟨d.year, d.month, d.day⟩, rest) := by
  obtain ⟨yearLow, yearHigh, monthLow, monthHigh, dayLow, dayHigh⟩ := d.valid
  have days : Date.daysInMonth d.year d.month ≤ 31 := by
    unfold Date.daysInMonth
    split <;> (try split) <;> omega
  have text : d.text ++ rest =
      Date.yearText d.year ++ '-' :: (padded 2 d.month ++ '-' :: (padded 2 d.day ++ rest)) := by
    simp [Date.text]
  have hyphen : ∀ t, dropBlanks ('-' :: t) = '-' :: t :=
    fun t => dropBlanks_cons_of_not_blank (by decide)
  unfold dateParts
  rw [text, year_yearText yearLow yearHigh]
  simp only [hyphen, literal, boundedNumber_padded monthLow monthHigh (by decide),
    boundedNumber_padded dayLow (by omega : d.day ≤ 31) (by decide), bind, Except.bind, pure,
    Except.pure, if_true]

theorem date_parts (d : Date) : DateParts.date ⟨d.year, d.month, d.day⟩ = .ok d := by
  rw [DateParts.date, Date.ofParts?_self]

theorem readDate_text (d : Date) : readDate (String.ofList d.text) = .ok d := by
  have read := dateParts_text d []
  rw [List.append_nil] at read
  unfold readDate
  rw [String.toList_ofList, read]
  exact date_parts d

theorem ends_zone (rest : List Char) : Ends ('Z' :: rest) := by
  rintro c ⟨⟩
  rfl

theorem fraction_padded {width n : Nat} (pos : 0 < width) (least : width ≤ 9) (h : n < 10 ^ width)
    (rest : List Char) :
    fraction (padded width n ++ 'Z' :: rest) = .ok (n * 10 ^ (9 - width), 'Z' :: rest) := by
  have length := length_padded pos h
  have small : n < numberLimit :=
    Nat.lt_of_lt_of_le h (Nat.le_trans (Nat.pow_le_pow_right (by decide) least) (by decide))
  have taken : (padded width n ++ 'Z' :: rest).length - ('Z' :: rest).length = width := by
    rw [List.length_append, length, Nat.add_sub_cancel]
  unfold fraction
  rw [number_append (padded_numeral width n) (padded_ne_nil width n) (by omega)
    (Or.inr (ends_zone rest)) small]
  simp only [bind, Except.bind, taken]
  rfl

/-- A fraction is left out, or it is some digits of which the last stands for its own power of
ten. -/
theorem fractionText_cases {nanos : Nat} (h : nanos < nanosPerSecond) :
    nanos = 0 ∨ ∃ width n, TimeOfDay.fractionText nanos = '.' :: padded width n ∧ 0 < width ∧
      width ≤ 9 ∧ n < 10 ^ width ∧ n * 10 ^ (9 - width) = nanos := by
  unfold nanosPerSecond at h
  unfold TimeOfDay.fractionText
  by_cases none : nanos = 0
  · exact Or.inl none
  · rw [if_neg none]
    by_cases millis : nanos % 1_000_000 = 0
    · exact Or.inr ⟨3, _, if_pos millis, by decide, by decide, by omega, by omega⟩
    · rw [if_neg millis]
      by_cases micros : nanos % 1_000 = 0
      · exact Or.inr ⟨6, _, if_pos micros, by decide, by decide, by omega, by omega⟩
      · exact Or.inr ⟨9, _, if_neg micros, by decide, by decide, by omega, by omega⟩

theorem timeParts_text (t : TimeOfDay) (rest : List Char) :
    timeParts (t.text ++ 'Z' :: rest) =
      .ok (⟨t.hour, t.minute, t.secondOfMinute, t.fraction⟩, 'Z' :: rest) := by
  obtain ⟨inDay, inLeap, leap⟩ := t.valid
  have hour : t.hour ≤ 23 := by unfold TimeOfDay.hour; omega
  have minute : t.minute ≤ 59 := by unfold TimeOfDay.minute; omega
  have second : t.secondOfMinute ≤ 60 := by
    unfold TimeOfDay.secondOfMinute nanosPerSecond at *
    omega
  have inSecond : t.fraction < nanosPerSecond := Nat.mod_lt _ (by decide)
  have text : t.text ++ 'Z' :: rest =
      padded 2 t.hour ++ ':' :: (padded 2 t.minute ++ ':' :: (padded 2 t.secondOfMinute ++
        (TimeOfDay.fractionText t.fraction ++ 'Z' :: rest))) := by
    simp [TimeOfDay.text, TimeOfDay.shortText]
  have colon : ∀ s, dropBlanks (':' :: s) = ':' :: s :=
    fun s => dropBlanks_cons_of_not_blank (by decide)
  have zone : dropBlanks ('Z' :: rest) = 'Z' :: rest := dropBlanks_cons_of_not_blank (by decide)
  unfold timeParts
  rw [text]
  simp only [boundedNumber_padded (Nat.zero_le _) hour (by decide), colon, literal,
    boundedNumber_padded (Nat.zero_le _) minute (by decide),
    boundedNumber_padded (Nat.zero_le _) second (by decide), bind, Except.bind, if_true]
  rcases fractionText_cases inSecond with none | ⟨width, n, present, pos, least, fits, worth⟩
  · have absent : TimeOfDay.fractionText 0 = [] := rfl
    simp only [none, absent, List.nil_append, pure, Except.pure, zone]
    rfl
  · simp only [present, List.cons_append, fraction_padded pos least fits, worth, pure, Except.pure,
      zone]

theorem time_ext {a b : TimeOfDay} (second : a.second = b.second)
    (nano : a.nano = b.nano) : a = b := by
  cases a
  cases b
  cases second
  cases nano
  rfl

theorem time_parts (t : TimeOfDay) :
    TimeParts.time ⟨t.hour, t.minute, t.secondOfMinute, t.fraction⟩ = .ok t := by
  obtain ⟨second, nano, inDay, inLeap, leap⟩ := t
  have same : TimeOfDay.ofParts? (second / 3600) (second / 60 % 60)
      (second % 60 + nano / nanosPerSecond) (nano % nanosPerSecond) =
        some ⟨second, nano, inDay, inLeap, leap⟩ := by
    unfold TimeOfDay.ofParts?
    unfold nanosPerSecond at *
    by_cases inLeapSecond : 1_000_000_000 ≤ nano
    · have last := leap inLeapSecond
      have written : second % 60 + nano / 1_000_000_000 = 60 := by omega
      simp only [written, if_true]
      rw [if_pos (by omega), dif_pos (by omega)]
      exact congrArg some (time_ext (by simp only; omega) (by simp only; omega))
    · have written : second % 60 + nano / 1_000_000_000 = second % 60 := by omega
      have ordinary : second % 60 ≠ 60 := by omega
      simp only [written, ordinary, if_false]
      rw [if_pos (by omega), dif_pos (by omega)]
      exact congrArg some (time_ext (by simp only; omega) (by simp only; omega))
  unfold TimeParts.time TimeOfDay.hour TimeOfDay.minute TimeOfDay.secondOfMinute TimeOfDay.fraction
  rw [same]

theorem ofLocal?_zero (t : Timestamp) :
    Timestamp.ofLocal? t.date t.time (0 * 60) (by omega) = some t := by
  have inDay := t.time.valid.1
  have kept : (((t.time.second : Int) - 0 * 60) % 86400).toNat = t.time.second := by omega
  unfold Timestamp.ofLocal?
  simp only [kept]
  rw [if_neg (by omega), if_pos (by omega)]
  rfl

theorem readTimestamp_text (t : Timestamp) : readTimestamp (String.ofList t.text) = .ok t := by
  have text : t.text = t.date.text ++ 'T' :: (t.time.text ++ 'Z' :: []) := by
    simp [Timestamp.text]
  have joined : joint ('T' :: (t.time.text ++ 'Z' :: [])) =
      .ok ((), t.time.text ++ 'Z' :: []) := rfl
  have greenwich : zone ['Z'] = .ok (0, []) := rfl
  unfold readTimestamp
  rw [String.toList_ofList, text]
  refine (bind_of_ok (dateParts_text t.date _) _).trans ?_
  refine (bind_of_ok joined _).trans ?_
  refine (bind_of_ok (timeParts_text t.time []) _).trans ?_
  refine (bind_of_ok greenwich _).trans ?_
  refine (if_neg (by simp [dropBlanks])).trans ?_
  refine (bind_of_ok (date_parts t.date) _).trans ?_
  refine (bind_of_ok (time_parts t.time) _).trans ?_
  refine (if_neg (by decide)).trans ?_
  split
  · rename_i same
    rw [ofLocal?_zero] at same
    cases same
    rfl
  · rename_i none
    rw [ofLocal?_zero] at none
    cases none

end TableBooking.Calendar
