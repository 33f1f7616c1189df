import TableBooking.Json.Reader
import TableBooking.Json.Writer
import TableBooking.Proofs.Decimal.Numeral
import TableBooking.Proofs.Json.Strings

/-!
Natural numbers are read back as they were written, where something follows that cannot go on with
the number.
-/
namespace TableBooking.Json

open TableBooking.Decimal

/-- What can follow a value: nothing that would make a number longer. -/
def Delimited (rest : Bytes) : Prop :=
  ∀ b ∈ rest.head?, digitByte? b = none ∧ b ≠ 0x2E ∧ b ≠ 0x65 ∧ b ≠ 0x45

theorem digit_encoded {c : Char} (h : c.isDigit = true) :
    String.utf8EncodeChar c = [UInt8.ofNat c.toNat] ∧
      digitByte? (UInt8.ofNat c.toNat) = some (c.toNat - '0'.toNat) := by
  rw [Char.isDigit_iff_toNat] at h
  have range : 48 ≤ c.toNat ∧ c.toNat ≤ 57 := h
  have byte : (UInt8.ofNat c.toNat).toNat = c.toNat := by
    rw [UInt8.toNat_ofNat']
    omega
  constructor
  · exact if_pos (show c.toNat ≤ 0x7F by omega)
  · unfold digitByte?
    rw [if_pos (by simp only [UInt8.le_iff_toNat_le, byte]; exact range), byte]
    rfl

def worths (s : List Char) : List Nat :=
  s.map fun c => c.toNat - '0'.toNat

theorem takeDigits_encoded {s : List Char} (digits : ∀ c ∈ s, c.isDigit = true) {rest : Bytes}
    (delimited : Delimited rest) : takeDigits (encoded s ++ rest) = (worths s, rest) := by
  induction s with
  | nil =>
    cases rest with
    | nil => rfl
    | cons b rest => simp [takeDigits, (delimited b rfl).1, worths]
  | cons c s ih =>
    obtain ⟨byte, digit⟩ := digit_encoded (digits c List.mem_cons_self)
    have tail := ih fun d hd => digits d (List.mem_cons_of_mem _ hd)
    simp only [encoded_cons, byte, List.cons_append, List.nil_append, takeDigits, digit, tail]
    rfl

theorem absorb_worths {s : List Char} {n : Nat} (h : Nat.ofDigitChars 10 s n < wordLimit) :
    absorb n (worths s) = (Nat.ofDigitChars 10 s n, (worths s).length) := by
  induction s generalizing n with
  | nil => simp [worths, absorb]
  | cons c s ih =>
    rw [Nat.ofDigitChars_cons] at h ⊢
    have step := le_ofDigitChars s (10 * n + (c.toNat - '0'.toNat))
    have tail := ih h
    unfold worths at *
    rw [List.map_cons, absorb, if_pos (by omega), tail]
    rfl

theorem readTail_delimited {positive : Bool} {significand : Nat} {exponent : Int}
    {whole : Bytes → Except Fault (Number × Bytes)} {rest : Bytes} (delimited : Delimited rest) :
    readTail positive significand exponent whole rest = whole rest := by
  unfold readTail
  split
  · exact absurd rfl (delimited _ rfl).2.1
  · exact absurd rfl (delimited _ rfl).2.2.1
  · exact absurd rfl (delimited _ rfl).2.2.2
  · rfl

theorem readUnsigned_plain {n : Nat} (h : n < wordLimit) {rest : Bytes}
    (delimited : Delimited rest) :
    readUnsigned true (encoded (plain n) ++ rest) = .ok (.unsigned n, rest) := by
  by_cases zero : n = 0
  · subst zero
    have none : takeDigits rest = ([], rest) := takeDigits_encoded (s := []) (by simp) delimited
    have digit : digitByte? 0x30 = some 0 := by decide
    change readUnsigned true (0x30 :: rest) = _
    simp only [readUnsigned, digit, none, List.isEmpty_nil, if_true, readTail_delimited delimited]
    rfl
  · have numeral := plain_numeral n
    have head := head?_plain_ne (Nat.pos_of_ne_zero zero)
    cases digits : plain n with
    | nil => exact absurd digits (plain_ne_nil n)
    | cons c s =>
      rw [digits] at numeral head
      obtain ⟨byte, digit⟩ := digit_encoded (numeral.digits c List.mem_cons_self)
      obtain ⟨d, first⟩ : ∃ d, c.toNat - '0'.toNat = d + 1 := by
        have isDigit := Char.isDigit_iff_toNat.1 (numeral.digits c List.mem_cons_self)
        have notZero : c.toNat ≠ '0'.toNat :=
          fun same => head (congrArg some (Char.toNat_inj.1 same))
        exact ⟨c.toNat - '0'.toNat - 1, by omega⟩
      have value := numeral.value
      rw [Nat.ofDigitChars_cons, Nat.mul_zero, Nat.zero_add, first] at value
      have taken := takeDigits_encoded
        (fun d hd => numeral.digits d (List.mem_cons_of_mem _ hd)) delimited
      have absorbed := absorb_worths (value ▸ h)
      rw [value] at absorbed
      rw [first] at digit
      simp only [encoded_cons, byte, List.cons_append, List.nil_append, readUnsigned, digit, taken,
        absorbed, Nat.sub_self, if_true, readTail_delimited delimited]
      rfl

def Blank (pad : Bytes) : Prop :=
  ∀ b ∈ pad, isSpace b = true

theorem skipSpace_append {pad : Bytes} (blank : Blank pad) (rest : Bytes) :
    skipSpace (pad ++ rest) = skipSpace rest := by
  induction pad with
  | nil => rfl
  | cons b pad ih =>
    unfold skipSpace at *
    rw [List.cons_append, List.dropWhile_cons_of_pos (blank b List.mem_cons_self)]
    exact ih fun d hd => blank d (List.mem_cons_of_mem _ hd)

theorem skipSpace_cons {b : UInt8} (h : isSpace b = false) (rest : Bytes) :
    skipSpace (b :: rest) = b :: rest :=
  List.dropWhile_cons_of_neg (by simp [h])

theorem isSpace_of_digit {b : UInt8} {d : Nat} (h : digitByte? b = some d) : isSpace b = false := by
  have digit : 0x30 ≤ b := by
    unfold digitByte? at h
    split at h
    · rename_i range
      exact range.1
    · cases h
  rw [UInt8.le_iff_toNat_le] at digit
  simp only [isSpace, Bool.or_eq_false_iff, beq_eq_false_iff_ne, ne_eq, ← UInt8.toNat_inj,
    UInt8.reduceToNat] at digit ⊢
  omega

/-- An integer that is small enough for its type is read back. -/
theorem naturalValue_plain (expected : String) {limit n : Nat} (small : n < limit)
    (word : limit ≤ wordLimit) {pad rest : Bytes} (blank : Blank pad)
    (delimited : Delimited rest) :
    naturalValue expected limit (pad ++ (encoded (plain n) ++ rest)) = .ok (n, rest) := by
  have read := readUnsigned_plain (Nat.lt_of_lt_of_le small word) delimited
  cases digits : plain n with
  | nil => exact absurd digits (plain_ne_nil n)
  | cons c s =>
    have isDigit := (plain_numeral n).digits c (digits ▸ List.mem_cons_self)
    obtain ⟨byte, digit⟩ := digit_encoded isDigit
    have minus : UInt8.ofNat c.toNat ≠ 0x2D := by
      intro same
      rw [same] at digit
      cases digit
    have some : (digitByte? (UInt8.ofNat c.toNat)).isSome = true := by rw [digit]; rfl
    rw [digits, encoded_cons, byte] at read
    simp only [List.cons_append, List.nil_append] at read
    unfold naturalValue
    rw [skipSpace_append blank, encoded_cons, byte]
    simp only [List.cons_append, List.nil_append, skipSpace_cons (isSpace_of_digit digit), minus,
      some, read, if_true, if_false, boundedInteger, small]

end TableBooking.Json
