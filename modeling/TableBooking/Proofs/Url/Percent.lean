import TableBooking.Proofs.Json.Strings
import TableBooking.Url

/-!
Percent encoding loses nothing of a text without percent signs, and leaves its dots and slashes
where they are.
-/
namespace TableBooking.Url

open TableBooking.Json

@[simp] theorem percentEncode_nil (inSet : Char → Bool) : percentEncode inSet [] = [] := rfl

@[simp] theorem percentEncode_append (inSet : Char → Bool) (s t : List Char) :
    percentEncode inSet (s ++ t) = percentEncode inSet s ++ percentEncode inSet t :=
  List.flatMap_append

/-- A character stands for itself or is written byte by byte. -/
theorem percentEncode_cons (inSet : Char → Bool) (c : Char) (s : List Char) :
    c.toNat < 0x80 ∧ inSet c = false ∧
        percentEncode inSet (c :: s) = c :: percentEncode inSet s ∨
      (c.toNat < 0x80 → inSet c = true) ∧
        percentEncode inSet (c :: s) =
          (String.utf8EncodeChar c).flatMap percentByte ++ percentEncode inSet s := by
  have bytes : utf8 (String.singleton c) = String.utf8EncodeChar c := by
    rw [String.singleton_eq_ofList, utf8_ofList, encoded_cons, encoded_nil, List.append_nil]
  unfold percentEncode
  rw [List.flatMap_cons, bytes]
  by_cases plain : (c.toNat < 0x80 && !inSet c) = true
  · rw [if_pos plain]
    left
    simp only [Bool.and_eq_true, decide_eq_true_eq, Bool.not_eq_true'] at plain
    exact ⟨plain.1, plain.2, rfl⟩
  · rw [if_neg plain]
    right
    refine ⟨?_, rfl⟩
    simpa using plain

section Decoding

theorem utf8EncodeChar_of_ascii {c : Char} (h : c.toNat < 0x80) :
    String.utf8EncodeChar c = [UInt8.ofNat c.toNat] :=
  if_pos (Nat.le_of_lt_succ h)

theorem percentDecode_cons_of_ne {b : UInt8} (h : b ≠ 0x25) (rest : Bytes) :
    percentDecode (b :: rest) = b :: percentDecode rest := by
  rcases rest with _ | ⟨x, _ | ⟨y, rest⟩⟩
  · simp [percentDecode]
  · simp [percentDecode]
  · rw [percentDecode, if_neg h]

theorem hexByte?_hexDigit : ∀ d < 16,
    String.utf8EncodeChar (hexDigit d) = [UInt8.ofNat (hexDigit d).toNat] ∧
      hexByte? (UInt8.ofNat (hexDigit d).toNat) = some d := by
  decide

theorem percentDecode_percentByte (b : UInt8) (rest : Bytes) :
    percentDecode (encoded (percentByte b) ++ rest) = b :: percentDecode rest := by
  have small : b.toNat < 256 := b.toNat_lt
  obtain ⟨highByte, high⟩ := hexByte?_hexDigit (b.toNat / 16) (by omega)
  obtain ⟨lowByte, low⟩ := hexByte?_hexDigit (b.toNat % 16) (by omega)
  have percent : String.utf8EncodeChar '%' = [0x25] := by decide
  have worth : 16 * (b.toNat / 16) + b.toNat % 16 = b.toNat := by omega
  simp only [percentByte, encoded_cons, encoded_nil, percent, highByte, lowByte, List.cons_append,
    List.nil_append]
  rw [percentDecode, if_pos rfl, high, low]
  simp only [worth, Nat.toUInt8, UInt8.ofNat_toNat]

theorem percentDecode_flatMap (bytes rest : Bytes) :
    percentDecode (encoded (bytes.flatMap percentByte) ++ rest) = bytes ++ percentDecode rest := by
  induction bytes with
  | nil => rfl
  | cons b bytes ih =>
    rw [List.flatMap_cons, encoded_append, List.append_assoc, percentDecode_percentByte, ih]
    rfl

theorem percentDecode_percentEncode (inSet : Char → Bool) {s : List Char} (h : '%' ∉ s) :
    percentDecode (encoded (percentEncode inSet s)) = encoded s := by
  induction s with
  | nil => simp [percentDecode]
  | cons c s ih =>
    rw [List.mem_cons, not_or] at h
    have ih := ih h.2
    rcases percentEncode_cons inSet c s with ⟨ascii, _, kept⟩ | ⟨_, written⟩
    · have other : UInt8.ofNat c.toNat ≠ 0x25 := by
        intro same
        apply h.1
        rw [← UInt8.toNat_inj, UInt8.toNat_ofNat_of_lt' (by simp only [UInt8.size]; omega)] at same
        exact (Char.toNat_inj.1 same).symm
      rw [kept, encoded_cons, encoded_cons, utf8EncodeChar_of_ascii ascii, List.cons_append,
        List.nil_append, percentDecode_cons_of_ne other, ih]
      rfl
    · rw [written, encoded_append, percentDecode_flatMap, ih, encoded_cons]

theorem percentEncode_inj {inSet : Char → Bool} {s t : List Char} (hs : '%' ∉ s) (ht : '%' ∉ t)
    (same : percentEncode inSet s = percentEncode inSet t) : s = t := by
  apply encoded_injective
  rw [← percentDecode_percentEncode inSet hs, same, percentDecode_percentEncode inSet ht]

end Decoding

section Dots

theorem dotsShown_cons_of_ne {c : Char} (h : c ≠ '%') (rest : List Char) :
    dotsShown (c :: rest) = c :: dotsShown rest := by
  rw [dotsShown]
  · rintro _ rfl
    exact absurd rfl h
  · rintro _ rfl
    exact absurd rfl h

theorem hexDigit_facts : ∀ d < 16, hexDigit d ≠ '%' ∧ hexDigit d ≠ 'e' ∧
    (hexDigit d = '2' → d = 2) ∧ (hexDigit d = 'E' → d = 14) := by
  decide

/-- No byte but that of a dot is written like a dot. -/
theorem dotsShown_percentByte {b : UInt8} (h : b.toNat ≠ 0x2E) (rest : List Char) :
    dotsShown (percentByte b ++ rest) = percentByte b ++ dotsShown rest := by
  have small : b.toNat < 256 := b.toNat_lt
  obtain ⟨high, _, two, _⟩ := hexDigit_facts (b.toNat / 16) (by omega)
  obtain ⟨low, small, _, capital⟩ := hexDigit_facts (b.toNat % 16) (by omega)
  simp only [percentByte, List.cons_append, List.nil_append]
  rw [dotsShown, dotsShown_cons_of_ne high, dotsShown_cons_of_ne low]
  · intro tail _ same
    simp only [List.cons.injEq] at same
    exact small same.2.1
  · intro tail _ same
    simp only [List.cons.injEq] at same
    have := two same.1
    have := capital same.2.1
    omega

theorem dotsShown_flatMap {bytes : Bytes} (h : ∀ b ∈ bytes, b.toNat ≠ 0x2E) (rest : List Char) :
    dotsShown (bytes.flatMap percentByte ++ rest) =
      bytes.flatMap percentByte ++ dotsShown rest := by
  induction bytes with
  | nil => rfl
  | cons b bytes ih =>
    rw [List.forall_mem_cons] at h
    rw [List.flatMap_cons, List.append_assoc, dotsShown_percentByte h.1, ih h.2, List.append_assoc]

/-- Encoding hides no dots. -/
theorem dotsShown_percentEncode {s : List Char} (h : '%' ∉ s) :
    dotsShown (percentEncode inPathSet s) = percentEncode inPathSet s := by
  induction s with
  | nil => rfl
  | cons c s ih =>
    rw [List.mem_cons, not_or] at h
    have ih := ih h.2
    rcases percentEncode_cons inPathSet c s with ⟨_, _, kept⟩ | ⟨special, written⟩
    · rw [kept, dotsShown_cons_of_ne (Ne.symm h.1), ih]
    · have noDot : ∀ b ∈ String.utf8EncodeChar c, b.toNat ≠ 0x2E := by
        intro b hb dot
        rcases mem_utf8EncodeChar hb with same | outside
        · obtain rfl : c = '.' := Char.toNat_inj.1 (same.symm.trans dot)
          exact absurd (special (by decide)) (by decide)
        · omega
      rw [written, dotsShown_flatMap noDot, ih]

/-- A segment without percent signs counts as a dot segment only if it is one. -/
theorem dotsShown_percentEncode_eq {s dots : List Char} (h : '%' ∉ s) (plain : '%' ∉ dots)
    (same : percentEncode inPathSet dots = dots) :
    dotsShown (percentEncode inPathSet s) = dots ↔ s = dots := by
  rw [dotsShown_percentEncode h]
  constructor
  · intro shown
    exact percentEncode_inj h plain (shown.trans same.symm)
  · rintro rfl
    exact same

end Dots

end TableBooking.Url
