import Mathlib.Tactic.Common
import TableBooking.Json.Text

/-!
JSON strings are read back as they were written: what was escaped is unescaped, and every other
character is taken over with all its bytes.
-/
namespace TableBooking.Json

def encoded (s : List Char) : Bytes :=
  s.flatMap String.utf8EncodeChar

@[simp] theorem encoded_nil : encoded [] = [] := rfl

@[simp] theorem encoded_cons (c : Char) (s : List Char) :
    encoded (c :: s) = String.utf8EncodeChar c ++ encoded s := rfl

@[simp] theorem encoded_append (s t : List Char) : encoded (s ++ t) = encoded s ++ encoded t :=
  List.flatMap_append

theorem toList_eq_data (bytes : ByteArray) : bytes.toList = bytes.data.toList := by
  have go : ∀ i taken, ByteArray.toList.loop bytes i taken =
      taken.reverse ++ bytes.data.toList.drop i := by
    intro i taken
    fun_induction ByteArray.toList.loop bytes i taken with
    | case1 i taken inside ih =>
      have inData : i < bytes.data.toList.length := inside
      rw [ih, List.drop_eq_getElem_cons inData]
      simp [ByteArray.get!, inside]
    | case2 i taken outside =>
      rw [List.drop_eq_nil_of_le (Nat.le_of_not_lt outside)]
      simp
  exact (go 0 []).trans (by simp)

theorem utf8_ofList (s : List Char) : utf8 (String.ofList s) = encoded s := by
  unfold utf8
  rw [String.toUTF8_eq_toByteArray, String.toByteArray_ofList, toList_eq_data, List.utf8Encode,
    List.toList_data_toByteArray]
  rfl

theorem utf8_eq_encoded (s : String) : utf8 s = encoded s.toList := by
  rw [← utf8_ofList, String.ofList_toList]

theorem ofUtf8?_utf8 (s : String) : ofUtf8? (utf8 s) = some s := by
  have bytes : ByteArray.mk (utf8 s).toArray = s.toByteArray := by
    unfold utf8
    rw [String.toUTF8_eq_toByteArray, toList_eq_data, Array.toArray_toList]
  unfold ofUtf8? String.fromUTF8?
  rw [bytes, dif_pos s.isValidUTF8]
  rfl

theorem encoded_injective : Function.Injective encoded := by
  intro s t same
  rw [← utf8_ofList, ← utf8_ofList] at same
  have read := ofUtf8?_utf8 (String.ofList s)
  rw [same, ofUtf8?_utf8] at read
  exact (String.ofList_injective (Option.some.inj read)).symm

/-- A byte of a character is the character itself, or it is outside ASCII. -/
theorem mem_utf8EncodeChar {b : UInt8} {c : Char} (h : b ∈ String.utf8EncodeChar c) :
    b.toNat = c.toNat ∨ 0x80 ≤ b.toNat := by
  unfold String.utf8EncodeChar at h
  simp only at h
  split at h
  · rw [List.mem_singleton] at h
    subst h
    left
    rw [UInt8.toNat_ofNat_of_lt' (by simp only [UInt8.size]; omega)]
    rfl
  · right
    split at h
    · simp only [List.mem_cons, List.not_mem_nil, or_false] at h
      rcases h with rfl | rfl <;> rw [UInt8.toNat_ofNat'] <;> omega
    · split at h
      · simp only [List.mem_cons, List.not_mem_nil, or_false] at h
        rcases h with rfl | rfl | rfl <;> rw [UInt8.toNat_ofNat'] <;> omega
      · simp only [List.mem_cons, List.not_mem_nil, or_false] at h
        rcases h with rfl | rfl | rfl | rfl <;> rw [UInt8.toNat_ofNat'] <;> omega

def prepend (front : Bytes) (found : Except Fault (Bytes × Bytes)) : Except Fault (Bytes × Bytes) :=
  found.map fun (more, tail) => (front ++ more, tail)

theorem readStringBytes_escape {rest out tail : Bytes} (h : readEscape rest = .ok (out, tail)) :
    readStringBytes (0x5C :: rest) = prepend out (readStringBytes tail) := by
  rw [readStringBytes, if_neg (by decide), if_pos rfl]
  split
  · rename_i failed
    rw [h] at failed
    cases failed
  · rename_i read
    rw [h] at read
    cases read
    cases readStringBytes tail <;> rfl

/-- A byte that stands for itself inside a string. -/
def Plain (b : UInt8) : Prop :=
  b ≠ 0x22 ∧ b ≠ 0x5C ∧ 0x20 ≤ b

theorem readStringBytes_plain {bytes : Bytes} (h : ∀ b ∈ bytes, Plain b) (rest : Bytes) :
    readStringBytes (bytes ++ rest) = prepend bytes (readStringBytes rest) := by
  induction bytes with
  | nil => cases read : readStringBytes rest <;> simp [prepend, Except.map, read]
  | cons b bytes ih =>
    obtain ⟨quote, backslash, visible⟩ := h b List.mem_cons_self
    rw [List.cons_append, readStringBytes, if_neg quote, if_neg backslash,
      if_neg (UInt8.not_lt.2 visible), ih fun d hd => h d (List.mem_cons_of_mem _ hd)]
    cases readStringBytes rest <;> rfl

theorem plain_of_mem_utf8EncodeChar {c : Char} (quote : c ≠ '"') (backslash : c ≠ '\\')
    (visible : 0x20 ≤ c.toNat) : ∀ b ∈ String.utf8EncodeChar c, Plain b := by
  intro b hb
  have apart : ∀ d : Char, c ≠ d → c.toNat ≠ d.toNat :=
    fun d different same => different (Char.toNat_inj.1 same)
  have notQuote := apart '"' quote
  have notBackslash := apart '\\' backslash
  simp only [Plain, ne_eq, UInt8.le_iff_toNat_le, ← UInt8.toNat_inj, UInt8.reduceToNat]
  rcases mem_utf8EncodeChar hb with same | outside
  · rw [same]
    exact ⟨notQuote, notBackslash, visible⟩
  · omega

theorem hexByte?_digitChar : ∀ d < 16,
    String.utf8EncodeChar (Nat.digitChar d) = [UInt8.ofNat (Nat.digitChar d).toNat] ∧
      hexByte? (UInt8.ofNat (Nat.digitChar d).toNat) = some d := by
  decide

/-- The escape of a control character without a letter of its own gives the character. -/
theorem readEscape_control {c : Char} (h : c.toNat < 0x20) (rest : Bytes) :
    readEscape (encoded ['u', '0', '0', Nat.digitChar (c.toNat / 16), Nat.digitChar (c.toNat % 16)]
      ++ rest) = .ok (String.utf8EncodeChar c, rest) := by
  obtain ⟨highByte, high⟩ := hexByte?_digitChar (c.toNat / 16) (by omega)
  obtain ⟨lowByte, low⟩ := hexByte?_digitChar (c.toNat % 16) (by omega)
  have zero : hexByte? 0x30 = some 0 := by decide
  have point : utf8CodePoint c.toNat = String.utf8EncodeChar c := by
    unfold utf8CodePoint
    rw [Char.ofNat_toNat, String.singleton_eq_ofList, utf8_ofList, encoded_cons, encoded_nil,
      List.append_nil]
  have worth : ((0 * 16 + 0) * 16 + c.toNat / 16) * 16 + c.toNat % 16 = c.toNat := by omega
  have digits : fourHexDigits (0x30 :: 0x30 :: UInt8.ofNat (Nat.digitChar (c.toNat / 16)).toNat ::
      UInt8.ofNat (Nat.digitChar (c.toNat % 16)).toNat :: rest) = .ok (c.toNat, rest) := by
    simp only [fourHexDigits, zero, high, low, worth]
  have bytes : encoded ['u', '0', '0', Nat.digitChar (c.toNat / 16), Nat.digitChar (c.toNat % 16)]
      ++ rest = 0x75 :: 0x30 :: 0x30 :: UInt8.ofNat (Nat.digitChar (c.toNat / 16)).toNat ::
        UInt8.ofNat (Nat.digitChar (c.toNat % 16)).toNat :: rest := by
    simp only [encoded_cons, encoded_nil, highByte, lowByte]
    rfl
  have noShort : shortEscape? 0x75 = none := by decide
  rw [bytes]
  simp only [readEscape, noShort, digits, ne_eq, not_true_eq_false, if_false]
  rw [if_neg (by omega), if_pos (by omega), point]

theorem readStringBytes_escapeChar (c : Char) (rest : Bytes) :
    readStringBytes (encoded (escapeChar c) ++ rest) =
      prepend (String.utf8EncodeChar c) (readStringBytes rest) := by
  fun_cases escapeChar c with
  | case1 quote =>
    subst quote
    exact readStringBytes_escape rfl
  | case2 _ backslash =>
    subst backslash
    exact readStringBytes_escape rfl
  | case3 _ _ newline =>
    subst newline
    exact readStringBytes_escape rfl
  | case4 _ _ _ carriageReturn =>
    subst carriageReturn
    exact readStringBytes_escape rfl
  | case5 _ _ _ _ tab =>
    subst tab
    exact readStringBytes_escape rfl
  | case6 _ _ _ _ _ backspace =>
    obtain rfl : c = Char.ofNat 0x08 := Char.toNat_inj.1 backspace
    exact readStringBytes_escape rfl
  | case7 _ _ _ _ _ _ formFeed =>
    obtain rfl : c = Char.ofNat 0x0C := Char.toNat_inj.1 formFeed
    exact readStringBytes_escape rfl
  | case8 _ _ _ _ _ _ _ control => exact readStringBytes_escape (readEscape_control control rest)
  | case9 quote backslash _ _ _ _ _ visible =>
    rw [encoded_cons, encoded_nil, List.append_nil]
    exact readStringBytes_plain
      (plain_of_mem_utf8EncodeChar quote backslash (Nat.le_of_not_lt visible)) rest

theorem readStringBytes_escaped (s : List Char) (rest : Bytes) :
    readStringBytes (encoded (s.flatMap escapeChar) ++ 0x22 :: rest) = .ok (encoded s, rest) := by
  induction s with
  | nil =>
    rw [List.flatMap_nil, encoded_nil, List.nil_append, readStringBytes, if_pos rfl]
  | cons c s ih =>
    rw [List.flatMap_cons, encoded_append, List.append_assoc, readStringBytes_escapeChar, ih]
    rfl

/-- Behind its opening quote, a string is read back as it was written. -/
theorem readString_escaped (s : String) (rest : Bytes) :
    readString (encoded (s.toList.flatMap escapeChar) ++ 0x22 :: rest) = .ok (s, rest) := by
  unfold readString
  rw [readStringBytes_escaped, ← utf8_eq_encoded]
  simp only [ofUtf8?_utf8]

theorem encoded_writeString (s : String) :
    encoded (writeString s) = 0x22 :: (encoded (s.toList.flatMap escapeChar) ++ [0x22]) := by
  unfold writeString
  rw [List.cons_append, encoded_cons, encoded_append]
  rfl

end TableBooking.Json
