import TableBooking.Json.Fault
import TableBooking.Text.CodePoints

/-!
JSON strings. Reading undoes escapes and checks that the bytes are UTF-8; passing over a string
checks only that its escapes have the right form. Writing escapes what JSON does not allow inside a
string and nothing else.
-/
namespace TableBooking.Json

def utf8 (s : String) : Bytes :=
  s.toUTF8.toList

def ofUtf8? (b : Bytes) : Option String :=
  String.fromUTF8? (ByteArray.mk b.toArray)

def utf8CodePoint (n : Nat) : Bytes :=
  utf8 (String.singleton (Char.ofNat n))

def hexByte? (b : UInt8) : Option Nat :=
  Text.hexDigit? (Char.ofNat b.toNat)

def fourHexDigits : Reader Nat
  | a :: b :: c :: d :: rest =>
    match hexByte? a, hexByte? b, hexByte? c, hexByte? d with
    | some a, some b, some c, some d => .ok (((a * 16 + b) * 16 + c) * 16 + d, rest)
    | _, _, _, _ => .error (.behind .invalidEscape rest)
  | _ => .error (.behind .stringEnds [])

/-- What a backslash and this byte stand for; `none` for the escape with four digits. -/
def shortEscape? (b : UInt8) : Option UInt8 :=
  if b = 0x22 then some 0x22
  else if b = 0x5C then some 0x5C
  else if b = 0x2F then some 0x2F
  else if b = 0x62 then some 0x08
  else if b = 0x66 then some 0x0C
  else if b = 0x6E then some 0x0A
  else if b = 0x72 then some 0x0D
  else if b = 0x74 then some 0x09
  else none

/-- The second half of a code point written as two surrogates, the first half being `high`. -/
def lowSurrogate (high : Nat) : Reader Bytes
  | [] => .error (.behind .stringEnds [])
  | b :: rest =>
    if b ≠ 0x5C then .error (.behind .endOfHexEscape rest)
    else
      match rest with
      | [] => .error (.behind .stringEnds [])
      | u :: rest =>
        if u ≠ 0x75 then .error (.behind .endOfHexEscape rest)
        else
          match fourHexDigits rest with
          | .error fault => .error fault
          | .ok (low, rest) =>
            if low < 0xDC00 ∨ 0xDFFF < low then .error (.behind .loneSurrogate rest)
            else
              .ok (utf8CodePoint ((high - 0xD800) * 0x400 + (low - 0xDC00) + 0x10000), rest)

def readEscape : Reader Bytes
  | [] => .error (.behind .stringEnds [])
  | b :: rest =>
    match shortEscape? b with
    | some c => .ok ([c], rest)
    | none =>
      if b ≠ 0x75 then .error (.behind .invalidEscape rest)
      else
        match fourHexDigits rest with
        | .error fault => .error fault
        | .ok (n, rest) =>
          if 0xDC00 ≤ n ∧ n ≤ 0xDFFF then .error (.behind .loneSurrogate rest)
          else if n < 0xD800 ∨ 0xDBFF < n then .ok (utf8CodePoint n, rest)
          else lowSurrogate n rest

/-- An escape of the right form, whatever it stands for. -/
def skipEscape : Reader Unit
  | [] => .error (.behind .stringEnds [])
  | b :: rest =>
    match shortEscape? b with
    | some _ => .ok ((), rest)
    | none =>
      if b ≠ 0x75 then .error (.behind .invalidEscape rest)
      else
        match fourHexDigits rest with
        | .error fault => .error fault
        | .ok (_, rest) => .ok ((), rest)

theorem fourHexDigits_shorter {s rest : Bytes} {n : Nat} (h : fourHexDigits s = .ok (n, rest)) :
    rest.length < s.length := by
  unfold fourHexDigits at h
  split at h
  · split at h
    · injection h with h
      injection h with _ h
      subst h
      simp only [List.length_cons]
      omega
    · cases h
  · cases h

theorem lowSurrogate_shorter {high : Nat} {s rest out : Bytes}
    (h : lowSurrogate high s = .ok (out, rest)) : rest.length < s.length := by
  unfold lowSurrogate at h
  split at h
  · cases h
  · split at h
    · cases h
    · split at h
      · cases h
      · split at h
        · cases h
        · split at h
          · cases h
          · rename_i hex
            split at h
            · cases h
            · injection h with h
              injection h with _ h
              subst h
              have := fourHexDigits_shorter hex
              simp only [List.length_cons]
              omega

theorem readEscape_shorter {s rest out : Bytes} (h : readEscape s = .ok (out, rest)) :
    rest.length < s.length := by
  unfold readEscape at h
  split at h
  · cases h
  · split at h
    · injection h with h
      injection h with _ h
      subst h
      simp
    · split at h
      · cases h
      · split at h
        · cases h
        · rename_i hex
          have := fourHexDigits_shorter hex
          split at h
          · cases h
          · split at h
            · injection h with h
              injection h with _ h
              subst h
              simp only [List.length_cons]
              omega
            · have := lowSurrogate_shorter h
              simp only [List.length_cons]
              omega

theorem skipEscape_shorter {s rest : Bytes} {u : Unit} (h : skipEscape s = .ok (u, rest)) :
    rest.length < s.length := by
  unfold skipEscape at h
  split at h
  · cases h
  · split at h
    · injection h with h
      injection h with _ h
      subst h
      simp
    · split at h
      · cases h
      · split at h
        · cases h
        · rename_i hex
          have := fourHexDigits_shorter hex
          injection h with h
          injection h with _ h
          subst h
          simp only [List.length_cons]
          omega

/-- The bytes of a string up to its closing quote, escapes undone, read from behind its opening
quote. -/
def readStringBytes (s : Bytes) : Except Fault (Bytes × Bytes) :=
  match s with
  | [] => .error (.behind .stringEnds [])
  | b :: rest =>
    if b = 0x22 then .ok ([], rest)
    else if b = 0x5C then
      match h : readEscape rest with
      | .error fault => .error fault
      | .ok (out, tail) =>
        have := readEscape_shorter h
        match readStringBytes tail with
        | .error fault => .error fault
        | .ok (more, tail) => .ok (out ++ more, tail)
    else if b < 0x20 then .error (.behind .controlCharacter rest)
    else
      match readStringBytes rest with
      | .error fault => .error fault
      | .ok (more, tail) => .ok (b :: more, tail)
termination_by s.length

def readString : Reader String := fun s =>
  match readStringBytes s with
  | .error fault => .error fault
  | .ok (content, rest) =>
    match ofUtf8? content with
    | some text => .ok (text, rest)
    | none => .error (.behind .invalidCodePoint rest)

/-- Passes over a string from behind its opening quote. Its bytes need not be UTF-8. -/
def skipString (s : Bytes) : Except Fault (Unit × Bytes) :=
  match s with
  | [] => .error (.behind .stringEnds [])
  | b :: rest =>
    if b = 0x22 then .ok ((), rest)
    else if b = 0x5C then
      match h : skipEscape rest with
      | .error fault => .error fault
      | .ok (_, tail) =>
        have := skipEscape_shorter h
        skipString tail
    else if b < 0x20 then .error (.behind .controlCharacter (b :: rest))
    else skipString rest
termination_by s.length

def escapeChar (c : Char) : List Char :=
  if c = '"' then ['\\', '"']
  else if c = '\\' then ['\\', '\\']
  else if c = '\n' then ['\\', 'n']
  else if c = '\r' then ['\\', 'r']
  else if c = '\t' then ['\\', 't']
  else if c.toNat = 0x08 then ['\\', 'b']
  else if c.toNat = 0x0C then ['\\', 'f']
  else if c.toNat < 0x20 then
    ['\\', 'u', '0', '0', Nat.digitChar (c.toNat / 16), Nat.digitChar (c.toNat % 16)]
  else [c]

def writeString (s : String) : List Char :=
  '"' :: s.toList.flatMap escapeChar ++ ['"']

end TableBooking.Json
