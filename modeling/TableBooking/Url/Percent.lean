import TableBooking.Json.Text

/-!
Percent encoding: bytes written as `%` and two hexadecimal digits. Which characters of ASCII are
encoded depends on the part of a URL; characters beyond ASCII are encoded everywhere.
-/
namespace TableBooking.Url

open TableBooking.Json (Bytes utf8)

def hexDigit (n : Nat) : Char :=
  (Nat.digitChar n).toUpper

def percentByte (b : UInt8) : List Char :=
  ['%', hexDigit (b.toNat / 16), hexDigit (b.toNat % 16)]

/-- A text in which the characters of a set, and all beyond ASCII, are encoded. -/
def percentEncode (inSet : Char → Bool) (s : List Char) : List Char :=
  s.flatMap fun c =>
    if c.toNat < 0x80 && !inSet c then [c] else (utf8 (String.singleton c)).flatMap percentByte

/-- The bytes that a text stands for; a `%` without two digits behind it stands for itself. -/
def percentDecode : Bytes → Bytes
  | [] => []
  | [b] => [b]
  | [a, b] => [a, b]
  | p :: a :: b :: rest =>
    if p = 0x25 then
      match Json.hexByte? a, Json.hexByte? b with
      | some x, some y => (16 * x + y).toUInt8 :: percentDecode rest
      | _, _ => p :: percentDecode (a :: b :: rest)
    else p :: percentDecode (a :: b :: rest)
termination_by s => s.length

def isControl (c : Char) : Bool :=
  c.toNat < 0x20 || c.toNat = 0x7F

def inFragmentSet (c : Char) : Bool :=
  isControl c || [' ', '"', '<', '>', '`'].contains c

def inPathSet (c : Char) : Bool :=
  inFragmentSet c || ['#', '?', '{', '}'].contains c

def inCredentialSet (c : Char) : Bool :=
  inPathSet c || ['/', ':', ';', '=', '@', '[', '\\', ']', '^', '|'].contains c

/-- What is encoded in a query. Apostrophes are encoded where the scheme is a special one. -/
def inQuerySet (special : Bool) (c : Char) : Bool :=
  isControl c || [' ', '"', '#', '<', '>'].contains c || (special && c.toNat = 0x27)

end TableBooking.Url
