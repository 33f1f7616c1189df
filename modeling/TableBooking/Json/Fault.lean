import TableBooking.Text.Quoted

/-!
What can be wrong with a JSON text, and where. A fault found by looking at the text has its place
at once; a fault of the value that was read gets its place when the surrounding brackets close.
-/
namespace TableBooking.Json

/-- Texts are read byte by byte, and columns count bytes. -/
abbrev Bytes := List UInt8

inductive Found where
  | null
  | boolean (value : Bool)
  | integer (value : Int)
  /-- A number that is no integer of 64 bits, in its shortest decimal form. -/
  | float (text : String)
  | text (value : String)
  | sequence
  | map
  deriving DecidableEq

inductive Cause where
  | listEnds
  | objectEnds
  | stringEnds
  | valueEnds
  | expectedColon
  | expectedListCommaOrEnd
  | expectedObjectCommaOrEnd
  | expectedLiteral
  | expectedValue
  | invalidEscape
  | invalidNumber
  | numberOutOfRange
  | invalidCodePoint
  | controlCharacter
  | keyMustBeText
  | loneSurrogate
  | endOfHexEscape
  | trailingComma
  | trailingCharacters
  | invalidType (found : Found) (expected : String)
  | invalidValue (found : Found) (expected : String)
  | invalidLength (count : Nat) (expected : String)
  | missingField (name : String)
  | duplicateField (name : String)
  /-- The value is well formed but its reader does not accept it. -/
  | refused (reason : String)
  deriving DecidableEq

def Found.describe : Found → String
  | .null => "null"
  | .boolean true => "boolean `true`"
  | .boolean false => "boolean `false`"
  | .integer value => s!"integer `{value}`"
  | .float digits => s!"floating point `{digits}`"
  | .text value => "string " ++ Text.quoted value
  | .sequence => "sequence"
  | .map => "map"

def Cause.describe : Cause → String
  | .listEnds => "EOF while parsing a list"
  | .objectEnds => "EOF while parsing an object"
  | .stringEnds => "EOF while parsing a string"
  | .valueEnds => "EOF while parsing a value"
  | .expectedColon => "expected `:`"
  | .expectedListCommaOrEnd => "expected `,` or `]`"
  | .expectedObjectCommaOrEnd => "expected `,` or `\x7d`"
  | .expectedLiteral => "expected ident"
  | .expectedValue => "expected value"
  | .invalidEscape => "invalid escape"
  | .invalidNumber => "invalid number"
  | .numberOutOfRange => "number out of range"
  | .invalidCodePoint => "invalid unicode code point"
  | .controlCharacter => "control character (\\u0000-\\u001F) found while parsing a string"
  | .keyMustBeText => "key must be a string"
  | .loneSurrogate => "lone leading surrogate in hex escape"
  | .endOfHexEscape => "unexpected end of hex escape"
  | .trailingComma => "trailing comma"
  | .trailingCharacters => "trailing characters"
  | .invalidType found expected => s!"invalid type: {found.describe}, expected {expected}"
  | .invalidValue found expected => s!"invalid value: {found.describe}, expected {expected}"
  | .invalidLength count expected => s!"invalid length {count}, expected {expected}"
  | .missingField name => s!"missing field `{name}`"
  | .duplicateField name => s!"duplicate field `{name}`"
  | .refused reason => reason

/-- A cause with the number of bytes that are left after its place, or, as long as it has no place,
with the bytes that are still to be read. -/
inductive Fault where
  | placed (cause : Cause) (left : Nat)
  | floating (cause : Cause) (rest : Bytes)
  deriving DecidableEq

/-- A fault at the byte that comes next, which counts as read if there is one. -/
def Fault.atNext (cause : Cause) (rest : Bytes) : Fault :=
  .placed cause (rest.length - 1)

def Fault.behind (cause : Cause) (rest : Bytes) : Fault :=
  .placed cause rest.length

/-- Line and column, both from the bytes before a place. The first line is 1, and the column is the
number of bytes since the line began. -/
def lineAndColumn (before : Bytes) : Nat × Nat :=
  let next (place : Nat × Nat) (b : UInt8) : Nat × Nat :=
    if b = 10 then (place.1 + 1, 0) else (place.1, place.2 + 1)
  before.foldl next (1, 0)

/-- The text of a fault in a whole text. A fault that never got a place has only its cause. -/
def Fault.message (whole : Bytes) : Fault → String
  | .placed cause left =>
    let place := lineAndColumn (whole.take (whole.length - left))
    s!"{cause.describe} at line {place.1} column {place.2}"
  | .floating cause _ => cause.describe

abbrev Reader (α : Type) := Bytes → Except Fault (α × Bytes)

end TableBooking.Json
