import TableBooking.Json.Number
import TableBooking.Json.Text

/-!
Reading JSON values whose type is known beforehand, and passing over values that nobody asks for. A
record is read from an object or from an array of its values in field order; members of an object
that the record does not know are passed over.
-/
namespace TableBooking.Json

def isSpace (b : UInt8) : Bool :=
  b == 0x20 || b == 0x0A || b == 0x09 || b == 0x0D

def skipSpace (s : Bytes) : Bytes :=
  s.dropWhile isSpace

def literalTail : Bytes → Bytes → Except Fault (Unit × Bytes)
  | [], rest => .ok ((), rest)
  | _ :: _, [] => .error (.behind .valueEnds [])
  | w :: word, b :: rest =>
    if b = w then literalTail word rest else .error (.behind .expectedLiteral rest)

/-- The value at the head of a text, where a value of another kind is wanted. Lists and maps are
recognised by their bracket alone. -/
def findOther (s : Bytes) : Except Fault (Found × Bytes) :=
  match s with
  | [] => .error (.atNext .expectedValue [])
  | b :: rest =>
    if b = 0x6E then do
      let (_, tail) ← literalTail [0x75, 0x6C, 0x6C] rest
      pure (.null, tail)
    else if b = 0x74 then do
      let (_, tail) ← literalTail [0x72, 0x75, 0x65] rest
      pure (.boolean true, tail)
    else if b = 0x66 then do
      let (_, tail) ← literalTail [0x61, 0x6C, 0x73, 0x65] rest
      pure (.boolean false, tail)
    else if b = 0x2D then do
      let (n, tail) ← readUnsigned false rest
      pure (n.found, tail)
    else if (digitByte? b).isSome then do
      let (n, tail) ← readUnsigned true s
      pure (n.found, tail)
    else if b = 0x22 then do
      let (text, tail) ← readString rest
      pure (.text text, tail)
    else if b = 0x5B then .ok (.sequence, s)
    else if b = 0x7B then .ok (.map, s)
    else .error (.atNext .expectedValue s)

def wrongKind {α : Type} (expected : String) (s : Bytes) : Except Fault α :=
  match findOther s with
  | .error fault => .error fault
  | .ok (found, rest) => .error (.behind (.invalidType found expected) rest)

/-- A string that `accept` turns into the value wanted; `expected` names what it should be. -/
def textValue {α : Type} (expected : String) (accept : String → Except String α) : Reader α :=
  fun s =>
    match skipSpace s with
    | [] => .error (.atNext .valueEnds [])
    | b :: rest =>
      if b = 0x22 then
        match readString rest with
        | .error fault => .error fault
        | .ok (text, tail) =>
          match accept text with
          | .ok value => .ok (value, tail)
          | .error reason => .error (.behind (.refused reason) tail)
      else wrongKind expected (b :: rest)

def anyText : Reader String :=
  textValue "a string" .ok

def boundedInteger (expected : String) (limit : Nat) (n : Number) : Except Cause Nat :=
  match n with
  | .unsigned value =>
    if value < limit then .ok value else .error (.invalidValue (.integer value) expected)
  | .negative value => .error (.invalidValue (.integer value) expected)
  | .float value => .error (.invalidType (Number.float value).found expected)

def naturalValue (expected : String) (limit : Nat) : Reader Nat := fun s =>
  match skipSpace s with
  | [] => .error (.atNext .valueEnds [])
  | b :: rest =>
    let number? :=
      if b = 0x2D then some (readUnsigned false rest)
      else if (digitByte? b).isSome then some (readUnsigned true (b :: rest))
      else none
    match number? with
    | none => wrongKind expected (b :: rest)
    | some (.error fault) => .error fault
    | some (.ok (n, tail)) =>
      match boundedInteger expected limit n with
      | .ok value => .ok (value, tail)
      | .error cause => .error (.behind cause tail)

inductive Frame where
  | list
  | object
  deriving DecidableEq

/-- Where passing over a value stands: at a value, or behind one inside the innermost frame. -/
inductive SkipState where
  | atValue
  | behindValue
  | opened

def skipKey (s : Bytes) : Except Fault (Unit × Bytes) :=
  match skipSpace s with
  | [] => .error (.atNext .objectEnds [])
  | b :: rest =>
    if b ≠ 0x22 then .error (.atNext .keyMustBeText (b :: rest))
    else
      match skipString rest with
      | .error fault => .error fault
      | .ok (_, tail) =>
        match skipSpace tail with
        | [] => .error (.atNext .objectEnds [])
        | c :: tail =>
          if c = 0x3A then .ok ((), tail) else .error (.atNext .expectedColon (c :: tail))

def skipScalar (b : UInt8) (rest : Bytes) : Except Fault (Unit × Bytes) :=
  if b = 0x6E then literalTail [0x75, 0x6C, 0x6C] rest
  else if b = 0x74 then literalTail [0x72, 0x75, 0x65] rest
  else if b = 0x66 then literalTail [0x61, 0x6C, 0x73, 0x65] rest
  else if b = 0x2D then skipUnsigned rest
  else if (digitByte? b).isSome then skipUnsigned (b :: rest)
  else if b = 0x22 then skipString rest
  else .error (.atNext .expectedValue (b :: rest))

def skipIntoFrame (frame : Frame) (s : Bytes) : Except Fault (Unit × Bytes) :=
  match frame with
  | .list => .ok ((), s)
  | .object => skipKey s

/-- Passes over values until the outermost one is complete. Brackets nest without bound; `fuel`
bounds the number of steps, each of which takes at least one byte. -/
def skipLoop : Nat → SkipState → List Frame → Bytes → Except Fault (Unit × Bytes)
  | 0, _, _, s => .error (.behind .expectedValue s)
  | fuel + 1, .atValue, frames, s =>
    match skipSpace s with
    | [] => .error (.atNext .valueEnds [])
    | b :: rest =>
      if b = 0x5B then skipLoop fuel .opened (.list :: frames) rest
      else if b = 0x7B then skipLoop fuel .opened (.object :: frames) rest
      else
        match skipScalar b rest with
        | .error fault => .error fault
        | .ok (_, tail) => skipLoop fuel .behindValue frames tail
  | _ + 1, .behindValue, [], s => .ok ((), s)
  | fuel + 1, .behindValue, frame :: frames, s =>
    match skipSpace s with
    | [] => .error (.atNext (if frame = .list then .listEnds else .objectEnds) [])
    | b :: rest =>
      if b = 0x2C then
        match skipIntoFrame frame rest with
        | .error fault => .error fault
        | .ok (_, tail) => skipLoop fuel .atValue (frame :: frames) tail
      else if b = (if frame = .list then 0x5D else 0x7D) then
        skipLoop fuel .behindValue frames rest
      else
        .error (.atNext
          (if frame = .list then .expectedListCommaOrEnd else .expectedObjectCommaOrEnd)
          (b :: rest))
  | _ + 1, .opened, [], s => .ok ((), s)
  | fuel + 1, .opened, frame :: frames, s =>
    match skipSpace s with
    | [] => .error (.atNext (if frame = .list then .listEnds else .objectEnds) [])
    | b :: rest =>
      if b = (if frame = .list then 0x5D else 0x7D) then skipLoop fuel .behindValue frames rest
      else
        match skipIntoFrame frame (b :: rest) with
        | .error fault => .error fault
        | .ok (_, tail) => skipLoop fuel .atValue (frame :: frames) tail

def skipValue : Reader Unit := fun s =>
  skipLoop (2 * s.length + 2) .atValue [] s

def colon (s : Bytes) : Except Fault (Unit × Bytes) :=
  match skipSpace s with
  | [] => .error (.atNext .objectEnds [])
  | b :: rest => if b = 0x3A then .ok ((), rest) else .error (.atNext .expectedColon (b :: rest))

/-- Where the next key of an object begins, behind its opening quote; `none` at the closing
bracket, which is not taken. -/
def nextKey (first : Bool) (s : Bytes) : Except Fault (Option Bytes × Bytes) :=
  match skipSpace s with
  | [] => .error (.atNext .objectEnds [])
  | b :: rest =>
    if b = 0x7D then .ok (none, b :: rest)
    else if first then
      if b = 0x22 then .ok (some rest, rest) else .error (.atNext .keyMustBeText (b :: rest))
    else if b = 0x2C then
      match skipSpace rest with
      | [] => .error (.atNext .valueEnds [])
      | c :: tail =>
        if c = 0x22 then .ok (some tail, tail)
        else if c = 0x7D then .error (.atNext .trailingComma (c :: tail))
        else .error (.atNext .keyMustBeText (c :: tail))
    else .error (.atNext .expectedObjectCommaOrEnd (b :: rest))

def nextElement (first : Bool) (s : Bytes) : Except Fault (Option Bytes × Bytes) :=
  match skipSpace s with
  | [] => .error (.atNext .listEnds [])
  | b :: rest =>
    if b = 0x5D then .ok (none, b :: rest)
    else if first then .ok (some (b :: rest), b :: rest)
    else if b = 0x2C then
      match skipSpace rest with
      | [] => .error (.atNext .valueEnds [])
      | c :: tail =>
        if c = 0x5D then .error (.atNext .trailingComma (c :: tail))
        else .ok (some (c :: tail), c :: tail)
    else .error (.atNext .expectedListCommaOrEnd (b :: rest))

/-- Takes the closing bracket of an array. The second part is where reading stands afterwards, also
when the bracket is not there. -/
def endList (s : Bytes) : Except Fault Unit × Bytes :=
  match skipSpace s with
  | [] => (.error (.atNext .listEnds []), [])
  | b :: rest =>
    if b = 0x5D then (.ok (), rest)
    else if b = 0x2C then
      match skipSpace rest with
      | [] => (.error (.atNext .trailingCharacters []), [])
      | c :: tail =>
        let cause := if c = 0x5D then Cause.trailingComma else Cause.trailingCharacters
        (.error (.atNext cause (c :: tail)), c :: tail)
    else (.error (.atNext .trailingCharacters (b :: rest)), b :: rest)

def endObject (s : Bytes) : Except Fault Unit × Bytes :=
  match skipSpace s with
  | [] => (.error (.atNext .objectEnds []), [])
  | b :: rest =>
    if b = 0x7D then (.ok (), rest)
    else
      let cause := if b = 0x2C then Cause.trailingComma else Cause.trailingCharacters
      (.error (.atNext cause (b :: rest)), b :: rest)

/-- Closes a bracket behind what was read inside it. A fault without a place gets the place where
reading stands after the attempt to close. -/
def closing {α : Type} (close : Bytes → Except Fault Unit × Bytes) :
    Except Fault (α × Bytes) → Except Fault (α × Bytes)
  | .ok (value, rest) =>
    match close rest with
    | (.ok (), tail) => .ok (value, tail)
    | (.error fault, _) => .error fault
  | .error (.placed cause left) => .error (.placed cause left)
  | .error (.floating cause rest) => .error (.behind cause (close rest).2)

/-- A field of a record that is gathered in a draft: its name, whether the draft has it, and how its
value is read into the draft. -/
structure RecordField (Draft : Type) where
  name : String
  isSet : Draft → Bool
  read : Draft → Reader Draft

/-- The members of an object, gathered into a draft. `fuel` bounds their number. -/
def readMembers {Draft : Type} (fields : List (RecordField Draft)) :
    Nat → Bool → Draft → Bytes → Except Fault (Draft × Bytes)
  | 0, _, _, s => .error (.floating .expectedValue s)
  | fuel + 1, first, draft, s =>
    match nextKey first s with
    | .error fault => .error fault
    | .ok (none, rest) => .ok (draft, rest)
    | .ok (some rest, _) =>
      match readString rest with
      | .error fault => .error fault
      | .ok (key, rest) =>
        match fields.find? (·.name == key) with
        | none =>
          match colon rest with
          | .error fault => .error fault
          | .ok (_, rest) =>
            match skipValue rest with
            | .error fault => .error fault
            | .ok (_, rest) => readMembers fields fuel false draft rest
        | some field =>
          if field.isSet draft then .error (.floating (.duplicateField field.name) rest)
          else
            match colon rest with
            | .error fault => .error fault
            | .ok (_, rest) =>
              match field.read draft rest with
              | .error fault => .error fault
              | .ok (draft, rest) => readMembers fields fuel false draft rest

def readElements {Draft : Type} (described : String) :
    Nat → List (RecordField Draft) → Bool → Draft → Bytes → Except Fault (Draft × Bytes)
  | _, [], _, draft, s => .ok (draft, s)
  | index, field :: fields, first, draft, s =>
    match nextElement first s with
    | .error fault => .error fault
    | .ok (none, rest) => .error (.floating (.invalidLength index described) rest)
    | .ok (some rest, _) =>
      match field.read draft rest with
      | .error fault => .error fault
      | .ok (draft, rest) => readElements described (index + 1) fields false draft rest

/-- A record, from an object or from an array. `finish` says which field the draft lacks, if any. -/
def readRecord {Draft α : Type} (name : String) (fields : List (RecordField Draft)) (empty : Draft)
    (finish : Draft → Except Cause α) : Reader α := fun s =>
  let complete (r : Except Fault (Draft × Bytes)) : Except Fault (α × Bytes) :=
    match r with
    | .error fault => .error fault
    | .ok (draft, rest) =>
      match finish draft with
      | .ok value => .ok (value, rest)
      | .error cause => .error (.floating cause rest)
  match skipSpace s with
  | [] => .error (.atNext .valueEnds [])
  | b :: rest =>
    if b = 0x5B then
      closing endList (complete
        (readElements s!"struct {name} with {fields.length} elements" 0 fields true empty rest))
    else if b = 0x7B then
      closing endObject (complete (readMembers fields (rest.length + 1) true empty rest))
    else wrongKind s!"struct {name}" (b :: rest)

def readItems {α : Type} (item : Reader α) :
    Nat → Bool → Bytes → Except Fault (List α × Bytes)
  | 0, _, s => .error (.floating .expectedValue s)
  | fuel + 1, first, s =>
    match nextElement first s with
    | .error fault => .error fault
    | .ok (none, rest) => .ok ([], rest)
    | .ok (some rest, _) =>
      match item rest with
      | .error fault => .error fault
      | .ok (value, rest) =>
        match readItems item fuel false rest with
        | .error fault => .error fault
        | .ok (values, rest) => .ok (value :: values, rest)

def listOf {α : Type} (item : Reader α) : Reader (List α) := fun s =>
  match skipSpace s with
  | [] => .error (.atNext .valueEnds [])
  | b :: rest =>
    if b = 0x5B then closing endList (readItems item (rest.length + 1) true rest)
    else wrongKind "a sequence" (b :: rest)

def readEntries {α : Type} (value : Reader α) :
    Nat → Bool → Bytes → Except Fault (List (String × α) × Bytes)
  | 0, _, s => .error (.floating .expectedValue s)
  | fuel + 1, first, s =>
    match nextKey first s with
    | .error fault => .error fault
    | .ok (none, rest) => .ok ([], rest)
    | .ok (some rest, _) =>
      match readString rest with
      | .error fault => .error fault
      | .ok (key, rest) =>
        match colon rest with
        | .error fault => .error fault
        | .ok (_, rest) =>
          match value rest with
          | .error fault => .error fault
          | .ok (v, rest) =>
            match readEntries value fuel false rest with
            | .error fault => .error fault
            | .ok (entries, rest) => .ok ((key, v) :: entries, rest)

def mapOf {α : Type} (value : Reader α) : Reader (List (String × α)) := fun s =>
  match skipSpace s with
  | [] => .error (.atNext .valueEnds [])
  | b :: rest =>
    if b = 0x7B then closing endObject (readEntries value (rest.length + 1) true rest)
    else wrongKind "a map" (b :: rest)

def readWhole {α : Type} (reader : Reader α) (whole : Bytes) : Except Fault α :=
  match reader whole with
  | .error fault => .error fault
  | .ok (value, rest) =>
    match skipSpace rest with
    | [] => .ok value
    | b :: tail => .error (.atNext .trailingCharacters (b :: tail))

end TableBooking.Json
