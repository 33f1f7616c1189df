import TableBooking.Json.Fault
import TableBooking.Decimal.Shortest

/-!
JSON numbers. An integer that fits in 64 bits, signed or unsigned, is kept as it is; every other
number becomes a binary64 number, whose text is all that is wanted of it.
-/
namespace TableBooking.Json

inductive Number where
  | unsigned (value : Nat)
  | negative (value : Int)
  | float (value : Float)

def Number.found : Number → Found
  | .unsigned value => .integer value
  | .negative value => .integer value
  | .float value => .float (Decimal.shortestText value)

def digitByte? (b : UInt8) : Option Nat :=
  if 0x30 ≤ b ∧ b ≤ 0x39 then some (b.toNat - 0x30) else none

def takeDigits : Bytes → List Nat × Bytes
  | [] => ([], [])
  | b :: rest =>
    match digitByte? b with
    | some d => let (ds, tail) := takeDigits rest; (d :: ds, tail)
    | none => ([], b :: rest)

def wordLimit : Nat := UInt64.size

/-- Appends digits to `n` as long as the result stays below `wordLimit`; the second part says how
many digits were taken. -/
def absorb (n : Nat) : List Nat → Nat × Nat
  | [] => (n, 0)
  | d :: ds =>
    if 10 * n + d < wordLimit then
      let (m, taken) := absorb (10 * n + d) ds
      (m, taken + 1)
    else (n, 0)

def powerOfTen (n : Nat) : Float :=
  Float.ofScientific 1 false n

/-- `f / 10 ^ n`, divided in steps whose powers of ten a binary64 number can hold. -/
def scaleDown (f : Float) (n : Nat) : Float :=
  if n ≤ 308 then f / powerOfTen n
  else if f == 0.0 then f
  else scaleDown (f / powerOfTen 308) (n - 308)
termination_by n

/-- The binary64 number of `significand * 10 ^ exponent`, rounded at the significand and again at
every scaling; `none` if it is too large. -/
def scale? (significand : Nat) (exponent : Int) : Option Float :=
  let f := significand.toUInt64.toFloat
  if exponent < 0 then some (scaleDown f exponent.natAbs)
  else if exponent ≤ 308 then
    let g := f * powerOfTen exponent.toNat
    if g.isInf then none else some g
  else if f == 0.0 then some f
  else none

def floatNumber (positive : Bool) (significand : Nat) (exponent : Int) : Reader Number
  | rest =>
    match scale? significand exponent with
    | some f => .ok (.float (if positive then f else -f), rest)
    | none => .error (.behind .numberOutOfRange rest)

/-- Exponents are held in 32 signed bits while they are read; the digit that would not fit ends
their reading. The second part says how many digits were taken. -/
def absorbExponent (n : Nat) : List Nat → Nat × Nat
  | [] => (n, 0)
  | d :: ds =>
    if 10 * n + d < 0x80000000 then
      let (m, taken) := absorbExponent (10 * n + d) ds
      (m, taken + 1)
    else (n, 0)

def clampExponent (e : Int) : Int :=
  max (-0x80000000) (min e 0x7FFFFFFF)

def readExponent (positive : Bool) (significand : Nat) (exponent : Int) : Reader Number := fun s =>
  let (up, s) :=
    match s with
    | 0x2B :: t => (true, t)
    | 0x2D :: t => (false, t)
    | t => (true, t)
  match s with
  | [] => .error (.behind .valueEnds [])
  | b :: rest =>
    match digitByte? b with
    | none => .error (.behind .invalidNumber rest)
    | some d =>
      let (ds, tail) := takeDigits rest
      let (e, taken) := absorbExponent d ds
      if taken < ds.length then
        if significand ≠ 0 ∧ up then .error (.behind .numberOutOfRange (rest.drop (taken + 1)))
        else .ok (.float (if positive then 0.0 else -0.0), tail)
      else
        floatNumber positive significand
          (clampExponent (if up then exponent + e else exponent - e)) tail

/-- A fraction, read from behind its point, and with it the number. Digits that the significand
cannot hold are dropped. -/
def readFraction (positive : Bool) (significand : Nat) (exponent : Int) : Reader Number := fun s =>
  match takeDigits s with
  | ([], []) => .error (.behind .valueEnds [])
  | ([], b :: rest) => .error (.atNext .invalidNumber (b :: rest))
  | (ds, tail) =>
    let (m, taken) := absorb significand ds
    let e := exponent - taken
    match tail with
    | 0x65 :: t => readExponent positive m e t
    | 0x45 :: t => readExponent positive m e t
    | t => floatNumber positive m e t

def readTail (positive : Bool) (significand : Nat) (exponent : Int)
    (whole : Bytes → Except Fault (Number × Bytes)) : Reader Number
  | 0x2E :: t => readFraction positive significand exponent t
  | 0x65 :: t => readExponent positive significand exponent t
  | 0x45 :: t => readExponent positive significand exponent t
  | t => whole t

/-- A number without fraction and exponent that fits in 64 bits. Negative numbers beyond the signed
range, and minus zero, are binary64 numbers. -/
def wholeNumber (positive : Bool) (n : Nat) : Number :=
  if positive then .unsigned n
  else if 1 ≤ n ∧ n ≤ 0x8000000000000000 then .negative (-(n : Int))
  else .float (-n.toUInt64.toFloat)

def readUnsigned (positive : Bool) : Reader Number
  | [] => .error (.behind .valueEnds [])
  | b :: rest =>
    match digitByte? b with
    | none => .error (.behind .invalidNumber rest)
    | some 0 =>
      if (takeDigits rest).1.isEmpty then
        readTail positive 0 0 (fun t => .ok (wholeNumber positive 0, t)) rest
      else .error (.atNext .invalidNumber rest)
    | some d =>
      let (ds, tail) := takeDigits rest
      let (n, taken) := absorb d ds
      let dropped := ds.length - taken
      if dropped = 0 then readTail positive n 0 (fun t => .ok (wholeNumber positive n, t)) tail
      else readTail positive n dropped (floatNumber positive n dropped) tail

def skipExponent (s : Bytes) : Except Fault (Unit × Bytes) :=
  let s :=
    match s with
    | 0x2B :: t => t
    | 0x2D :: t => t
    | t => t
  match s with
  | [] => .error (.behind .invalidNumber [])
  | b :: rest =>
    match digitByte? b with
    | none => .error (.behind .invalidNumber rest)
    | some _ => .ok ((), (takeDigits rest).2)

def skipExponent? : Reader Unit
  | 0x65 :: t => skipExponent t
  | 0x45 :: t => skipExponent t
  | t => .ok ((), t)

def skipTail : Reader Unit
  | 0x2E :: t =>
    match takeDigits t with
    | ([], rest) => .error (.atNext .invalidNumber rest)
    | (_, rest) => skipExponent? rest
  | t => skipExponent? t

def skipUnsigned : Reader Unit
  | [] => .error (.behind .invalidNumber [])
  | b :: rest =>
    match digitByte? b with
    | none => .error (.behind .invalidNumber rest)
    | some 0 =>
      if (takeDigits rest).1.isEmpty then skipTail rest
      else .error (.atNext .invalidNumber rest)
    | some _ => skipTail (takeDigits rest).2

end TableBooking.Json
