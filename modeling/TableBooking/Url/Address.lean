import TableBooking.Decimal.Padded
import TableBooking.Text.CodePoints

/-!
Numeric addresses of hosts. An IPv4 address is read from one to four numbers in decimal, octal or
hexadecimal, the last of which fills the remaining bytes; an IPv6 address from eight pieces, of
which one run of zeros may be left out.
-/
namespace TableBooking.Url

open TableBooking.Text

def numberInBase? (base : Nat) (s : List Char) : Option Nat :=
  s.foldlM (fun n c => (hexDigit? c).bind fun d => if d < base then some (base * n + d) else none) 0

/-- One number of an IPv4 address: hexadecimal behind `0x`, octal behind `0`, else decimal. -/
def addressNumber? : List Char → Option Nat
  | [] => none
  | '0' :: 'x' :: digits => numberInBase? 16 digits
  | '0' :: 'X' :: digits => numberInBase? 16 digits
  | '0' :: d :: digits => numberInBase? 8 (d :: digits)
  | digits => numberInBase? 10 digits

def withoutFinalDot (labels : List (List Char)) : List (List Char) :=
  if labels.getLast? = some [] then labels.dropLast else labels

/-- Whether a domain has to be an IPv4 address because its last label is a number. -/
def endsInNumber (domain : List Char) : Bool :=
  match (withoutFinalDot (pieces '.' domain)).getLast? with
  | none => false
  | some [] => false
  | some label => label.all (fun c => (Decimal.digit? c).isSome) || (addressNumber? label).isSome

def ipv4? (domain : List Char) : Option Nat := do
  let numbers ← (withoutFinalDot (pieces '.' domain)).mapM addressNumber?
  let last ← numbers.getLast?
  let first := numbers.dropLast
  if 4 < numbers.length ∨ first.any (255 < ·) ∨ Nat.pow 256 (4 - first.length) ≤ last then none
  else some (first.foldl (fun n b => 256 * n + b) 0 * Nat.pow 256 (4 - first.length) + last)

def ipv4Text (address : Nat) : List Char :=
  Decimal.plain (address / 0x1000000 % 256) ++ '.' :: Decimal.plain (address / 0x10000 % 256) ++
    '.' :: Decimal.plain (address / 256 % 256) ++ '.' :: Decimal.plain (address % 256)

/-- The pieces of an IPv6 address as far as they are read, those behind the gap apart. -/
structure PieceDraft where
  before : List Nat := []
  after : Option (List Nat) := none

namespace PieceDraft

def count (d : PieceDraft) : Nat :=
  d.before.length + (d.after.map (·.length + 1)).getD 0

def push (d : PieceDraft) (piece : Nat) : PieceDraft :=
  match d.after with
  | none => { d with before := d.before ++ [piece] }
  | some pieces => { d with after := some (pieces ++ [piece]) }

/-- All eight pieces. The gap stands for as many zeros as are missing. -/
def finish? (d : PieceDraft) : Option (List Nat) :=
  match d.after with
  | none => if d.before.length = 8 then some d.before else none
  | some pieces =>
    some (d.before ++ List.replicate (8 - d.before.length - pieces.length) 0 ++ pieces)

end PieceDraft

def addressByte? (s : List Char) : Option (Nat × List Char) :=
  match Decimal.takeDigits s with
  | ([], _) => none
  | ([d], rest) => some (d, rest)
  | (ds, rest) =>
    let n := Decimal.ofDigits ds
    if ds.head? = some 0 ∨ 255 < n then none else some (n, rest)

def dottedBytes? (s : List Char) : Option (Nat × Nat × Nat × Nat) := do
  let (a, s) ← addressByte? s
  let s ← if s.head? = some '.' then some s.tail else none
  let (b, s) ← addressByte? s
  let s ← if s.head? = some '.' then some s.tail else none
  let (c, s) ← addressByte? s
  let s ← if s.head? = some '.' then some s.tail else none
  let (d, s) ← addressByte? s
  if s = [] then some (a, b, c, d) else none

def ipv6Pieces? : Nat → PieceDraft → List Char → Option (List Nat)
  | _, draft, [] => draft.finish?
  | 0, _, _ => none
  | fuel + 1, draft, ':' :: rest =>
    if draft.count = 8 ∨ draft.after.isSome then none
    else ipv6Pieces? fuel { draft with after := some [] } rest
  | fuel + 1, draft, s =>
    if draft.count = 8 then none
    else
      let digits := (s.take 4).takeWhile fun c => (hexDigit? c).isSome
      let piece := hexValue digits
      match s.drop digits.length with
      | [] => (draft.push piece).finish?
      | [':'] => none
      | ':' :: rest => ipv6Pieces? fuel (draft.push piece) rest
      | '.' :: _ =>
        if digits = [] ∨ 6 < draft.count then none
        else do
          let (a, b, c, d) ← dottedBytes? s
          ((draft.push (256 * a + b)).push (256 * c + d)).finish?
      | _ => none

def ipv6? (s : List Char) : Option (List Nat) :=
  match s with
  | [] | [_] => none
  | ':' :: ':' :: rest => ipv6Pieces? (rest.length + 1) { after := some [] } rest
  | ':' :: _ => none
  | _ => ipv6Pieces? (s.length + 1) {} s

def zerosAhead (pieces : List Nat) : Nat :=
  (pieces.takeWhile (· == 0)).length

/-- The first of the longest runs of zeros, as its place and its length. -/
def longestZeros (pieces : List Nat) : Nat × Nat :=
  (List.range pieces.length).foldl
    (fun best i =>
      let n := zerosAhead (pieces.drop i)
      if best.2 < n then (i, n) else best)
    (0, 0)

def pieceTexts (pieces : List Nat) : List Char :=
  List.intercalate [':'] (pieces.map (Nat.toDigits 16))

/-- An IPv6 address in hexadecimal, the longest run of at least two zeros left out. -/
def ipv6Text (pieces : List Nat) : List Char :=
  let (start, length) := longestZeros pieces
  if length < 2 then pieceTexts pieces
  else
    pieceTexts (pieces.take start) ++ ':' :: ':' :: pieceTexts (pieces.drop (start + length))

end TableBooking.Url
