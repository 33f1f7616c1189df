/-!
Punycode: labels of a domain written in ASCII. Behind the characters of ASCII, if there are any, and
a hyphen, the others are listed as differences, which are numbers of base 36 whose last digit shows
by being small.
-/
namespace TableBooking.Url.Punycode

/-- The value of a digit: letters first, then decimal digits. -/
def digit? (c : Char) : Option Nat :=
  if 'a' ≤ c ∧ c ≤ 'z' then some (c.toNat - 'a'.toNat)
  else if 'A' ≤ c ∧ c ≤ 'Z' then some (c.toNat - 'A'.toNat)
  else if '0' ≤ c ∧ c ≤ '9' then some (c.toNat - '0'.toNat + 26)
  else none

/-- The digit value below which a digit at place `k` ends its number. -/
def threshold (k bias : Nat) : Nat :=
  if k ≤ bias then 1 else if bias + 26 ≤ k then 26 else k - bias

def reduced (delta k : Nat) : Nat × Nat :=
  if 455 < delta then reduced (delta / 35) (k + 36) else (delta, k)
termination_by delta
decreasing_by exact Nat.div_lt_self (by omega) (by omega)

def nextBias (delta count : Nat) (first : Bool) : Nat :=
  let scaled := if first then delta / 700 else delta / 2
  let (rest, k) := reduced (scaled + scaled / count) 0
  k + 36 * rest / (rest + 38)

/-- Numbers are held in 32 bits while they are read. -/
def numberLimit : Nat := UInt32.size

def difference? (bias : Nat) : Nat → Nat → Nat → List Char → Option (Nat × List Char)
  | _, _, _, [] => none
  | k, weight, n, c :: rest => do
    let d ← digit? c
    let sum := n + d * weight
    if numberLimit ≤ sum then none
    else if d < threshold k bias then some (sum, rest)
    else
      let weight := weight * (36 - threshold k bias)
      if numberLimit ≤ weight then none else difference? bias (k + 36) weight sum rest

/-- Where the characters beyond ASCII are put: the state after some of them. -/
structure Insertion where
  text : List Char
  codePoint : Nat := 128
  place : Nat := 0
  bias : Nat := 72

def insertAll? : Nat → Insertion → List Char → Option (List Char)
  | _, state, [] => some state.text
  | 0, _, _ => none
  | fuel + 1, state, digits => do
    let (sum, rest) ← difference? state.bias 36 1 state.place digits
    let count := state.text.length + 1
    let codePoint := state.codePoint + sum / count
    let place := sum % count
    if h : codePoint.isValidChar then
      insertAll? fuel
        { text := state.text.insertIdx place (Char.ofNatAux codePoint h),
          codePoint, place := place + 1,
          bias := nextBias (sum - state.place) count (state.place = 0) }
        rest
    else none

def decode? (s : List Char) : Option (List Char) :=
  let reversed := s.reverse
  let digits := (reversed.takeWhile (· != '-')).reverse
  let ascii := (reversed.dropWhile (· != '-')).tail.reverse
  insertAll? digits.length { text := ascii } digits

end TableBooking.Url.Punycode
