import TableBooking.Decimal.Padded

/-!
Lengths of time, in whole nanoseconds. The number of whole seconds is an unsigned integer of 64
bits.
-/
namespace TableBooking

structure Duration where
  nanos : Nat
  bounded : nanos < UInt64.size * 1_000_000_000
  deriving DecidableEq

namespace Duration

def ofMillis (ms : UInt64) : Duration :=
  ⟨ms.toNat * 1_000_000, by have := ms.toNat_lt; simp only [UInt64.size]; omega⟩

def ofMicros (us : UInt64) : Duration :=
  ⟨us.toNat * 1_000, by have := us.toNat_lt; simp only [UInt64.size]; omega⟩

def wholeMillis (d : Duration) : Nat :=
  d.nanos / 1_000_000

/-- A number of units with the fraction that `rest` is of `unit`, without trailing zeros. -/
def decimalText (whole rest width : Nat) : List Char :=
  let fraction := ((Decimal.padded width rest).reverse.dropWhile (· == '0')).reverse
  Decimal.plain whole ++ (if fraction.isEmpty then [] else '.' :: fraction)

/-- The duration in the largest unit, from seconds down to nanoseconds, that it has one of. -/
def text (d : Duration) : List Char :=
  let n := d.nanos
  if 1_000_000_000 ≤ n then decimalText (n / 1_000_000_000) (n % 1_000_000_000) 9 ++ ['s']
  else if 1_000_000 ≤ n then decimalText (n / 1_000_000) (n % 1_000_000) 6 ++ ['m', 's']
  else if 1_000 ≤ n then decimalText (n / 1_000) (n % 1_000) 3 ++ ['µ', 's']
  else Decimal.plain n ++ ['n', 's']

instance : ToString Duration := ⟨fun d => String.ofList d.text⟩

end Duration

end TableBooking
