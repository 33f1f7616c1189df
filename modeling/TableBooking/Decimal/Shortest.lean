import TableBooking.Decimal.Padded

/-!
The shortest decimal that reads back as a given binary64 number, and its written form. Of two
decimals of the same length the nearer one is taken.
-/
namespace TableBooking.Decimal

/-- A positive binary64 number: `mantissa * 2 ^ exponent`. -/
structure Binary where
  mantissa : Nat
  exponent : Int

structure Scientific where
  digits : Nat
  exponent : Int

namespace Binary

/-- The leading bit of a mantissa, which is not written. -/
def hiddenBit : Nat := 0x10000000000000

def ofBits (bits : Nat) : Binary :=
  let fraction : Nat := bits % hiddenBit
  let biased : Nat := bits / hiddenBit % 2048
  if biased = 0 then ⟨fraction, -1074⟩ else ⟨hiddenBit + fraction, (biased : Int) - 1075⟩

def compareScaled (a : Nat) (p : Int) (b : Nat) (e : Int) : Ordering :=
  compare (a * Nat.pow 2 p.toNat * Nat.pow 10 (-e).toNat)
    (b * Nat.pow 10 e.toNat * Nat.pow 2 (-p).toNat)

def leadingPower (x : Binary) : Int :=
  let above := x.mantissa * Nat.pow 2 x.exponent.toNat
  let below := Nat.pow 2 (-x.exponent).toNat
  let guess := ((plain above).length : Int) - (plain below).length
  if (compareScaled x.mantissa x.exponent 1 guess).isGE then guess else guess - 1

/-- Whether a decimal lies among the reals that round to the number. The reals at the two ends
round to it when its mantissa is even; the gap below a power of two is half as wide. -/
def admits (x : Binary) (d : Scientific) : Bool :=
  let below := if x.mantissa = hiddenBit ∧ -1074 < x.exponent then 1 else 2
  let low := compareScaled (4 * x.mantissa - below) (x.exponent - 2) d.digits d.exponent
  let high := compareScaled (4 * x.mantissa + 2) (x.exponent - 2) d.digits d.exponent
  if x.mantissa % 2 = 0 then low.isLE && high.isGE else low.isLT && high.isGT

def withDigits? (x : Binary) (count : Nat) : Option Scientific :=
  let e := x.leadingPower - count + 1
  let floor :=
    x.mantissa * Nat.pow 2 x.exponent.toNat * Nat.pow 10 (-e).toNat /
      (Nat.pow 10 e.toNat * Nat.pow 2 (-x.exponent).toNat)
  let lower : Scientific := ⟨floor, e⟩
  let upper : Scientific := ⟨floor + 1, e⟩
  let lowerIsNearer :=
    (compareScaled (2 * x.mantissa) x.exponent (2 * floor + 1) e).isLE
  match x.admits lower, x.admits upper with
  | true, true => some (if lowerIsNearer then lower else upper)
  | true, false => some lower
  | false, true => some upper
  | false, false => none

/-- The shortest decimal that reads back as the number; seventeen digits always do. -/
def shortest (x : Binary) : Scientific :=
  ((List.range 17).findSome? fun n => x.withDigits? (n + 1)).getD ⟨0, 0⟩

end Binary

/-- How a number is written: the powers of ten of the first digit between which it is written
without an exponent, and the least number of digits of an exponent. -/
structure Style where
  leastPositional : Int
  greatestPositional : Int
  exponentWidth : Nat

def Scientific.digitText (d : Scientific) : List Char :=
  ((plain d.digits).reverse.dropWhile (· == '0')).reverse

def Style.write (style : Style) (digits : List Char) (power : Int) : List Char :=
  if style.leastPositional ≤ power ∧ power ≤ style.greatestPositional then
    if power < 0 then
      '0' :: '.' :: List.replicate (power.natAbs - 1) '0' ++ digits
    else
      let whole := power.toNat + 1
      let before := digits.take whole
      let after := digits.drop whole
      before ++ List.replicate (whole - before.length) '0' ++ '.' ::
        (if after.isEmpty then ['0'] else after)
  else
    let fraction := digits.drop 1
    digits.take 1 ++ (if fraction.isEmpty then [] else '.' :: fraction) ++ 'e' ::
      (if power < 0 then '-' else '+') :: padded style.exponentWidth power.natAbs

/-- Numbers from a hundred-thousandth to below ten quadrillions are written without an exponent. -/
def Style.standard : Style := ⟨-5, 15, 2⟩

def shortestText (x : Float) : String :=
  let bits := x.toBits.toNat
  let sign := if bits / 0x8000000000000000 = 1 then ['-'] else []
  let b := Binary.ofBits bits
  if b.mantissa = 0 then String.ofList (sign ++ ['0', '.', '0'])
  else
    let d := b.shortest
    let power := d.exponent + (plain d.digits).length - 1
    String.ofList (sign ++ Style.standard.write d.digitText power)

end TableBooking.Decimal
