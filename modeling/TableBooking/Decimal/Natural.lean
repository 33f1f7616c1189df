import TableBooking.Decimal.Padded

/-!
Whole texts that are natural numbers in decimal. A plus sign may stand before the digits; the first
character that does not fit decides what is wrong.
-/
namespace TableBooking.Decimal

inductive NumberFault where
  | missing
  | invalidDigit
  | tooLarge
  deriving DecidableEq

def NumberFault.message : NumberFault → String
  | .missing => "cannot parse integer from empty string"
  | .invalidDigit => "invalid digit found in string"
  | .tooLarge => "number too large to fit in target type"

/-- Goes on with a number below `limit` whose digits so far are worth `n`. -/
def appendDigits (limit : Nat) : Nat → List Char → Except NumberFault Nat
  | n, [] => .ok n
  | n, c :: rest =>
    match digit? c with
    | none => .error .invalidDigit
    | some d =>
      if 10 * n + d < limit then appendDigits limit (10 * n + d) rest else .error .tooLarge

def readNatural (limit : Nat) (s : String) : Except NumberFault Nat :=
  match s.toList with
  | [] => .error .missing
  | ['+'] => .error .invalidDigit
  | '+' :: digits => appendDigits limit 0 digits
  | digits => appendDigits limit 0 digits

end TableBooking.Decimal
