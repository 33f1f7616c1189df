/-!
Tables of code points. A table is written in lines of hexadecimal ranges with blanks between them.
-/
namespace TableBooking.Text

def hexDigit? (c : Char) : Option Nat :=
  if '0' ≤ c ∧ c ≤ '9' then some (c.toNat - '0'.toNat)
  else if 'a' ≤ c ∧ c ≤ 'f' then some (c.toNat - 'a'.toNat + 10)
  else if 'A' ≤ c ∧ c ≤ 'F' then some (c.toNat - 'A'.toNat + 10)
  else none

/-- The number that hexadecimal digits write; other characters are passed over. -/
def hexValue (s : List Char) : Nat :=
  (s.filterMap hexDigit?).foldl (fun n d => 16 * n + d) 0

def pieces (separator : Char) : List Char → List (List Char)
  | [] => [[]]
  | c :: rest =>
    if c = separator then [] :: pieces separator rest
    else
      match pieces separator rest with
      | [] => [[c]]
      | piece :: others => (c :: piece) :: others

def codePointRanges (lines : List String) : List (Nat × Nat) :=
  (lines.flatMap fun line => (pieces ' ' line.toList).filter (!·.isEmpty)).map fun entry =>
    match pieces '-' entry with
    | [first, last] => (hexValue first, hexValue last)
    | _ => (hexValue entry, hexValue entry)

def inRanges (ranges : List (Nat × Nat)) (n : Nat) : Bool :=
  ranges.any fun (first, last) => first ≤ n && n ≤ last

end TableBooking.Text
