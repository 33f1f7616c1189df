import TableBooking.Url.DomainTables
import TableBooking.Url.Punycode

/-!
Domains as they are registered for all scripts. Characters that merely stand for others are replaced
by them, as far as the replacement has characters of ASCII, since only those can change what a host
is; capital letters beyond ASCII stay. Then every label is checked: marks at its head, joiners,
right-to-left writing, and labels that were already written in ASCII.
-/
namespace TableBooking.Url

open TableBooking.Text

def isDenied (c : Char) : Bool :=
  c.toNat ≤ 0x20 || c.toNat = 0x7F ||
    ['%', '#', '/', ':', '<', '>', '?', '@', '[', '\\', ']', '^', '|'].contains c

def formsOfRun (run : List Char) : List (Nat × List Char) :=
  let code := run.takeWhile fun c => (hexDigit? c).isSome
  let first := hexValue code
  let texts :=
    match run.drop code.length with
    | ':' :: chars => chars.map fun c => [c]
    | '=' :: texts => pieces ';' texts
    | _ => []
  texts.zipIdx.map fun (text, i) => (first + i, text)

def asciiFormTable : List (Nat × List Char) :=
  asciiForms.flatMap fun line => (pieces ' ' line.toList).flatMap formsOfRun

def domainChar? (c : Char) : Option (List Char) :=
  if c.toNat < 0x80 then if isDenied c then none else some [c.toLower]
  else if inRanges forbiddenRanges c.toNat then none
  else if inRanges ignoredRanges c.toNat then some []
  else some ((asciiFormTable.lookup c.toNat).getD [c])

def standsForItself (c : Char) : Bool :=
  domainChar? c = some [c] && !inRanges replacedRanges c.toNat

def isMark (c : Char) : Bool :=
  inRanges markRanges c.toNat

def isVirama (c : Char) : Bool :=
  inRanges viramaRanges c.toNat

/-- Whether a mark stands for nothing where letters are joined. -/
def joinsThrough (c : Char) : Bool :=
  isMark c

def joinsNext (before : List Char) : Bool :=
  match before.dropWhile joinsThrough with
  | c :: _ => inRanges dualJoiningRanges c.toNat || inRanges leftJoiningRanges c.toNat
  | [] => false

def joinsPrevious (after : List Char) : Bool :=
  match after.dropWhile joinsThrough with
  | c :: _ => inRanges dualJoiningRanges c.toNat || inRanges rightJoiningRanges c.toNat
  | [] => false

/-- Joiners stand behind a virama, or, to part letters, between two that would join. The part before
the rest of the label is given in reverse. -/
def joinersFit (before : List Char) : List Char → Bool
  | [] => true
  | c :: rest =>
    let behindVirama := (before.head?.map isVirama).getD false
    let fits :=
      if c.toNat = 0x200C then behindVirama || (joinsNext before && joinsPrevious rest)
      else if c.toNat = 0x200D then behindVirama
      else true
    fits && joinersFit (c :: before) rest

def isRightToLeft (c : Char) : Bool :=
  inRanges rightToLeftRanges c.toNat

def isArabicNumber (c : Char) : Bool :=
  inRanges arabicNumberRanges c.toNat

def isEuropeanNumber (c : Char) : Bool :=
  inRanges europeanNumberRanges c.toNat

def isNeutral (c : Char) : Bool :=
  inRanges neutralRanges c.toNat

def isLeftToRight (c : Char) : Bool :=
  !(isRightToLeft c || isArabicNumber c || isEuropeanNumber c || isNeutral c || isMark c)

/-- Whether a label of a domain with right-to-left writing keeps to one direction: it begins and
ends with letters of it, or ends with digits, and has no letters of the other. -/
def directionFits (label : List Char) : Bool :=
  match label with
  | [] => true
  | first :: _ =>
    let last := (label.reverse.dropWhile isMark).head?
    if isRightToLeft first then
      !label.any isLeftToRight &&
        (last.map fun c => isRightToLeft c || isEuropeanNumber c || isArabicNumber c).getD false &&
        !(label.any isEuropeanNumber && label.any isArabicNumber)
    else
      isLeftToRight first &&
        !label.any (fun c => isRightToLeft c || isArabicNumber c) &&
        (last.map fun c => isLeftToRight c || isEuropeanNumber c).getD false

/-- The label that stands for the characters shown; `none` where a label written in ASCII stands for
nothing that needs to be written so. -/
def labelShown? (label : List Char) : Option (List Char) :=
  match label with
  | 'x' :: 'n' :: '-' :: '-' :: code => do
    let shown ← Punycode.decode? code
    if shown.all (·.toNat < 0x80) then none
    else if shown.all standsForItself then some shown
    else none
  | _ => some label

def labelFits (shown : List Char) : Bool :=
  !(shown.head?.map isMark).getD false && joinersFit [] shown

/-- The domain that a text writes: its characters replaced by what they stand for. -/
def domain? (s : List Char) : Option (List Char) := do
  let mapped ← s.mapM domainChar?
  let domain := mapped.flatten
  let shown ← (pieces '.' domain).mapM labelShown?
  let mixed := shown.any fun label => label.any fun c => isRightToLeft c || isArabicNumber c
  if shown.all (fun label => labelFits label && (!mixed || directionFits label)) then some domain
  else none

end TableBooking.Url
