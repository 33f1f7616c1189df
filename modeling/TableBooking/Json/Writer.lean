import TableBooking.Decimal.Padded
import TableBooking.Json.Text

/-!
Writing JSON. A value has two layouts: on one line without blanks, or spread over lines with two
blanks for each level of nesting.
-/
namespace TableBooking.Json

/-- A value to be written. The members of an object keep their order. -/
inductive Value where
  | number (n : Nat)
  | text (s : String)
  | list (items : List Value)
  | object (members : List (String × Value))

inductive Layout where
  | compact
  | pretty
  deriving DecidableEq

def Layout.lineStart (layout : Layout) (depth : Nat) : List Char :=
  match layout with
  | .compact => []
  | .pretty => '\n' :: List.replicate (2 * depth) ' '

def Layout.colon : Layout → List Char
  | .compact => [':']
  | .pretty => [':', ' ']

mutual

def Value.writeAt (layout : Layout) (depth : Nat) : Value → List Char
  | .number n => Decimal.plain n
  | .text s => writeString s
  | .list [] => ['[', ']']
  | .list (item :: items) =>
    '[' :: layout.lineStart (depth + 1) ++ item.writeAt layout (depth + 1) ++
      writeItems layout (depth + 1) items ++ layout.lineStart depth ++ [']']
  | .object [] => ['{', '}']
  | .object ((key, value) :: members) =>
    '{' :: layout.lineStart (depth + 1) ++ writeString key ++ layout.colon ++
      value.writeAt layout (depth + 1) ++ writeMembers layout (depth + 1) members ++
      layout.lineStart depth ++ ['}']

def writeItems (layout : Layout) (depth : Nat) : List Value → List Char
  | [] => []
  | item :: items =>
    ',' :: layout.lineStart depth ++ item.writeAt layout depth ++ writeItems layout depth items

def writeMembers (layout : Layout) (depth : Nat) : List (String × Value) → List Char
  | [] => []
  | (key, value) :: members =>
    ',' :: layout.lineStart depth ++ writeString key ++ layout.colon ++
      value.writeAt layout depth ++ writeMembers layout depth members

end

def Value.write (layout : Layout) (value : Value) : String :=
  String.ofList (value.writeAt layout 0)

end TableBooking.Json
