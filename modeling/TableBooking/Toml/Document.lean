import TableBooking.Toml.Scalar

/-!
TOML documents: tables of values that statements build one after another. A table may be defined
once, whether by a header, by dotted keys or as a value; what a header merely implied on the way to
another table may still be defined.
-/
namespace TableBooking.Toml

/-- How a table came about. -/
inductive TableKind where
  | named
  /-- On the way to a table with a header. -/
  | implied
  /-- On the way to a value with a dotted key. -/
  | dotted
  | inline
  deriving DecidableEq

inductive Value where
  | text (value : String)
  | scalar (value : Scalar)
  /-- A list; `ofTables` says that headers made it. -/
  | array (ofTables : Bool) (items : List Value)
  | table (kind : TableKind) (members : List (String × Value))

/-- The members of a table, in the order in which they were made. -/
abbrev Members := List (String × Value)

inductive Statement where
  | assignment (path : List String) (value : Value)
  | header (path : List String)
  | arrayHeader (path : List String)

namespace Members

def replace (members : Members) (key : String) (value : Value) : Members :=
  members.map fun (k, v) => if k = key then (k, value) else (k, v)

def replaceLast (items : List Value) (value : Value) : List Value :=
  items.dropLast ++ [value]

/-- Changes the table at the end of a path, making the tables on the way that are missing. Dotted
keys do not lead into tables with headers of their own; nothing leads into tables written as
values. -/
def changeAt (byDots : Bool) (change : TableKind → Members → Option Members) :
    List String → TableKind → Members → Option Members
  | [], kind, members => change kind members
  | key :: path, _, members =>
    match members.lookup key with
    | none => do
      let kind := if byDots then TableKind.dotted else .implied
      let below ← changeAt byDots change path kind []
      some (members ++ [(key, .table kind below)])
    | some (.table kind inner) =>
      if kind = .inline ∨ (byDots ∧ kind = .named) then none
      else do
        let below ← changeAt byDots change path kind inner
        some (members.replace key (.table kind below))
    | some (.array true items) =>
      match items.getLast? with
      | some (.table kind inner) => do
        let below ← changeAt byDots change path kind inner
        some (members.replace key (.array true (replaceLast items (.table kind below))))
      | _ => none
    | some _ => none

def add? (key : String) (value : Value) (members : Members) : Option Members :=
  if (members.lookup key).isSome then none else some (members ++ [(key, value)])

/-- Gives a value to a path of keys within a table. A table that dots made takes members by dots
only, and no other table takes them so. -/
def assign? (path : List String) (value : Value) (kind : TableKind) (members : Members) :
    Option Members :=
  match path.getLast? with
  | none => none
  | some key =>
    let byDots := path.dropLast ≠ []
    changeAt true
      (fun kind members => if byDots = (kind = .dotted) then add? key value members else none)
      path.dropLast kind members

/-- Defines the table at a path, unless something other than an implied table is there. -/
def define? (path : List String) (document : Members) : Option Members :=
  match path.getLast? with
  | none => none
  | some key =>
    changeAt false
      (fun _ members =>
        match members.lookup key with
        | none => some (members ++ [(key, .table .named [])])
        | some (.table .implied inner) => some (members.replace key (.table .named inner))
        | some _ => none)
      path.dropLast .named document

def append? (path : List String) (document : Members) : Option Members :=
  match path.getLast? with
  | none => none
  | some key =>
    changeAt false
      (fun _ members =>
        match members.lookup key with
        | none => some (members ++ [(key, .array true [.table .named []])])
        | some (.array true items) =>
          some (members.replace key (.array true (items ++ [.table .named []])))
        | some _ => none)
      path.dropLast .named document

end Members

/-- A document being built, and the path of the table that assignments go to. -/
structure Draft where
  document : Members := []
  current : List String := []

namespace Draft

def follow? (draft : Draft) : Statement → Option Draft
  | .assignment path value => do
    let document ←
      Members.changeAt false (Members.assign? path value) draft.current .named draft.document
    some { draft with document }
  | .header path => (Members.define? path draft.document).map fun document => ⟨document, path⟩
  | .arrayHeader path => (Members.append? path draft.document).map fun document => ⟨document, path⟩

end Draft

def ofStatements? (statements : List Statement) : Option Members :=
  (statements.foldlM Draft.follow? {}).map Draft.document

def inlineTable? (members : List (List String × Value)) : Option Value :=
  (members.foldlM (fun table (path, value) => Members.assign? path value .inline table) []).map
    (Value.table .inline)

end TableBooking.Toml
