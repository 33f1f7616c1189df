import Mathlib.Data.List.Forall2
import TableBooking.Json.Reader

/-!
Two readers of one text, of which one reads what the other one reads and converts it besides. A
conversion may fail; where it stands inside a record, the record that is converted on the way and
the record that is converted as a whole are read from the same texts, whatever faults the others
have.
-/
namespace TableBooking.Json

section Conversion

variable {α β γ : Type}

theorem toOption_eq_some_iff {ε : Type} {outcome : Except ε α} {a : α} :
    outcome.toOption = some a ↔ outcome = .ok a := by
  cases outcome <;> simp [Except.toOption]

def convertFound (convert : α → Option β) (found : α × Bytes) : Option (β × Bytes) :=
  (convert found.1).map (·, found.2)

theorem convertFound_bind (convert : α → Option β) (further : β → Option γ) (found : α × Bytes) :
    (convertFound convert found).bind (convertFound further) =
      convertFound (fun a => (convert a).bind further) found := by
  cases conv : convert found.1 <;> simp [convertFound, conv]

/-- The second reader reads what the first one reads, converted. -/
def Reader.Converts (convert : α → Option β) (reader : Reader α) (other : Reader β) : Prop :=
  ∀ s, (other s).toOption = (reader s).toOption.bind (convertFound convert)

theorem Reader.converts_some (reader : Reader α) : reader.Converts some reader := by
  intro s
  rcases reader s with fault | ⟨a, rest⟩ <;> rfl

theorem readWhole_toOption (reader : Reader α) (whole : Bytes) :
    (readWhole reader whole).toOption =
      (reader whole).toOption.bind fun found =>
        if skipSpace found.2 = [] then some found.1 else none := by
  unfold readWhole
  rcases reader whole with fault | ⟨a, rest⟩
  · rfl
  · simp only [Except.toOption, Option.bind_some]
    cases skipSpace rest with
    | nil => rfl
    | cons b tail => rfl

theorem Reader.Converts.readWhole {convert : α → Option β} {reader : Reader α} {other : Reader β}
    (h : reader.Converts convert other) (whole : Bytes) :
    (readWhole other whole).toOption = (readWhole reader whole).toOption.bind convert := by
  rw [readWhole_toOption, readWhole_toOption, h whole]
  rcases reader whole with fault | ⟨a, rest⟩
  · rfl
  · simp only [Except.toOption, Option.bind_some, convertFound]
    by_cases ended : skipSpace rest = []
    · cases conv : convert a <;> simp [ended, conv]
    · cases convert a <;> simp [ended]

def closedBy (close : Bytes → Except Fault Unit × Bytes) (found : α × Bytes) :
    Option (α × Bytes) :=
  (close found.2).1.toOption.map fun _ => (found.1, (close found.2).2)

theorem closing_toOption (close : Bytes → Except Fault Unit × Bytes)
    (read : Except Fault (α × Bytes)) :
    (closing close read).toOption = read.toOption.bind (closedBy close) := by
  rcases read with fault | ⟨a, rest⟩
  · cases fault <;> rfl
  · unfold closing
    simp only [Except.toOption, Option.bind_some, closedBy]
    rcases close rest with ⟨_ | _, tail⟩ <;> rfl

/-- Closing a bracket does not look at what was read inside it. -/
theorem closedBy_bind_convertFound (close : Bytes → Except Fault Unit × Bytes)
    (convert : α → Option β) (found : α × Bytes) :
    (closedBy close found).bind (convertFound convert) =
      (convertFound convert found).bind (closedBy close) := by
  unfold closedBy convertFound
  cases closed : (close found.2).1.toOption with
  | none => cases convert found.1 <;> simp [closed]
  | some _ => cases conv : convert found.1 <;> simp [closed, conv]

theorem wrongKind_toOption (expected : String) (s : Bytes) :
    (wrongKind expected s : Except Fault α).toOption = none := by
  unfold wrongKind
  rcases findOther s with fault | ⟨found, rest⟩ <;> rfl

end Conversion

section Reading

variable {Draft α : Type}

def readMember? (fields : List (RecordField Draft)) (d : Draft) (key : String) (s : Bytes) :
    Option (Draft × Bytes) :=
  match fields.find? (·.name == key) with
  | none =>
    (colon s).toOption.bind fun valueAt =>
      (skipValue valueAt.2).toOption.map fun skipped => (d, skipped.2)
  | some field =>
    if field.isSet d then none
    else (colon s).toOption.bind fun valueAt => (field.read d valueAt.2).toOption

theorem readMembers_toOption (fields : List (RecordField Draft)) (fuel : Nat) (first : Bool)
    (d : Draft) (s : Bytes) :
    (readMembers fields (fuel + 1) first d s).toOption =
      (nextKey first s).toOption.bind fun opened =>
        match opened.1 with
        | none => some (d, opened.2)
        | some keyAt => (readString keyAt).toOption.bind fun key =>
          (readMember? fields d key.1 key.2).bind fun next =>
            (readMembers fields fuel false next.1 next.2).toOption := by
  rw [readMembers]
  rcases nextKey first s with fault | ⟨_ | keyAt, rest⟩
  · rfl
  · rfl
  · simp only [Except.toOption, Option.bind_some]
    rcases readString keyAt with fault | ⟨key, rest⟩
    · rfl
    · simp only [readMember?, Option.bind_some]
      cases fields.find? (·.name == key) with
      | none =>
        rcases colon rest with fault | ⟨_, rest⟩
        · rfl
        · simp only [Except.toOption, Option.bind_some]
          rcases skipValue rest with fault | ⟨_, rest⟩ <;> rfl
      | some field =>
        dsimp only
        cases field.isSet d with
        | true => rfl
        | false =>
          simp only [Bool.false_eq_true, if_false]
          rcases colon rest with fault | ⟨_, rest⟩
          · rfl
          · simp only [Except.toOption, Option.bind_some]
            rcases field.read d rest with fault | ⟨next, rest⟩ <;> rfl

theorem readElements_toOption (described : String) (index : Nat) (field : RecordField Draft)
    (fields : List (RecordField Draft)) (first : Bool) (d : Draft) (s : Bytes) :
    (readElements described index (field :: fields) first d s).toOption =
      (nextElement first s).toOption.bind fun opened =>
        opened.1.bind fun valueAt => (field.read d valueAt).toOption.bind fun next =>
          (readElements described (index + 1) fields false next.1 next.2).toOption := by
  rw [readElements]
  rcases nextElement first s with fault | ⟨_ | valueAt, rest⟩
  · rfl
  · rfl
  · simp only [Except.toOption, Option.bind_some]
    rcases field.read d valueAt with fault | ⟨next, rest⟩ <;> rfl

theorem readRecord_toOption (name : String) (fields : List (RecordField Draft)) (empty : Draft)
    (finish : Draft → Except Cause α) (s : Bytes) :
    (readRecord name fields empty finish s).toOption =
      (skipSpace s).head?.bind fun b =>
        if b = 0x5B then
          ((readElements s!"struct {name} with {fields.length} elements" 0 fields true empty
            (skipSpace s).tail).toOption.bind (convertFound fun d => (finish d).toOption)).bind
              (closedBy endList)
        else if b = 0x7B then
          ((readMembers fields ((skipSpace s).tail.length + 1) true empty
            (skipSpace s).tail).toOption.bind (convertFound fun d => (finish d).toOption)).bind
              (closedBy endObject)
        else none := by
  unfold readRecord
  extract_lets complete
  have completed : ∀ read, (complete read).toOption =
      read.toOption.bind (convertFound fun d => (finish d).toOption) := by
    rintro (fault | ⟨d, rest⟩)
    · rfl
    · simp only [complete, Except.toOption, Option.bind_some, convertFound]
      cases finish d <;> rfl
  cases skipSpace s with
  | nil => rfl
  | cons b rest =>
    simp only [List.head?_cons, List.tail_cons, Option.bind_some]
    split_ifs
    · rw [closing_toOption, completed]
    · rw [closing_toOption, completed]
    · exact wrongKind_toOption _ _

end Reading

section Records

variable {Draft Draft' : Type} {convert : Draft → Option Draft'}

/-- Two fields of one name, the second of which reads into converted drafts. -/
structure RecordField.Converts (convert : Draft → Option Draft') (field : RecordField Draft)
    (other : RecordField Draft') : Prop where
  name : other.name = field.name
  isSet : ∀ d d', convert d = some d' → other.isSet d' = field.isSet d
  read : ∀ d s, field.isSet d = false →
    (field.read d s).toOption.bind (convertFound convert) =
      (convert d).bind fun d' => (other.read d' s).toOption

/-- Reading the first field leaves open whether the draft has the second one. -/
def RecordField.Spares (field other : RecordField Draft) : Prop :=
  ∀ d s next rest, field.read d s = .ok (next, rest) → other.isSet next = other.isSet d

variable {fields : List (RecordField Draft)} {others : List (RecordField Draft')}

theorem find?_converts (h : List.Forall₂ (RecordField.Converts convert) fields others)
    (key : String) :
    Option.Rel (RecordField.Converts convert) (fields.find? (·.name == key))
      (others.find? (·.name == key)) := by
  induction h with
  | nil => exact .none
  | @cons field other fields others converts _ ih =>
    rw [List.find?_cons, List.find?_cons, converts.name]
    cases field.name == key with
    | true => exact .some converts
    | false => exact ih

theorem readMember?_converts (h : List.Forall₂ (RecordField.Converts convert) fields others)
    (d : Draft) (key : String) (s : Bytes) :
    (readMember? fields d key s).bind (convertFound convert) =
      (convert d).bind fun d' => readMember? others d' key s := by
  have found := find?_converts h key
  unfold readMember?
  generalize fields.find? (·.name == key) = field at found
  generalize others.find? (·.name == key) = other at found
  cases found with
  | none =>
    dsimp only
    rcases (colon s).toOption with _ | valueAt
    · cases convert d <;> rfl
    · simp only [Option.bind_some]
      rcases (skipValue valueAt.2).toOption with _ | skipped
      · cases convert d <;> rfl
      · cases conv : convert d <;> simp [convertFound, conv]
  | @some field other converts =>
    dsimp only
    cases set : field.isSet d with
    | true =>
      cases conv : convert d with
      | none => rfl
      | some d' => simp [converts.isSet d d' conv, set]
    | false =>
      have unset : ∀ d', convert d = some d' → other.isSet d' = false :=
        fun d' conv => (converts.isSet d d' conv).trans set
      rcases (colon s).toOption with _ | valueAt
      · cases convert d with
        | none => rfl
        | some d' => simp
      · have read := converts.read d valueAt.2 set
        simp only [Bool.false_eq_true, if_false, Option.bind_some, read]
        cases conv : convert d with
        | none => rfl
        | some d' => simp [unset d' conv]

/-- Members that are gathered and then converted, and members converted as they are read. -/
theorem readMembers_converts (h : List.Forall₂ (RecordField.Converts convert) fields others)
    (fuel : Nat) (first : Bool) (d : Draft) (s : Bytes) :
    (readMembers fields fuel first d s).toOption.bind (convertFound convert) =
      (convert d).bind fun d' => (readMembers others fuel first d' s).toOption := by
  induction fuel generalizing first d s with
  | zero => cases convert d <;> rfl
  | succ fuel ih =>
    simp only [readMembers_toOption]
    rcases (nextKey first s).toOption with _ | ⟨_ | keyAt, rest⟩
    · cases convert d <;> rfl
    · cases conv : convert d <;> simp [convertFound, conv]
    · simp only [Option.bind_some]
      rcases (readString keyAt).toOption with _ | ⟨key, rest⟩
      · cases convert d <;> rfl
      · simp only [Option.bind_some, Option.bind_assoc, ih]
        calc (readMember? fields d key rest).bind (fun next => (convert next.1).bind fun next' =>
                (readMembers others fuel false next' next.2).toOption)
            = ((readMember? fields d key rest).bind (convertFound convert)).bind (fun next =>
                (readMembers others fuel false next.1 next.2).toOption) := by
              simp only [convertFound, Option.bind_assoc, Option.bind_map]
              rfl
          _ = (convert d).bind fun d' => (readMember? others d' key rest).bind fun next =>
                (readMembers others fuel false next.1 next.2).toOption := by
              rw [readMember?_converts h, Option.bind_assoc]

/-- Elements that are gathered and then converted, and elements converted as they are read. Unlike
a member, an element is read without a look at whether its field is set. -/
theorem readElements_converts (h : List.Forall₂ (RecordField.Converts convert) fields others)
    (spares : fields.Pairwise RecordField.Spares) (described described' : String) (index : Nat)
    (first : Bool) (d : Draft) (s : Bytes) (unset : ∀ field ∈ fields, field.isSet d = false) :
    (readElements described index fields first d s).toOption.bind (convertFound convert) =
      (convert d).bind fun d' => (readElements described' index others first d' s).toOption := by
  induction h generalizing index first d s with
  | nil => cases conv : convert d <;> simp [readElements, convertFound, conv, Except.toOption]
  | @cons field other fields others converts _ ih =>
    obtain ⟨spared, spares⟩ := List.pairwise_cons.1 spares
    simp only [readElements_toOption]
    rcases (nextElement first s).toOption with _ | ⟨_ | valueAt, rest⟩
    · cases convert d <;> rfl
    · cases convert d <;> rfl
    · simp only [Option.bind_some]
      have read := converts.read d valueAt (unset field List.mem_cons_self)
      rw [← Option.bind_assoc, ← read]
      rcases taken : field.read d valueAt with fault | ⟨next, rest⟩
      · rfl
      · have stillUnset : ∀ later ∈ fields, later.isSet next = false := by
          intro later mem
          rw [spared later mem d valueAt next rest taken]
          exact unset later (List.mem_cons_of_mem _ mem)
        refine (ih spares (index + 1) false next rest stillUnset).trans ?_
        cases conv : convert next <;> simp [convertFound, conv, Except.toOption]

/-- A record whose parts are gathered, completed and then converted, and a record whose parts are
converted as they are read. -/
theorem readRecord_converts {α β : Type}
    (h : List.Forall₂ (RecordField.Converts convert) fields others)
    (spares : fields.Pairwise RecordField.Spares) {empty : Draft} {empty' : Draft'}
    (start : convert empty = some empty') (unset : ∀ field ∈ fields, field.isSet empty = false)
    {finish : Draft → Except Cause α} {finish' : Draft' → Except Cause β}
    {convertValue : α → Option β}
    (finished : ∀ d, (finish d).toOption.bind convertValue =
      (convert d).bind fun d' => (finish' d').toOption)
    (name name' : String) :
    (readRecord name fields empty finish).Converts convertValue
      (readRecord name' others empty' finish') := by
  have ending : ∀ (close : Bytes → Except Fault Unit × Bytes) (read : Option (Draft × Bytes)),
      ((read.bind (convertFound convert)).bind (convertFound fun d' => (finish' d').toOption)).bind
          (closedBy close) =
        ((read.bind (convertFound fun d => (finish d).toOption)).bind (closedBy close)).bind
          (convertFound convertValue) := by
    intro close read
    simp only [Option.bind_assoc, closedBy_bind_convertFound]
    simp only [← Option.bind_assoc, convertFound_bind, finished]
  intro s
  rw [readRecord_toOption, readRecord_toOption]
  cases skipSpace s with
  | nil => rfl
  | cons b rest =>
    simp only [List.head?_cons, List.tail_cons, Option.bind_some]
    split_ifs
    · rw [← ending, readElements_converts h spares _ _ 0 true empty rest unset, start]
      rfl
    · rw [← ending, readMembers_converts h, start]
      rfl
    · rfl

end Records

end TableBooking.Json
