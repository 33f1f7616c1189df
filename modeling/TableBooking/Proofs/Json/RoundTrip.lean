import TableBooking.Proofs.Json.Numbers

/-!
Written JSON values are read back, on one line or spread over lines, at any depth and with anything
behind them. What a reader gives for a record follows from what it gives for the members, one after
another.
-/
namespace TableBooking.Json

open TableBooking.Decimal

/-- In every layout and at every depth, behind blanks, the reader gives `a` for a written value and
stops behind it. -/
def Reads {α : Type} (reader : Reader α) (value : Value) (a : α) : Prop :=
  ∀ (layout : Layout) (depth : Nat) (pad rest : Bytes), Blank pad → Delimited rest →
    reader (pad ++ (encoded (value.writeAt layout depth) ++ rest)) = .ok (a, rest)

theorem blank_nil : Blank [] := by
  intro b hb
  cases hb

theorem blank_lineStart (layout : Layout) (depth : Nat) :
    Blank (encoded (layout.lineStart depth)) := by
  intro b hb
  cases layout with
  | compact => cases hb
  | pretty =>
    obtain ⟨c, hc, hb⟩ := List.mem_flatMap.1 hb
    rcases List.mem_cons.1 hc with rfl | hc
    · rw [List.mem_singleton.1 hb]
      rfl
    · rw [List.eq_of_mem_replicate hc] at hb
      rw [List.mem_singleton.1 hb]
      rfl

theorem delimited_of_isSpace {b : UInt8} (h : isSpace b = true) (rest : Bytes) :
    Delimited (b :: rest) := by
  rintro _ ⟨⟩
  simp only [isSpace, Bool.or_eq_true, beq_iff_eq] at h
  rcases h with ((rfl | rfl) | rfl) | rfl <;> decide

theorem delimited_append {pad rest : Bytes} (blank : Blank pad) (h : Delimited rest) :
    Delimited (pad ++ rest) := by
  cases pad with
  | nil => exact h
  | cons b pad => exact delimited_of_isSpace (blank b List.mem_cons_self) _

theorem delimited_comma (rest : Bytes) : Delimited (0x2C :: rest) := by
  rintro _ ⟨⟩
  decide

theorem delimited_bracket (rest : Bytes) : Delimited (0x5D :: rest) := by
  rintro _ ⟨⟩
  decide

theorem delimited_brace (rest : Bytes) : Delimited (0x7D :: rest) := by
  rintro _ ⟨⟩
  decide

section Scalars

theorem Reads.map {α β : Type} {reader : Reader α} {value : Value} {a : α}
    (h : Reads reader value a) (f : α → β) :
    Reads (fun s => (reader s).map fun (x, rest) => (f x, rest)) value (f a) := by
  intro layout depth pad rest blank delimited
  simp only [h layout depth pad rest blank delimited]
  rfl

theorem reads_number (expected : String) {limit n : Nat} (small : n < limit)
    (word : limit ≤ wordLimit) : Reads (naturalValue expected limit) (.number n) n :=
  fun _ _ _ _ blank delimited => naturalValue_plain expected small word blank delimited

theorem reads_text {α : Type} (expected : String) {accept : String → Except String α} {s : String}
    {a : α} (accepted : accept s = .ok a) : Reads (textValue expected accept) (.text s) a := by
  intro layout depth pad rest blank _
  have quote : isSpace 0x22 = false := by decide
  rw [Value.writeAt, encoded_writeString]
  unfold textValue
  simp only [skipSpace_append blank, List.cons_append, List.append_assoc, List.nil_append,
    skipSpace_cons quote, readString_escaped, accepted, if_true]

end Scalars

section Members

variable {Draft : Type} {fields : List (RecordField Draft)} {d d' : Draft}

/-- The members lead from one draft to another: each has a field that the draft lacks so far and
that reads its value. -/
inductive Fills (fields : List (RecordField Draft)) :
    Draft → List (String × Value) → Draft → Prop where
  | nil (d : Draft) : Fills fields d [] d
  | cons {d next last : Draft} {key : String} {value : Value} {members : List (String × Value)}
      (field : RecordField Draft) : fields.find? (·.name == key) = some field →
      field.isSet d = false → Reads (field.read d) value next → Fills fields next members last →
      Fills fields d ((key, value) :: members) last

theorem nextKey_first {pad : Bytes} (blank : Blank pad) (rest : Bytes) :
    nextKey true (pad ++ 0x22 :: rest) = .ok (some rest, rest) := by
  unfold nextKey
  rw [skipSpace_append blank]
  rfl

theorem nextKey_later {pad : Bytes} (blank : Blank pad) (rest : Bytes) :
    nextKey false (0x2C :: (pad ++ 0x22 :: rest)) = .ok (some rest, rest) := by
  have comma : skipSpace (0x2C :: (pad ++ 0x22 :: rest)) = 0x2C :: (pad ++ 0x22 :: rest) :=
    skipSpace_cons (by decide) _
  have quote : skipSpace (pad ++ 0x22 :: rest) = 0x22 :: rest := by
    rw [skipSpace_append blank]
    exact skipSpace_cons (by decide) _
  unfold nextKey
  simp only [comma, quote]
  rfl

theorem nextKey_end (first : Bool) {pad : Bytes} (blank : Blank pad) (rest : Bytes) :
    nextKey first (pad ++ 0x7D :: rest) = .ok (none, 0x7D :: rest) := by
  unfold nextKey
  rw [skipSpace_append blank]
  rfl

theorem colon_written (layout : Layout) :
    ∃ pad, Blank pad ∧ ∀ rest, colon (encoded layout.colon ++ rest) = .ok ((), pad ++ rest) := by
  cases layout with
  | compact => exact ⟨[], blank_nil, fun _ => rfl⟩
  | pretty =>
    refine ⟨[0x20], ?_, fun _ => rfl⟩
    intro b hb
    rw [List.mem_singleton.1 hb]
    rfl

def memberBytes (layout : Layout) (depth : Nat) (key : String) (value : Value)
    (rest : Bytes) : Bytes :=
  encoded (key.toList.flatMap escapeChar) ++
    0x22 :: (encoded layout.colon ++ (encoded (value.writeAt layout depth) ++ rest))

/-- One member is read into the draft, whether it is the first or a later one. -/
theorem readMembers_member {layout : Layout} {depth fuel : Nat} {first : Bool} {key : String}
    {value : Value} {field : RecordField Draft} {s rest behind : Bytes}
    (found : fields.find? (·.name == key) = some field) (unset : field.isSet d = false)
    (reads : Reads (field.read d) value d') (delimited : Delimited rest)
    (opened : nextKey first s = .ok (some (memberBytes layout depth key value rest), behind)) :
    readMembers fields (fuel + 1) first d s = readMembers fields fuel false d' rest := by
  obtain ⟨pad, blank, separated⟩ := colon_written layout
  have read := reads layout depth pad rest blank delimited
  simp only [readMembers, opened, memberBytes, readString_escaped, found, unset, separated, read,
    Bool.false_eq_true, if_false]

theorem encoded_writeMembers_cons (layout : Layout) (depth : Nat) (key : String) (value : Value)
    (members : List (String × Value)) (rest : Bytes) :
    encoded (writeMembers layout depth ((key, value) :: members)) ++ rest =
      0x2C :: (encoded (layout.lineStart depth) ++ 0x22 :: memberBytes layout depth key value
        (encoded (writeMembers layout depth members) ++ rest)) := by
  simp only [writeMembers, memberBytes, encoded_append, encoded_cons, encoded_writeString,
    List.append_assoc, List.cons_append, List.nil_append]
  rfl

theorem encoded_object_cons (layout : Layout) (depth : Nat) (key : String) (value : Value)
    (members : List (String × Value)) (rest : Bytes) :
    encoded ((Value.object ((key, value) :: members)).writeAt layout depth) ++ rest =
      0x7B :: (encoded (layout.lineStart (depth + 1)) ++ 0x22 ::
        memberBytes layout (depth + 1) key value
          (encoded (writeMembers layout (depth + 1) members) ++
            (encoded (layout.lineStart depth) ++ 0x7D :: rest))) := by
  simp only [Value.writeAt, memberBytes, encoded_append, encoded_cons, encoded_nil,
    encoded_writeString, List.append_assoc, List.cons_append, List.nil_append]
  rfl

theorem length_le_writeMembers (layout : Layout) (depth : Nat) (members : List (String × Value)) :
    members.length ≤ (encoded (writeMembers layout depth members)).length := by
  induction members with
  | nil => exact Nat.zero_le _
  | cons member members ih =>
    obtain ⟨key, value⟩ := member
    have comma : (String.utf8EncodeChar ',').length = 1 := rfl
    simp only [writeMembers, encoded_append, encoded_cons, List.length_append, List.length_cons]
    omega

theorem delimited_members (layout : Layout) (depth : Nat) (members : List (String × Value))
    {rest : Bytes} (h : Delimited rest) :
    Delimited (encoded (writeMembers layout depth members) ++ rest) := by
  cases members with
  | nil => exact h
  | cons member members => exact delimited_comma _

/-- The members behind the first, up to the closing bracket. -/
theorem readMembers_later {members : List (String × Value)} (h : Fills fields d members d')
    (layout : Layout) (depth : Nat) {fuel : Nat} (enough : members.length < fuel) {pad : Bytes}
    (blank : Blank pad) (rest : Bytes) :
    readMembers fields fuel false d
      (encoded (writeMembers layout depth members) ++ (pad ++ 0x7D :: rest)) =
        .ok (d', 0x7D :: rest) := by
  have closes := delimited_append blank (delimited_brace rest)
  induction h generalizing fuel with
  | nil d =>
    obtain ⟨fuel, rfl⟩ := Nat.exists_eq_succ_of_ne_zero (Nat.ne_of_gt (Nat.zero_lt_of_lt enough))
    simp only [writeMembers, encoded_nil, List.nil_append, readMembers, nextKey_end false blank]
  | @cons d next last key value members field found unset reads _ ih =>
    obtain ⟨fuel, rfl⟩ := Nat.exists_eq_succ_of_ne_zero (Nat.ne_of_gt (Nat.zero_lt_of_lt enough))
    rw [encoded_writeMembers_cons, ← ih (Nat.lt_of_succ_lt_succ enough)]
    exact readMembers_member found unset reads (delimited_members layout depth members closes)
      (nextKey_later (blank_lineStart layout depth) _)

/-- A record is read back from its members if they fill its draft. -/
theorem reads_record (name : String) {members : List (String × Value)} {α : Type} {empty : Draft}
    {finish : Draft → Except Cause α} {a : α} (nonempty : members ≠ [])
    (h : Fills fields empty members d) (finished : finish d = .ok a) :
    Reads (readRecord name fields empty finish) (.object members) a := by
  intro layout depth pad rest blank _
  cases h with
  | nil => exact absurd rfl nonempty
  | @cons _ next _ key value members field found unset reads fills =>
    have closes := delimited_append (blank_lineStart layout depth) (delimited_brace rest)
    have brace : isSpace 0x7B = false := by decide
    rw [encoded_object_cons, readRecord, skipSpace_append blank, skipSpace_cons brace]
    generalize inside : encoded (layout.lineStart (depth + 1)) ++ 0x22 :: _ = s
    have enough : members.length < s.length := by
      have := length_le_writeMembers layout (depth + 1) members
      simp only [← inside, memberBytes, List.length_append, List.length_cons]
      omega
    have read : readMembers fields (s.length + 1) true empty s = .ok (d, 0x7D :: rest) := by
      rw [readMembers_member found unset reads (delimited_members layout (depth + 1) members closes)
        (inside ▸ nextKey_first (blank_lineStart layout (depth + 1)) _)]
      exact readMembers_later fills layout (depth + 1) enough (blank_lineStart layout depth) rest
    simp only [read, finished]
    rfl

end Members

section Items

variable {α : Type} {item : Reader α}

theorem head_written (layout : Layout) (depth : Nat) (value : Value) :
    ∃ b tail, encoded (value.writeAt layout depth) = b :: tail ∧ isSpace b = false ∧ b ≠ 0x5D := by
  cases value with
  | number n =>
    cases digits : plain n with
    | nil => exact absurd digits (plain_ne_nil n)
    | cons c s =>
      have isDigit := (plain_numeral n).digits c (digits ▸ List.mem_cons_self)
      obtain ⟨byte, digit⟩ := digit_encoded isDigit
      refine ⟨UInt8.ofNat c.toNat, encoded s, ?_, isSpace_of_digit digit, ?_⟩
      · rw [Value.writeAt, digits, encoded_cons, byte]
        rfl
      · intro same
        rw [same] at digit
        cases digit
  | text s => exact ⟨0x22, _, encoded_writeString s, by decide, by decide⟩
  | list items => cases items <;> exact ⟨0x5B, _, rfl, by decide, by decide⟩
  | object members => cases members <;> exact ⟨0x7B, _, rfl, by decide, by decide⟩

theorem nextElement_first (layout : Layout) (depth : Nat) {pad : Bytes} (blank : Blank pad)
    (value : Value) (rest : Bytes) :
    ∃ behind, nextElement true (pad ++ (encoded (value.writeAt layout depth) ++ rest)) =
      .ok (some (encoded (value.writeAt layout depth) ++ rest), behind) := by
  obtain ⟨b, tail, written, visible, notBracket⟩ := head_written layout depth value
  rw [written, nextElement, skipSpace_append blank, List.cons_append, skipSpace_cons visible]
  simp only [notBracket, if_true, if_false]
  exact ⟨_, rfl⟩

theorem nextElement_later (layout : Layout) (depth : Nat) {pad : Bytes} (blank : Blank pad)
    (value : Value) (rest : Bytes) :
    ∃ behind, nextElement false (0x2C :: (pad ++ (encoded (value.writeAt layout depth) ++ rest))) =
      .ok (some (encoded (value.writeAt layout depth) ++ rest), behind) := by
  obtain ⟨b, tail, written, visible, notBracket⟩ := head_written layout depth value
  have comma : isSpace 0x2C = false := by decide
  have notEnd : (0x2C : UInt8) ≠ 0x5D := by decide
  rw [written, nextElement, skipSpace_cons comma]
  simp only [notEnd, skipSpace_append blank, List.cons_append, skipSpace_cons visible, notBracket,
    if_true, if_false, Bool.false_eq_true]
  exact ⟨_, rfl⟩

theorem nextElement_end (first : Bool) {pad : Bytes} (blank : Blank pad) (rest : Bytes) :
    nextElement first (pad ++ 0x5D :: rest) = .ok (none, 0x5D :: rest) := by
  unfold nextElement
  rw [skipSpace_append blank]
  rfl

/-- One element is read, whether it is the first or a later one. -/
theorem readItems_item {layout : Layout} {depth fuel : Nat} {first : Bool} {value : Value} {a : α}
    {s rest behind : Bytes}
    (reads : Reads item value a) (delimited : Delimited rest)
    (opened : nextElement first s =
      .ok (some (encoded (value.writeAt layout depth) ++ rest), behind)) :
    readItems item (fuel + 1) first s =
      (readItems item fuel false rest).map fun (more, tail) => (a :: more, tail) := by
  have read := reads layout depth [] rest blank_nil delimited
  rw [List.nil_append] at read
  simp only [readItems, opened, read]
  cases readItems item fuel false rest <;> rfl

theorem encoded_writeItems_cons (layout : Layout) (depth : Nat) (value : Value)
    (values : List Value) (rest : Bytes) :
    encoded (writeItems layout depth (value :: values)) ++ rest =
      0x2C :: (encoded (layout.lineStart depth) ++ (encoded (value.writeAt layout depth) ++
        (encoded (writeItems layout depth values) ++ rest))) := by
  simp only [writeItems, encoded_append, encoded_cons, List.append_assoc, List.cons_append]
  rfl

theorem encoded_list_cons (layout : Layout) (depth : Nat) (value : Value) (values : List Value)
    (rest : Bytes) :
    encoded ((Value.list (value :: values)).writeAt layout depth) ++ rest =
      0x5B :: (encoded (layout.lineStart (depth + 1)) ++
        (encoded (value.writeAt layout (depth + 1)) ++
          (encoded (writeItems layout (depth + 1) values) ++
            (encoded (layout.lineStart depth) ++ 0x5D :: rest)))) := by
  simp only [Value.writeAt, encoded_append, encoded_cons, encoded_nil, List.append_assoc,
    List.cons_append, List.nil_append]
  rfl

theorem length_le_writeItems (layout : Layout) (depth : Nat) (values : List Value) :
    values.length ≤ (encoded (writeItems layout depth values)).length := by
  induction values with
  | nil => exact Nat.zero_le _
  | cons value values ih =>
    have comma : (String.utf8EncodeChar ',').length = 1 := rfl
    simp only [writeItems, encoded_append, encoded_cons, List.length_append, List.length_cons]
    omega

theorem delimited_items (layout : Layout) (depth : Nat) (values : List Value) {rest : Bytes}
    (h : Delimited rest) : Delimited (encoded (writeItems layout depth values) ++ rest) := by
  cases values with
  | nil => exact h
  | cons value values => exact delimited_comma _

/-- The elements behind the first, up to the closing bracket. -/
theorem readItems_later {values : List Value} {as : List α}
    (h : List.Forall₂ (Reads item) values as) (layout : Layout)
    (depth : Nat) {fuel : Nat} (enough : values.length < fuel) {pad : Bytes}
    (blank : Blank pad) (rest : Bytes) :
    readItems item fuel false
      (encoded (writeItems layout depth values) ++ (pad ++ 0x5D :: rest)) =
        .ok (as, 0x5D :: rest) := by
  have closes := delimited_append blank (delimited_bracket rest)
  induction h generalizing fuel with
  | nil =>
    obtain ⟨fuel, rfl⟩ := Nat.exists_eq_succ_of_ne_zero (Nat.ne_of_gt (Nat.zero_lt_of_lt enough))
    simp only [writeItems, encoded_nil, List.nil_append, readItems, nextElement_end false blank]
  | @cons value a values as reads _ ih =>
    obtain ⟨fuel, rfl⟩ := Nat.exists_eq_succ_of_ne_zero (Nat.ne_of_gt (Nat.zero_lt_of_lt enough))
    obtain ⟨behind, opened⟩ := nextElement_later layout depth
      (blank_lineStart layout depth) value
      (encoded (writeItems layout depth values) ++ (pad ++ 0x5D :: rest))
    rw [encoded_writeItems_cons,
      readItems_item reads (delimited_items layout depth values closes) opened,
      ih (Nat.lt_of_succ_lt_succ enough)]
    rfl

/-- A list is read back from its elements. -/
theorem reads_listOf {values : List Value} {as : List α}
    (h : List.Forall₂ (Reads item) values as) : Reads (listOf item) (.list values) as := by
  intro layout depth pad rest blank _
  have bracket : isSpace 0x5B = false := by decide
  cases h with
  | nil =>
    have read : ∀ fuel, readItems item (fuel + 1) true (0x5D :: rest) = .ok ([], 0x5D :: rest) :=
      fun _ => rfl
    change listOf item (pad ++ (0x5B :: 0x5D :: rest)) = _
    rw [listOf, skipSpace_append blank, skipSpace_cons bracket]
    simp only [read]
    rfl
  | @cons value a values as reads more =>
    have closes := delimited_append (blank_lineStart layout depth) (delimited_bracket rest)
    rw [encoded_list_cons, listOf, skipSpace_append blank, skipSpace_cons bracket]
    obtain ⟨behind, opened⟩ := nextElement_first layout (depth + 1)
      (blank_lineStart layout (depth + 1)) value
      (encoded (writeItems layout (depth + 1) values) ++
        (encoded (layout.lineStart depth) ++ 0x5D :: rest))
    generalize inside : encoded (layout.lineStart (depth + 1)) ++ _ = s at opened ⊢
    have enough : values.length < s.length := by
      have := length_le_writeItems layout (depth + 1) values
      simp only [← inside, List.length_append, List.length_cons]
      omega
    have read : readItems item (s.length + 1) true s = .ok (a :: as, 0x5D :: rest) := by
      rw [readItems_item reads (delimited_items layout (depth + 1) values closes) opened,
        readItems_later more layout (depth + 1) enough (blank_lineStart layout depth) rest]
      rfl
    simp only [read]
    rfl

end Items

end TableBooking.Json
