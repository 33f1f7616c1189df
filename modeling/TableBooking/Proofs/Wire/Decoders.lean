import TableBooking.Proofs.Json.Conversion
import TableBooking.Wire.Decode

/-!
Two decoders of a proposal. One makes the window while it reads, the other reads the whole text with
the ends of the window in it and makes the window then. They accept the same texts and read the same
proposals from them; where the second one tells a bad window from a malformed text is stated.
-/
namespace TableBooking

open TableBooking.Json

namespace Wire

theorem field_toOption {Draft α : Type} (name : String) (get : Draft → Option α)
    (set : Draft → α → Draft) (value : Reader α) (d : Draft) (s : Bytes) :
    ((field name get set value).read d s).toOption =
      (value s).toOption.map fun found => (set d found.1, found.2) := by
  unfold field
  dsimp only
  rcases value s with fault | ⟨a, rest⟩ <;> rfl

section Fields

variable {Draft Draft' α β : Type} {convert : Draft → Option Draft'} {convertValue : α → Option β}
  {name : String} {get : Draft → Option α} {set : Draft → α → Draft} {value : Reader α}
  {get' : Draft' → Option β} {set' : Draft' → β → Draft'} {value' : Reader β}

theorem field_converts (values : value.Converts convertValue value')
    (kept : ∀ d d', convert d = some d' → (get' d').isSome = (get d).isSome)
    (filled : ∀ d a, get d = none →
      convert (set d a) = (convert d).bind fun d' => (convertValue a).map (set' d')) :
    (field name get set value).Converts convert (field name get' set' value') where
  name := rfl
  isSet := kept
  read d s unset := by
    have missing : get d = none := Option.not_isSome_iff_eq_none.1 (by simpa [field] using unset)
    simp only [field_toOption, values s]
    rcases (value s).toOption with _ | ⟨a, rest⟩
    · cases convert d <;> rfl
    · simp only [Option.map_some, Option.bind_some, convertFound, filled d a missing]
      cases convert d with
      | none => rfl
      | some d' => cases convertValue a <;> rfl

theorem field_spares {other : RecordField Draft}
    (h : ∀ d a, other.isSet (set d a) = other.isSet d) :
    (field name get set value).Spares other := by
  intro d s next rest read
  simp only [field] at read
  split at read
  · cases read
  · cases read
    exact h d _

end Fields

section Proposals

variable {W W' : Type}

def ProposalDraft.withWindow (d : ProposalDraft W) (window : Option W') : ProposalDraft W' :=
  { venue := d.venue, customer := d.customer, table := d.table, partySize := d.partySize,
    date := d.date, window }

def ProposalDraft.convertWindow (convert : W → Option W') (d : ProposalDraft W) :
    Option (ProposalDraft W') :=
  match d.window with
  | none => some (d.withWindow none)
  | some w => (convert w).map fun w' => d.withWindow (some w')

def ProposalParts.convertWindow (convert : W → Option W') (p : ProposalParts W) :
    Option (ProposalParts W') :=
  (convert p.window).map fun window =>
    { venue := p.venue, customer := p.customer, table := p.table, partySize := p.partySize,
      date := p.date, window }

theorem required_bind_toOption {α β : Type} (name : String) (found : Option α)
    (next : α → Except Cause β) :
    (required name found >>= next).toOption = found.bind fun a => (next a).toOption := by
  cases found <;> rfl

theorem ProposalDraft.finish_toOption (d : ProposalDraft W) :
    d.finish.toOption =
      d.venue.bind fun venue => d.customer.bind fun customer => d.table.bind fun table =>
      d.partySize.bind fun partySize => d.date.bind fun date => d.window.bind fun window =>
      some { venue, customer, table, partySize, date, window } := by
  simp only [finish, required_bind_toOption]
  rfl

theorem ProposalDraft.convertWindow_eq_some {convert : W → Option W'} {d : ProposalDraft W}
    {d' : ProposalDraft W'} (h : d.convertWindow convert = some d') :
    ∃ window, d' = d.withWindow window ∧ window.isSome = d.window.isSome := by
  unfold convertWindow at h
  split at h
  case h_1 missing =>
    cases h
    exact ⟨none, rfl, by simp [missing]⟩
  case h_2 w set =>
    obtain ⟨w', -, rfl⟩ := Option.map_eq_some_iff.1 h
    exact ⟨some w', rfl, by rw [set]; rfl⟩

theorem ProposalDraft.finish_convertWindow (convert : W → Option W') (d : ProposalDraft W) :
    d.finish.toOption.bind (ProposalParts.convertWindow convert) =
      (d.convertWindow convert).bind fun d' => d'.finish.toOption := by
  simp only [finish_toOption, Option.bind_assoc, Option.bind_some]
  unfold convertWindow
  cases d.window with
  | none => simp [withWindow]
  | some w =>
    cases conv : convert w with
    | none => simp [ProposalParts.convertWindow, conv]
    | some w' => simp [ProposalParts.convertWindow, conv, withWindow]

/-- A field beside the window is the same before and after the conversion. -/
theorem plain_field_converts {α : Type} (convert : W → Option W') (name : String)
    {get : ProposalDraft W → Option α} {set : ProposalDraft W → α → ProposalDraft W}
    {get' : ProposalDraft W' → Option α} {set' : ProposalDraft W' → α → ProposalDraft W'}
    (value : Reader α) (kept : ∀ d window, get' (d.withWindow window) = get d)
    (moved : ∀ d a window, (set d a).withWindow window = set' (d.withWindow window) a)
    (beside : ∀ d a, (set d a).window = d.window) :
    (field name get set value).Converts (ProposalDraft.convertWindow convert)
      (field name get' set' value) := by
  apply field_converts (Reader.converts_some value)
  · intro d d' conv
    obtain ⟨window, rfl, -⟩ := ProposalDraft.convertWindow_eq_some conv
    rw [kept]
  · intro d a _
    unfold ProposalDraft.convertWindow
    rw [beside]
    cases d.window with
    | none => simp [moved]
    | some w => cases conv : convert w <;> simp [moved, conv]

theorem window_field_converts {convert : W → Option W'} {reader : Reader W} {other : Reader W'}
    (h : reader.Converts convert other) :
    (field "window" ProposalDraft.window (fun d v => { d with window := some v }) reader).Converts
      (ProposalDraft.convertWindow convert)
      (field "window" ProposalDraft.window (fun d v => { d with window := some v }) other) := by
  apply field_converts h
  · intro d d' conv
    obtain ⟨window, rfl, same⟩ := ProposalDraft.convertWindow_eq_some conv
    exact same
  · intro d w missing
    simp only [ProposalDraft.convertWindow, missing, Option.bind_some]
    rfl

theorem proposalParts_converts {convert : W → Option W'} {reader : Reader W} {other : Reader W'}
    (h : reader.Converts convert other) (name name' : String) :
    (proposalParts name reader).Converts (ProposalParts.convertWindow convert)
      (proposalParts name' other) := by
  unfold proposalParts
  refine readRecord_converts
    (?_ : List.Forall₂ (RecordField.Converts (ProposalDraft.convertWindow convert)) _ _) ?_ rfl ?_
    (ProposalDraft.finish_convertWindow convert) name name'
  · refine .cons ?_ (.cons ?_ (.cons ?_ (.cons ?_ (.cons ?_
      (.cons (window_field_converts h) .nil)))))
    all_goals
      exact plain_field_converts convert _ _ (fun _ _ => rfl) (fun _ _ _ => rfl) (fun _ _ => rfl)
  · simp only [List.pairwise_cons, List.forall_mem_cons, List.not_mem_nil, false_implies,
      implies_true, and_true, List.Pairwise.nil]
    repeat' apply And.intro
    all_goals exact field_spares fun _ _ => rfl
  · simp only [List.forall_mem_cons, List.not_mem_nil, false_implies, implies_true, and_true]
    exact ⟨rfl, rfl, rfl, rfl, rfl, rfl⟩

theorem window_converts :
    endpoints.Converts (fun e => (Window.make e.startsAt e.endsAt).toOption) window := by
  intro s
  unfold window
  rcases endpoints s with fault | ⟨e, rest⟩
  · rfl
  · simp only [Except.toOption, Option.bind_some, convertFound]
    cases Window.make e.startsAt e.endsAt <;> rfl

theorem window_eq_ok {s rest : Bytes} {w : Window} (h : window s = .ok (w, rest)) :
    ∃ e, endpoints s = .ok (e, rest) ∧ Window.make e.startsAt e.endsAt = .ok w := by
  have read := window_converts s
  rw [h] at read
  obtain ⟨⟨e, tail⟩, ends, converted⟩ := Option.bind_eq_some_iff.1 read.symm
  obtain ⟨w', made, same⟩ := Option.map_eq_some_iff.1 converted
  cases same
  exact ⟨e, toOption_eq_some_iff.1 ends, toOption_eq_some_iff.1 made⟩

theorem proposal_converts : (proposalParts "ProposedBooking" window).Converts
    (fun parts => some parts.proposal) proposal := by
  intro s
  unfold proposal
  rcases proposalParts "ProposedBooking" window s with fault | ⟨parts, rest⟩ <;> rfl

end Proposals

end Wire

theorem Json.decode_eq_ok_iff {α : Type} {reader : Reader α} {whole : Bytes} {a : α} :
    decode reader whole = .ok a ↔ (readWhole reader whole).toOption = some a := by
  rw [toOption_eq_some_iff, decode]
  cases readWhole reader whole <;> simp [Except.mapError]

theorem Window.make_eq_error {startsAt endsAt : Timestamp} {rule : Rule}
    (h : make startsAt endsAt = .error rule) :
    rule = .windowNotOrdered ∨ rule = .windowTooLong := by
  unfold make at h
  split_ifs at h
  · cases h
    exact .inr rfl
  · cases h
    exact .inl rfl

namespace Proposal

/-- The text is a proposal but for the rule that its window breaks. -/
def BreaksWindow (text : String) (rule : Rule) : Prop :=
  ∃ parts,
    Json.decode (Wire.proposalParts "ProposedBooking" Wire.endpoints) (utf8 text) = .ok parts ∧
    Window.make parts.window.startsAt parts.window.endsAt = .error rule

/-- The record's name stands in the messages of faults only. -/
theorem readWhole_name {W : Type} (reader : Reader W) (name name' : String) (whole : Bytes) :
    (readWhole (Wire.proposalParts name reader) whole).toOption =
      (readWhole (Wire.proposalParts name' reader) whole).toOption := by
  have converts := Wire.proposalParts_converts (Reader.converts_some reader) name' name
  rw [converts.readWhole whole]
  cases (readWhole (Wire.proposalParts name' reader) whole).toOption <;> rfl

theorem decode_eq_ok_iff {text : String} {p : Proposal} :
    Json.decode Wire.proposal (utf8 text) = .ok p ↔
      ∃ parts w, (readWhole (Wire.proposalParts "RawProposal" Wire.endpoints)
          (utf8 text)).toOption = some parts ∧
        Window.make parts.window.startsAt parts.window.endsAt = .ok w ∧
        p = ⟨parts.venue, parts.customer, parts.table, parts.partySize, parts.date, w⟩ := by
  rw [Json.decode_eq_ok_iff, Wire.proposal_converts.readWhole,
    (Wire.proposalParts_converts Wire.window_converts "RawProposal" _).readWhole]
  constructor
  · intro read
    obtain ⟨checked, conv, same⟩ := Option.bind_eq_some_iff.1 read
    obtain ⟨parts, raw, conv⟩ := Option.bind_eq_some_iff.1 conv
    obtain ⟨w, made, rfl⟩ := Option.map_eq_some_iff.1 conv
    cases same
    exact ⟨parts, w, raw, toOption_eq_some_iff.1 made, rfl⟩
  · rintro ⟨parts, w, read, made, rfl⟩
    rw [read]
    simp only [Option.bind_some, Wire.ProposalParts.convertWindow, made]
    rfl

theorem ofJson_eq_ok {text : String} {p : Proposal} (h : ofJson text = .ok p) :
    ∃ parts, readWhole (Wire.proposalParts "RawProposal" Wire.endpoints) (utf8 text) = .ok parts ∧
      Window.make parts.window.startsAt parts.window.endsAt = .ok p.window := by
  unfold ofJson at h
  dsimp only at h
  cases read : readWhole (Wire.proposalParts "RawProposal" Wire.endpoints) (utf8 text) with
  | error fault =>
    rw [read] at h
    cases h
  | ok parts =>
    refine ⟨parts, rfl, ?_⟩
    cases made : Window.make parts.window.startsAt parts.window.endsAt with
    | error rule =>
      rw [read] at h
      simp only [made] at h
      cases h
    | ok w =>
      rw [read] at h
      simp only [made] at h
      cases h
      rfl

theorem breaksWindow_iff {text : String} {rule : Rule} :
    BreaksWindow text rule ↔
      ∃ parts, (readWhole (Wire.proposalParts "RawProposal" Wire.endpoints)
          (utf8 text)).toOption = some parts ∧
        Window.make parts.window.startsAt parts.window.endsAt = .error rule := by
  unfold BreaksWindow
  simp only [Json.decode_eq_ok_iff, readWhole_name Wire.endpoints "ProposedBooking" "RawProposal"]

/-- Both decoders accept the same texts, as the same proposals. The one that judges the text before
its window names the rule that the window breaks exactly where nothing else is wrong with the
text. -/
theorem decoders_agree (text : String) :
    (∀ p, ofJson text = .ok p ↔ Json.decode Wire.proposal (utf8 text) = .ok p) ∧
    (ofJson text = .error .windowNotOrdered ↔ BreaksWindow text .windowNotOrdered) ∧
    (ofJson text = .error .windowTooLong ↔ BreaksWindow text .windowTooLong) ∧
    ((∃ reason, ofJson text = .error (.malformedProposal reason)) ↔
      (∀ p, Json.decode Wire.proposal (utf8 text) ≠ .ok p) ∧
        ¬BreaksWindow text .windowNotOrdered ∧ ¬BreaksWindow text .windowTooLong) := by
  simp only [ne_eq, decode_eq_ok_iff, breaksWindow_iff]
  unfold ofJson
  dsimp only
  rcases readWhole (Wire.proposalParts "RawProposal" Wire.endpoints) (utf8 text) with fault | parts
  · simp [Except.toOption]
  · cases made : Window.make parts.window.startsAt parts.window.endsAt with
    | error rule =>
      obtain rfl | rfl := Window.make_eq_error made
      · simp [Except.toOption, made]
      · simp [Except.toOption, made]
    | ok w => simp [Except.toOption, made, eq_comm]

end Proposal

end TableBooking
