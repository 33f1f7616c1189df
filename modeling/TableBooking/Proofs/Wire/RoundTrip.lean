import TableBooking.Proofs.Calendar.RoundTrip
import TableBooking.Proofs.Json.RoundTrip
import TableBooking.Wire.Decode
import TableBooking.Wire.Encode

/-!
The JSON forms of the booking types are read back as they were written.
-/
namespace TableBooking

open TableBooking.Json

/-- A whole text that was written of a value is read as what the reader gives for the value. -/
theorem Json.readWhole_written {α : Type} {reader : Reader α} {value : Value} {a : α}
    (h : Reads reader value a) (layout : Layout) :
    readWhole reader (utf8 (value.write layout)) = .ok a := by
  have read := h layout 0 [] [] blank_nil (by rintro _ ⟨⟩)
  rw [List.nil_append, List.append_nil] at read
  rw [Value.write, utf8_ofList, readWhole, read]
  rfl

theorem Json.decode_written {α : Type} {reader : Reader α} {value : Value} {a : α}
    (h : Reads reader value a) (layout : Layout) :
    decode reader (utf8 (value.write layout)) = .ok a := by
  rw [decode, readWhole_written h]
  rfl

namespace Wire

theorem reads_small (n : UInt32) : Reads small (.number n.toNat) n := by
  have read := (reads_number "u32" n.toNat_lt (by decide)).map Nat.toUInt32
  rwa [Nat.toUInt32_eq, UInt32.ofNat_toNat] at read

theorem reads_large (n : UInt64) : Reads large (.number n.toNat) n := by
  have read := (reads_number "u64" n.toNat_lt (by decide)).map Nat.toUInt64
  rwa [Nat.toUInt64_eq, UInt64.ofNat_toNat] at read

theorem reads_timestamp (t : Timestamp) : Reads timestamp (.text (toString t)) t := by
  refine reads_text timestampExpected ?_
  change (Calendar.readTimestamp (String.ofList t.text)).mapError Calendar.ReadError.message = _
  rw [Calendar.readTimestamp_text]
  rfl

theorem reads_date (d : Date) : Reads date (.text (toString d)) d := by
  refine reads_text _ ?_
  change (Calendar.readDate (String.ofList d.text)).mapError Calendar.ReadError.message = _
  rw [Calendar.readDate_text]
  rfl

theorem reads_venue (v : VenueId) : Reads venue (.text v.text) v :=
  (reads_text "a string" rfl).map VenueId.mk

theorem reads_customer (c : CustomerId) : Reads customer (.text c.text) c :=
  (reads_text "a string" rfl).map CustomerId.mk

theorem reads_tableId (id : TableId) : Reads tableId (.number id.number.toNat) id :=
  (reads_small id.number).map TableId.mk

theorem reads_bookingId (id : BookingId) : Reads bookingId (.number id.number.toNat) id :=
  (reads_large id.number).map BookingId.mk

theorem reads_field {Draft α : Type} {name : String} {get : Draft → Option α}
    {set : Draft → α → Draft} {reader : Reader α} {value : Value} {a : α} (h : Reads reader value a)
    (d : Draft) : Reads ((field name get set reader).read d) value (set d a) := by
  intro layout depth pad rest blank delimited
  simp only [field, h layout depth pad rest blank delimited]

theorem reads_endpoints (w : Window) : Reads endpoints w.toValue ⟨w.startsAt, w.endsAt⟩ := by
  refine reads_record "RawWindow" (d := ⟨some w.startsAt, some w.endsAt⟩) (List.cons_ne_nil _ _)
    ?_ rfl
  refine .cons _ rfl rfl (reads_field (reads_timestamp w.startsAt) _) ?_
  refine .cons _ rfl rfl (reads_field (reads_timestamp w.endsAt) _) ?_
  exact .nil _

theorem reads_window (w : Window) : Reads window w.toValue w := by
  intro layout depth pad rest blank delimited
  simp only [window, reads_endpoints w layout depth pad rest blank delimited, w.make_self]

theorem reads_table (t : Table) : Reads table t.toValue t := by
  refine reads_record "Table" (d := ⟨some t.id, some t.name, some t.capacity⟩)
    (List.cons_ne_nil _ _) ?_ rfl
  refine .cons _ rfl rfl (reads_field (reads_tableId t.id) _) ?_
  refine .cons _ rfl rfl (reads_field (reads_text "a string" rfl) _) ?_
  refine .cons _ rfl rfl (reads_field (reads_small t.capacity) _) ?_
  exact .nil _

theorem reads_enquiry (e : Enquiry) : Reads enquiry e.toValue e := by
  refine reads_record "BookingEnquiry" (d := ⟨some e.venue, some e.customer, some e.partySize,
    some e.date, some e.window⟩) (List.cons_ne_nil _ _) ?_ rfl
  refine .cons _ rfl rfl (reads_field (reads_venue e.venue) _) ?_
  refine .cons _ rfl rfl (reads_field (reads_customer e.customer) _) ?_
  refine .cons _ rfl rfl (reads_field (reads_small e.partySize) _) ?_
  refine .cons _ rfl rfl (reads_field (reads_date e.date) _) ?_
  refine .cons _ rfl rfl (reads_field (reads_window e.window) _) ?_
  exact .nil _

/-- The parts of a proposal are read with whatever the window is read as. -/
theorem reads_proposalParts {W : Type} (name : String) {windowReader : Reader W} {p : Proposal}
    {w : W} (h : Reads windowReader p.window.toValue w) :
    Reads (proposalParts name windowReader) p.toValue
      ⟨p.venue, p.customer, p.table, p.partySize, p.date, w⟩ := by
  refine reads_record name (d := ⟨some p.venue, some p.customer, some p.table, some p.partySize,
    some p.date, some w⟩) (List.cons_ne_nil _ _) ?_ rfl
  refine .cons _ rfl rfl (reads_field (reads_venue p.venue) _) ?_
  refine .cons _ rfl rfl (reads_field (reads_customer p.customer) _) ?_
  refine .cons _ rfl rfl (reads_field (reads_tableId p.table) _) ?_
  refine .cons _ rfl rfl (reads_field (reads_small p.partySize) _) ?_
  refine .cons _ rfl rfl (reads_field (reads_date p.date) _) ?_
  refine .cons _ rfl rfl (reads_field h _) ?_
  exact .nil _

theorem reads_proposal (p : Proposal) : Reads proposal p.toValue p :=
  (reads_proposalParts "ProposedBooking" (reads_window p.window)).map ProposalParts.proposal

theorem reads_booking (b : Booking) : Reads booking b.toValue b := by
  refine reads_record "Booking" (d := ⟨some b.id, some b.venue, some b.customer, some b.table,
    some b.partySize, some b.date, some b.window⟩) (List.cons_ne_nil _ _) ?_ rfl
  refine .cons _ rfl rfl (reads_field (reads_bookingId b.id) _) ?_
  refine .cons _ rfl rfl (reads_field (reads_venue b.venue) _) ?_
  refine .cons _ rfl rfl (reads_field (reads_customer b.customer) _) ?_
  refine .cons _ rfl rfl (reads_field (reads_tableId b.table) _) ?_
  refine .cons _ rfl rfl (reads_field (reads_small b.partySize) _) ?_
  refine .cons _ rfl rfl (reads_field (reads_date b.date) _) ?_
  refine .cons _ rfl rfl (reads_field (reads_window b.window) _) ?_
  exact .nil _

end Wire

end TableBooking
