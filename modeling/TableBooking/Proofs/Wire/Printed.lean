import TableBooking.Engine.Requests
import TableBooking.Proofs.Store.Document

/-!
Every printed form is read back: on one line or spread over lines, a window, an enquiry, a proposal,
a booking, a table and a bookings document are decoded to what was printed. A printed proposal that
is handed back is the proposal itself, so committing its text is committing it.
-/
namespace TableBooking

open TableBooking.Json

/-- What a client hands back unchanged is the proposal that was printed. -/
theorem Proposal.ofJson_written (p : Proposal) (layout : Layout) :
    Proposal.ofJson (p.toValue.write layout) = .ok p := by
  have read := readWhole_written
    (Wire.reads_proposalParts "RawProposal" (Wire.reads_endpoints p.window)) layout
  simp only [Proposal.ofJson, read, p.window.make_self]

/-- Committing a text that stands for a proposal is committing the proposal. -/
theorem Engine.commitText_of_ofJson {text : String} {p : Proposal}
    (h : Proposal.ofJson text = .ok p) (timeout : Duration) (today : Date) :
    Engine.commitText timeout today text = Engine.commit timeout today p := by
  simp only [Engine.commitText, h]

/-- In either layout, each value of the format is what its printed form is decoded to. A printed
proposal that is handed back is read as that proposal and committed like it. -/
theorem printed_values_read_back (layout : Layout) :
    (∀ w : Window, decode Wire.window (utf8 (w.toValue.write layout)) = .ok w) ∧
    (∀ e : Enquiry, decode Wire.enquiry (utf8 (e.toValue.write layout)) = .ok e) ∧
    (∀ p : Proposal, decode Wire.proposal (utf8 (p.toValue.write layout)) = .ok p) ∧
    (∀ b : Booking, decode Wire.booking (utf8 (b.toValue.write layout)) = .ok b) ∧
    (∀ t : Table, decode Wire.table (utf8 (t.toValue.write layout)) = .ok t) ∧
    (∀ d : Document, decode Document.reader (utf8 (d.toValue.write layout)) = .ok d) ∧
    ∀ p : Proposal, Proposal.ofJson (p.toValue.write layout) = .ok p ∧
      ∀ timeout today, Engine.commitText timeout today (p.toValue.write layout) =
        Engine.commit timeout today p := by
  refine ⟨?_, ?_, ?_, ?_, ?_, ?_, ?_⟩
  · intro w
    exact decode_written (Wire.reads_window w) layout
  · intro e
    exact decode_written (Wire.reads_enquiry e) layout
  · intro p
    exact decode_written (Wire.reads_proposal p) layout
  · intro b
    exact decode_written (Wire.reads_booking b) layout
  · intro t
    exact decode_written (Wire.reads_table t) layout
  · intro d
    exact decode_written d.reads_document layout
  · intro p
    have handedBack := p.ofJson_written layout
    exact ⟨handedBack, Engine.commitText_of_ofJson handedBack⟩

end TableBooking
