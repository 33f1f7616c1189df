import TableBooking.Proofs.Wire.RoundTrip
import TableBooking.Store.Document

/-!
The bookings document as it is kept: its text stands for the document and for no other.
-/
namespace TableBooking

open TableBooking.Json

namespace Document

theorem reads_bookings (bookings : List Booking) :
    Reads (listOf Wire.booking) (.list (bookings.map Booking.toValue)) bookings := by
  refine reads_listOf ?_
  induction bookings with
  | nil => exact .nil
  | cons b bookings ih => exact .cons (Wire.reads_booking b) ih

theorem reads_document (document : Document) : Reads reader document.toValue document := by
  refine reads_record "BookingsDocument" (d := ⟨some document.lastId, some document.bookings⟩)
    (List.cons_ne_nil _ _) ?_ rfl
  refine .cons _ rfl rfl (Wire.reads_field (Wire.reads_large document.lastId) _) ?_
  refine .cons _ rfl rfl (Wire.reads_field (reads_bookings document.bookings) _) ?_
  exact .nil _

theorem text_ne_nil (document : Document) : document.text ≠ [] := by
  unfold text Value.write
  rw [utf8_ofList]
  exact List.cons_ne_nil _ _

theorem decode_text (document : Document) : decode reader document.text = .ok document :=
  decode_written document.reads_document .pretty

/-- A document is kept under a text that stands for it. -/
theorem ofContent_text (document : Document) : ofContent (some document.text) = .ok document := by
  have decoded := document.decode_text
  cases written : document.text with
  | nil => exact absurd written document.text_ne_nil
  | cons b rest =>
    rw [written] at decoded
    simp only [ofContent, decoded]
    rfl

theorem ofContent_ne_file (content : Option Bytes) (e : FileError) :
    ofContent content ≠ .error (.file e) := by
  unfold ofContent
  split
  · simp
  · simp
  · rename_i bytes _
    cases decode reader bytes <;> simp [Except.mapError]

end Document

end TableBooking
