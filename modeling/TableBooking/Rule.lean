import TableBooking.Venue

/-!
The rules that an enquiry or a proposal can break, and how each is reported.
-/
namespace TableBooking

def maxBookingHours : Nat := 12

inductive Rule where
  | partySizeNotPositive
  | customerMissing
  | venueMissing
  | windowNotOrdered
  | windowTooLong
  | dateInPast
  | windowOutsideDate
  | noCandidateTables
  | unknownTable (table : TableId)
  | tableTooSmall (table : TableId) (capacity partySize : UInt32)
  /-- The text of a proposal is no proposal, for the given reason. -/
  | malformedProposal (reason : String)
  deriving DecidableEq

def Rule.message : Rule → String
  | .partySizeNotPositive => "must have positive people"
  | .customerMissing => "customer id cannot be empty"
  | .venueMissing => "venue id cannot be empty"
  | .windowNotOrdered => "starts at must be before ends at"
  | .windowTooLong => s!"booking can not exceed {maxBookingHours} hours"
  | .dateInPast => "date must not be in the past"
  | .windowOutsideDate => "all times must be on the booking date"
  | .noCandidateTables => "no candidate tables were given"
  | .unknownTable table => s!"table {table} does not exist"
  | .tableTooSmall table capacity partySize =>
    s!"table {table} seats {capacity}, party of {partySize} requested"
  | .malformedProposal reason => s!"proposal is malformed: {reason}"

end TableBooking
