import TableBooking.Main
import TableBooking.Program
import TableBooking.Decimal.Shortest
import TableBooking.Engine.Fault
import TableBooking.Engine.Requests
import TableBooking.Settings.Document
import TableBooking.Store.File
import TableBooking.Store.Ledger
import TableBooking.TableService
import TableBooking.Toml.Reader
import TableBooking.Url
import TableBooking.Proofs.Engine.Acknowledgement
import TableBooking.Proofs.Engine.Agreement
import TableBooking.Proofs.Engine.Exclusion
import TableBooking.Proofs.Engine.Linearizability
import TableBooking.Proofs.Engine.Selection
import TableBooking.Proofs.Store.Refinement
import TableBooking.Proofs.Store.Tasks
import TableBooking.Proofs.Wire.Printed
import TableBooking.Proofs.Engine.Stages
import TableBooking.Proofs.Ledger.History
import TableBooking.Proofs.Store.LockFile
import TableBooking.Proofs.Store.Effect
import TableBooking.Proofs.Engine.Rules
import TableBooking.Proofs.CommandLine.Commands
import TableBooking.Proofs.Program.Run
import TableBooking.Proofs.Program.Piping
import TableBooking.Proofs.Program.Effect
import TableBooking.Proofs.Engine.Succession
import TableBooking.Proofs.Engine.Lookup
import TableBooking.Proofs.Store.Freshness
import TableBooking.Proofs.TableService.Targets
import TableBooking.Proofs.Engine.Verdict
import TableBooking.Proofs.Json.Conversion
import TableBooking.Proofs.Wire.Decoders
import TableBooking.Proofs.Calendar.Length
import TableBooking.Proofs.Store.Content
import TableBooking.Proofs.Settings.Placeholder
import TableBooking.Proofs.Directory.Insertion
import TableBooking.Proofs.Engine.Capacity
import TableBooking.Proofs.Engine.Timetable
import TableBooking.Proofs.Program.Settings
import TableBooking.Proofs.Settings.Validity
