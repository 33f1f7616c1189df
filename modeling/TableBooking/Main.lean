import Std.Async.DNS
import Std.Async.TCP
import Std.Time.DateTime
import TableBooking.Http
import TableBooking.Program

/-!
The program as it is run. What surrounds an invocation is gathered and the outcome is printed; in
between the calls of the dialogue are served one after another on the disk and the network. A change
of the bookings is made while their lock is held, on a tree that is read under the lock.
-/
namespace TableBooking.Main

/-- What the disk has at a place. Whatever else than absence keeps it from being read is thrown. -/
def node? (location : Location) : IO (Option Node) := do
  match ← (IO.FS.readBinFile location.text).toBaseIO with
  | .ok content => return some (.file content.toList)
  | .error (.inappropriateType _ 21 _) => return some .directory
  | .error (.inappropriateType ..) | .error (.noFileOrDirectory ..) => return none
  | .error e => throw e

def snapshot (paths : List Path) : IO FileTree := do
  let places := (paths.flatMap Path.places).eraseDups
  let entries ← places.filterMapM fun place => return (← node? place).map (place, ·)
  return ⟨entries⟩

/-- Puts a node on the disk. A new content takes the place of the old one as a whole. -/
def put (location : Location) : Node → IO Unit
  | .directory => IO.FS.createDirAll location.text
  | .file content => do
    let staging := location.text ++ ".new"
    IO.FS.writeBinFile staging ⟨content.toArray⟩
    IO.FS.rename staging location.text

/-- Makes the disk differ from one tree as another does. Nothing is taken away. -/
def bring (before after : FileTree) : IO Unit :=
  for (location, node) in after.entries.reverse do
    unless before.node? location = some node do put location node

def lockWithin (timeout : Duration) (handle : IO.FS.Handle) : IO Bool := do
  for _ in [0:timeout.wholeMillis + 1] do
    if ← handle.tryLock then return true
    IO.sleep 1
  return false

def get (url : Url) : Std.Async.Async (Option Response) := do
  let some authority := url.authority | return none
  let name := (String.ofList authority.host.text).dropWhile (· = '[') |>.dropEndWhile (· = ']')
  let port := (authority.port.getD 80).toUInt16
  let addresses ← Std.Async.DNS.getAddrInfo name.toString ""
  let some address := addresses[0]? | return none
  let client ← Std.Async.TCP.Socket.Client.mk
  client.connect <|
    match address with
    | .v4 addr => .v4 { addr, port }
    | .v6 addr => .v6 { addr, port }
  client.send ⟨(Http.request authority url).toArray⟩
  let mut received : Json.Bytes := []
  repeat
    match ← client.recv? 65536 with
    | none => return Http.lastResponse? received
    | some bytes =>
      received := received ++ bytes.toList
      if let some response := Http.response? received then return some response
  return none

/-- Requests a URL. There is no response where the connection fails or would have to be encrypted,
and none at all if the call takes too long. -/
def fetch (timeout : Duration) (url : Url) : IO (Option (Option Response)) := do
  if url.scheme ≠ "http" then return some none
  let task ← (get url).toIO
  for _ in [0:timeout.wholeMillis + 1] do
    if (← task.getState) == .finished then return some ((← task.block.toBaseIO).toOption.join)
    IO.sleep 1
  return none

/-- Serves a call on the disk, where the directory has the response that it requests. -/
def serveOnDisk (job : Job) (response : Option Response) (call : Call) :
    IO (Reply call.Failure call.Answer) := do
  let serve :=
    serving (Program.directory job.tables fun _ => response) (FileStore.store job.bookings) call
  let paths := [job.bookings, job.bookings.lockFile]
  let tree ← snapshot paths
  if call.changes && (FileStore.lock job.bookings tree).isOk then
    for place in job.bookings.places.dropLast do IO.FS.createDirAll place.text
    let handle ← IO.FS.Handle.mk job.bookings.lockFile.text .append
    unless ← lockWithin job.timeout handle do return .timedOut
    try
      let before ← snapshot paths
      let (reply, after) := serve before
      bring before after
      return reply
    finally handle.unlock
  else return (serve tree).1

def serve (job : Job) (call : Call) : IO (Reply call.Failure call.Answer) := do
  try
    match Program.requested? job.tables call with
    | none => serveOnDisk job none call
    | some url =>
      match ← fetch job.timeout url with
      | some response => serveOnDisk job response call
      | none => return .timedOut
  catch e => return .failed (call.breakdown (toString e))

def today : IO Date := do
  let now ← Std.Time.Timestamp.now
  let day := Std.Time.PlainDate.ofEpochDay now.toDaysSinceUnixEpoch
  match Date.ofParts? day.year.toInt day.month.val.toNat day.day.val.toNat with
  | some date => return date
  | none => throw (IO.userError "the clock is beyond the calendar")

def environment (names : List String) : IO Placeholder.Variables := do
  let values ← names.filterMapM fun name => return (← IO.getEnv name).map (name, ·)
  return fun name => values.lookup name

def invoke (words : List String) (arguments : Arguments) : IO Outcome := do
  let tree ← snapshot (Program.sources arguments)
  let environment ← environment (Program.variableNames arguments tree)
  let input ←
    if Program.readsInput arguments then pure (← (← IO.getStdin).readBinToEnd).toList
    else pure []
  match Program.prepare words { environment, input, today := ← today } tree with
  | .error outcome => return outcome
  | .ok job => return Program.report (← job.dialogue.runM (serve job))

end TableBooking.Main

open TableBooking in
def main (words : List String) : IO UInt32 := do
  let outcome ←
    match Arguments.ofWords words with
    | .error fault => pure (Program.misused fault)
    | .ok arguments =>
      try Main.invoke words arguments
      catch e => pure (Program.failed "the program was interrupted" (toString e))
  IO.print outcome.output
  IO.eprint outcome.errors
  return outcome.exitCode.toUInt32
