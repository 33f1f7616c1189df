import TableBooking.Directory
import TableBooking.Url
import TableBooking.Wire.Decode

/-!
The table service: a table directory that is asked over HTTP. A request is the address of a
resource; what a response says depends on its status and, if that is a good one, on its body.
-/
namespace TableBooking

structure Response where
  status : Nat
  body : Json.Bytes
  deriving DecidableEq

def Response.isSuccess (response : Response) : Bool :=
  200 ≤ response.status && response.status ≤ 299

/-- The body that a status allows: two of them come without one. -/
def Response.ofStatus (status : Nat) (body : Json.Bytes) : Response :=
  ⟨status, if status = 204 ∨ status = 304 then [] else body⟩

/-- The address that all requests begin with, without slashes at its end. -/
structure TableService where
  root : String
  deriving DecidableEq

namespace TableService

def ofRoot (root : String) : TableService :=
  ⟨String.ofList (root.toList.reverse.dropWhile (· == '/')).reverse⟩

def tablesAddress (service : TableService) (venue : VenueId) : String :=
  s!"{service.root}/venues/{venue}/tables"

def listAddress (service : TableService) (venue : VenueId) (leastCapacity : UInt32) : String :=
  s!"{service.tablesAddress venue}/capacity/{leastCapacity.toNat}"

def tableAddress (service : TableService) (venue : VenueId) (table : TableId) : String :=
  s!"{service.tablesAddress venue}/{table}"

/-- The URL of a request. User name and password are not sent as part of it. -/
def request (address : String) : Except RequestError Url :=
  match Url.ofText address with
  | .error _ => .error .unbuilt
  | .ok url =>
    if url.scheme = "http" ∨ url.scheme = "https" then
      .ok { url with authority := url.authority.map fun a => { a with credentials := {} } }
    else .error .unbuilt

/-- What a request comes back with: a response, unless there is none. -/
abbrev Fetch := Url → Option Response

def ask (fetch : Fetch) (address : String) : Except DirectoryError Response :=
  match request address with
  | .error cause => .error (.request cause)
  | .ok url =>
    match fetch url with
    | some response => .ok response
    | none => .error (.request (.unanswered (toString url)))

def decoded {α : Type} (reader : Json.Reader α) (response : Response) : Except DirectoryError α :=
  (Json.readWhole reader response.body).mapError fun _ => .request .undecodable

def listed (response : Response) : Except DirectoryError (List Table) :=
  if response.isSuccess then decoded (Json.listOf Wire.table) response
  else .error (.status response.status)

/-- The table that a response describes, if the service knows it. -/
def described (response : Response) : Except DirectoryError (Option Table) :=
  if response.status = 404 then .ok none
  else if response.isSuccess then (decoded Wire.table response).map some
  else .error (.status response.status)

def directory (service : TableService) (fetch : Fetch) : Directory where
  list venue leastCapacity := do listed (← ask fetch (service.listAddress venue leastCapacity))
  get venue table := do described (← ask fetch (service.tableAddress venue table))

end TableService

end TableBooking
