import TableBooking.Decimal.Padded
import TableBooking.TableService

/-!
Messages of HTTP, as far as the table service needs them: the request for a resource, and the
response that bytes on a connection stand for. A connection serves one request, so the end of the
connection may end the response. A body that is cut short counts as empty.
-/
namespace TableBooking.Http

open TableBooking.Json (Bytes utf8)

def hostText (authority : Url.Authority) : String :=
  String.ofList (({ authority with credentials := {} } : Url.Authority).text.drop 2)

def request (authority : Url.Authority) (url : Url) : Bytes :=
  utf8 (String.intercalate "\r\n" [
    s!"GET {String.ofList url.target} HTTP/1.1",
    s!"Host: {hostText authority}",
    "Accept: */*",
    "Connection: close",
    "",
    ""])

inductive Extent where
  | chunked
  | length (bytes : Nat)
  /-- The body goes on to the end of the connection. -/
  | untilEnd
  deriving DecidableEq

structure Head where
  status : Nat
  extent : Extent
  deriving DecidableEq

def splitHead? : Bytes → Option (Bytes × Bytes)
  | [] => none
  | 0x0D :: 0x0A :: 0x0D :: 0x0A :: rest => some ([], rest)
  | b :: rest => (splitHead? rest).map fun (head, body) => (b :: head, body)

def splitLine? : Bytes → Option (Bytes × Bytes)
  | [] => none
  | 0x0D :: 0x0A :: rest => some ([], rest)
  | b :: rest => (splitLine? rest).map fun (line, rest) => (b :: line, rest)

def characters (bytes : Bytes) : List Char :=
  bytes.map fun b => Char.ofNat b.toNat

def status? (line : List Char) : Option Nat :=
  if "HTTP/1.".toList.isPrefixOf line then
    match Decimal.takeDigits (line.drop 9) with
    | (ds, _) => if ds.length = 3 then some (Decimal.ofDigits ds) else none
  else none

/-- The value of a header field whose name is given in small letters, without the blanks around it,
in small letters. -/
def field? (name : String) (lines : List (List Char)) : Option (List Char) := do
  let line ← lines.find? fun line => (line.takeWhile (· != ':')).map Char.toLower = name.toList
  let isBlank (c : Char) : Bool := c = ' ' || c = '\t' || c = '\r'
  let value := (line.dropWhile (· != ':')).tail.dropWhile isBlank
  pure ((value.reverse.dropWhile isBlank).reverse.map Char.toLower)

def extent (lines : List (List Char)) : Extent :=
  if field? "transfer-encoding" lines = some "chunked".toList then .chunked
  else
    match (field? "content-length" lines).map Decimal.takeDigits with
    | some (d :: ds, []) => .length (Decimal.ofDigits (d :: ds))
    | _ => .untilEnd

def head? (bytes : Bytes) : Option Head :=
  match Text.pieces '\n' (characters bytes) with
  | [] => none
  | first :: lines => (status? first).map fun status => ⟨status, extent lines⟩

/-- The body that chunks make up, if the last of them is there. `fuel` bounds their number. -/
def joinChunks? : Nat → Bytes → Option Bytes
  | 0, _ => none
  | fuel + 1, bytes => do
    let (line, rest) ← splitLine? bytes
    let digits := (characters line).takeWhile fun c => (Text.hexDigit? c).isSome
    let size := Text.hexValue digits
    if digits.isEmpty then none
    else if size = 0 then some []
    else if rest.length < size + 2 then none
    else (joinChunks? fuel (rest.drop (size + 2))).map (rest.take size ++ ·)

def Extent.body? (extent : Extent) (bytes : Bytes) : Option Bytes :=
  match extent with
  | chunked => joinChunks? (bytes.length + 1) bytes
  | length n => if n ≤ bytes.length then some (bytes.take n) else none
  | .untilEnd => none

def Extent.lastBody (extent : Extent) (bytes : Bytes) : Bytes :=
  if extent = .untilEnd then bytes else (extent.body? bytes).getD []

/-- The response that bytes stand for, if it is complete while the connection lasts. -/
def response? (bytes : Bytes) : Option Response := do
  let (head, rest) ← splitHead? bytes
  let head ← head? head
  let body ← head.extent.body? rest
  pure (.ofStatus head.status body)

def lastResponse? (bytes : Bytes) : Option Response := do
  let (head, rest) ← splitHead? bytes
  let head ← head? head
  pure (.ofStatus head.status (head.extent.lastBody rest))

/-- A response that is complete before the connection ends is not changed by its end. -/
theorem lastResponse?_eq_of_response? {bytes : Bytes} {response : Response}
    (h : response? bytes = some response) : lastResponse? bytes = some response := by
  simp only [response?, Option.bind_eq_bind, Option.bind_eq_some_iff] at h
  obtain ⟨⟨text, rest⟩, split, head, read, body, whole, last⟩ := h
  have ends : head.extent ≠ .untilEnd := by
    intro untilEnd
    rw [untilEnd] at whole
    cases whole
  simp [lastResponse?, split, read, Extent.lastBody, ends, whole, ← last]

end TableBooking.Http
