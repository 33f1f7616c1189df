import TableBooking.Url.Address
import TableBooking.Url.Domain
import TableBooking.Url.Percent

/-!
The hosts of URLs and what can be wrong with a URL. Where the scheme is a special one a host is a
domain or a numeric address; elsewhere it is a text that is taken as it stands.
-/
namespace TableBooking

inductive UrlError where
  | emptyHost
  | invalidDomain
  | invalidPort
  | invalidIpv4
  | invalidIpv6
  | invalidHostCharacter
  | noScheme
  deriving DecidableEq

def UrlError.message : UrlError → String
  | .emptyHost => "empty host"
  | .invalidDomain => "invalid international domain name"
  | .invalidPort => "invalid port number"
  | .invalidIpv4 => "invalid IPv4 address"
  | .invalidIpv6 => "invalid IPv6 address"
  | .invalidHostCharacter => "invalid domain character"
  | .noScheme => "relative URL without a base"

namespace Url

inductive Host where
  | domain (name : List Char)
  | ipv4 (address : Nat)
  | ipv6 (pieces : List Nat)
  deriving DecidableEq

namespace Host

def text : Host → List Char
  | domain name => name
  | ipv4 address => ipv4Text address
  | ipv6 pieces => '[' :: ipv6Text pieces ++ [']']

def ofBracketed (s : List Char) : Except UrlError Host :=
  if s.getLast? = some ']' then
    match ipv6? s.dropLast with
    | some pieces => .ok (ipv6 pieces)
    | none => .error .invalidIpv6
  else .error .invalidIpv6

def ofSpecial (s : List Char) : Except UrlError Host :=
  match s with
  | '[' :: rest => ofBracketed rest
  | _ =>
    match Json.ofUtf8? (percentDecode (Json.utf8 (String.ofList s))) with
    | none => .error .invalidDomain
    | some decoded =>
      match domain? decoded.toList with
      | none => .error .invalidDomain
      | some [] => .error .emptyHost
      | some name =>
        if endsInNumber name then
          match ipv4? name with
          | some address => .ok (ipv4 address)
          | none => .error .invalidIpv4
        else .ok (domain name)

/-- The characters that no host may hold, whatever the scheme. -/
def isForbidden (c : Char) : Bool :=
  c.toNat = 0 || ['\t', '\n', '\r', ' ', '#', '/', ':', '<', '>', '?', '@', '[', '\\', ']', '^',
    '|'].contains c

def ofOpaque (s : List Char) : Except UrlError Host :=
  match s with
  | '[' :: rest => ofBracketed rest
  | _ =>
    if s.any isForbidden then .error .invalidHostCharacter
    else .ok (domain (percentEncode isControl s))

end Host

end Url

end TableBooking
