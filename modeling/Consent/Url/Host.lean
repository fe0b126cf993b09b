import Consent.Url.Fault
import Consent.Url.Idna
import Consent.Url.Ipv4
import Consent.Url.Ipv6
import Consent.Url.Percent

set_option autoImplicit false

/-!
# Hosts

## Main definitions

* `Consent.Url.Host` — a name, or an address with four or sixteen octets.
* `Consent.Url.Host.parse` — the host of an address with a special scheme.
* `Consent.Url.Host.parseOpaque` — the host of any other address.
* `Consent.Url.Host.text` — a host in writing.
-/

namespace Consent.Url

/-- Where an address leads to. -/
inductive Host where
  | name (s : String)
  | ipv4 (address : UInt32)
  | ipv6 (groups : List UInt16)
deriving DecidableEq, Repr

namespace Host

/-- The host that is none. -/
def empty : Host := .name ""

/-- An IPv6 address between brackets, behind the opening one. -/
def bracketed (cs : List Char) : Except Fault Host :=
  if cs.getLast? = some ']' then
    match Ipv6.parse? cs.dropLast with
    | some groups => .ok (.ipv6 groups)
    | none => .error .invalidIpv6
  else .error .invalidIpv6

/-- A host that is a domain name or an IPv4 address. -/
def domain (cs : List Char) : Except Fault Host :=
  match (Utf8.decode? (percentDecode (Utf8.encode cs))).bind Idna.toAscii? with
  | none => .error .invalidInternational
  | some [] => .error .emptyHost
  | some (c :: rest) =>
    if Ipv4.endsInNumber (c :: rest) then
      match Ipv4.parse? (c :: rest) with
      | some address => .ok (.ipv4 address)
      | none => .error .invalidIpv4
    else .ok (.name (String.ofList (c :: rest)))

/-- The host of an address with a special scheme. -/
def parse : List Char → Except Fault Host
  | '[' :: rest => bracketed rest
  | cs => domain cs

/-- What may not stand in the host of an address with a scheme that is not special. -/
def isForbidden (c : Char) : Bool :=
  ['\x00', '\t', '\n', '\r', ' ', '#', '/', ':', '<', '>', '?', '@', '[', '\\', ']', '^',
    '|'].contains c

/-- The host of an address with a scheme that is not special. It may be empty. -/
def parseOpaque : List Char → Except Fault Host
  | '[' :: rest => bracketed rest
  | cs =>
    if cs.any isForbidden then .error .invalidDomainCharacter
    else .ok (.name (String.ofList (percentEncode Octets.controls cs)))

/-- A host in writing. -/
def text : Host → List Char
  | name s => s.toList
  | ipv4 address => Ipv4.text address
  | ipv6 groups => '[' :: Ipv6.text groups ++ [']']

end Host

end Consent.Url
