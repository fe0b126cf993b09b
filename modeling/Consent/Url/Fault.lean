set_option autoImplicit false

/-!
# What is wrong with an address

## Main definitions

* `Consent.Url.Fault` — the reasons why a text is no address.
* `Consent.Url.Fault.message` — their wording.
-/

namespace Consent.Url

/-- Why a text is no address. -/
inductive Fault where
  /-- It has no scheme, and there is no address it could be relative to. -/
  | relativeWithoutBase
  /-- It has no scheme, and the address it is relative to has no hierarchy. -/
  | relativeToOpaque
  | emptyHost
  | invalidPort
  | invalidIpv4
  | invalidIpv6
  /-- The host is no domain name, whatever its script. -/
  | invalidInternational
  /-- The host of an address with a scheme that is not special has a forbidden character. -/
  | invalidDomainCharacter
deriving DecidableEq, Repr

/-- The wording of a fault. -/
def Fault.message : Fault → String
  | relativeWithoutBase => "relative URL without a base"
  | relativeToOpaque => "relative URL with a cannot-be-a-base base"
  | emptyHost => "empty host"
  | invalidPort => "invalid port number"
  | invalidIpv4 => "invalid IPv4 address"
  | invalidIpv6 => "invalid IPv6 address"
  | invalidInternational => "invalid international domain name"
  | invalidDomainCharacter => "invalid domain character"

end Consent.Url
