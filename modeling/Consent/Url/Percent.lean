import Consent.Ascii
import Consent.Text.Utf8

set_option autoImplicit false

/-!
# Percent encoding

An octet that must not stand in some part of an address is written as a percent sign and two
hexadecimal digits. Each part has its own set of such octets; all sets hold the controls and the
octets beyond ASCII.

## Main definitions

* `Consent.Url.Octets` — a set of octets.
* `Consent.Url.Octets.controls`, … — the set of each part.
* `Consent.Url.percentEncode`, `Consent.Url.percentDecode`.
-/

namespace Consent.Url

/-- A set of octets. -/
abbrev Octets := UInt8 → Bool

/-- A set of octets and some ASCII characters more. -/
def Octets.with (set : Octets) (more : List Char) : Octets :=
  fun b => set b || more.any fun c => Ascii.octet c = b

/-- The controls and everything beyond ASCII. -/
def Octets.controls : Octets := fun b => b < 0x20 || 0x7f ≤ b

/-- What is encoded in a fragment. -/
def Octets.fragment : Octets := controls.with [' ', '"', '<', '>', '`']

/-- What is encoded in a query. -/
def Octets.query : Octets := controls.with [' ', '"', '#', '<', '>']

/-- What is encoded in the query of an address with a special scheme. -/
def Octets.specialQuery : Octets := query.with ['\'']

/-- What is encoded in a path. -/
def Octets.path : Octets := fragment.with ['#', '?', '\x7b', '\x7d']

/-- What is encoded in a user name and a password. -/
def Octets.userInfo : Octets :=
  path.with ['/', ':', ';', '=', '@', '[', '\\', ']', '^', '|']

/-- An octet as a percent sign and two digits. -/
def percent (b : UInt8) : List Char :=
  ['%', (Nat.digitChar (b.toNat / 16)).toUpper, (Nat.digitChar (b.toNat % 16)).toUpper]

/-- A text in which the octets of a set are encoded. -/
def percentEncode (set : Octets) (cs : List Char) : List Char :=
  (Utf8.encode cs).flatMap fun b => if set b then percent b else [Char.ofNat b.toNat]

/-- Octets in which all percent signs with two digits are replaced by the octets they stand for. -/
def percentDecode : Bytes → Bytes
  | [] => []
  | [b] => [b]
  | [b, c] => [b, c]
  | b :: c :: d :: rest =>
    if b = 0x25 then
      match Ascii.hexValue? c, Ascii.hexValue? d with
      | some m, some n => (16 * m + n).toUInt8 :: percentDecode rest
      | _, _ => b :: percentDecode (c :: d :: rest)
    else b :: percentDecode (c :: d :: rest)

end Consent.Url
