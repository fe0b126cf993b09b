import Consent.Decimal.Numeral
import Consent.Text.Split

set_option autoImplicit false

/-!
# IPv4 addresses

A host whose last part is a number is an IPv4 address and nothing else. It has up to four numbers,
each in decimal, octal or hexadecimal; the last one fills all the octets that are left.

## Main definitions

* `Consent.Url.Ipv4.number?` — a number in one of the three notations.
* `Consent.Url.Ipv4.endsInNumber` — whether a host must be an IPv4 address.
* `Consent.Url.Ipv4.parse?`, `Consent.Url.Ipv4.text`.
-/

namespace Consent.Url.Ipv4

/-- The digits of a number in a base, if that is what they are; no digits stand for zero. -/
def digits? (base : Nat) (cs : List Char) : Option Nat :=
  (cs.mapM digit?).map fun ds => ds.foldl (fun n d => base * n + d) 0
where
  /-- The number that a digit of the base denotes. -/
  digit? (c : Char) : Option Nat :=
    let d :=
      if c.isDigit then c.toNat - '0'.toNat
      else if 'a' ≤ c && c ≤ 'f' then c.toNat - 'a'.toNat + 10
      else if 'A' ≤ c && c ≤ 'F' then c.toNat - 'A'.toNat + 10
      else base
    if d < base then some d else none

/-- A number: hexadecimal behind `0x`, octal behind a zero, else decimal. -/
def number? : List Char → Option Nat
  | [] => none
  | '0' :: c :: rest => if c = 'x' || c = 'X' then digits? 16 rest else digits? 8 (c :: rest)
  | cs => digits? 10 cs

/-- The parts of a host, where a point at the end does not count. -/
def parts (cs : List Char) : List (List Char) :=
  let all := Text.splitWhere (· = '.') cs
  if all.getLast? = some [] && 1 < all.length then all.dropLast else all

/-- Whether the last part of a host is a number, or consists of digits. -/
def endsInNumber (cs : List Char) : Bool :=
  match (parts cs).getLast? with
  | none => false
  | some last => (!last.isEmpty && last.all Char.isDigit) || (number? last).isSome

/-- The address with the given numbers, of which all but the last one are octets. -/
def ofNumbers? (numbers : List Nat) : Option UInt32 :=
  match numbers.getLast? with
  | none => none
  | some last =>
    let front := numbers.dropLast
    if front.all (· ≤ 255) && last < Nat.pow 256 (4 - front.length) && numbers.length ≤ 4 then
      some (front.foldr (fun n (place, sum) => (place + 1, sum + n * Nat.pow 256 place))
        (4 - front.length, last)).2.toUInt32
    else none

/-- The address that a host denotes. -/
def parse? (cs : List Char) : Option UInt32 := ((parts cs).mapM number?).bind ofNumbers?

/-- An address as four numbers. -/
def text (address : UInt32) : List Char :=
  let n := address.toNat
  let octets := [n / Nat.pow 256 3, n / Nat.pow 256 2 % 256, n / 256 % 256, n % 256]
  Text.joinWith ['.'] (octets.map Decimal.digits)

end Consent.Url.Ipv4
