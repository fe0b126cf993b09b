import Consent.Decimal.Numeral
import Consent.Text.Quoted
import Consent.Text.Split

set_option autoImplicit false

/-!
# IPv6 addresses

Eight groups of sixteen bits. Two colons in a row stand for as many zero groups as are missing, and
at least for one; the last two groups may be written as an IPv4 address.

## Main definitions

* `Consent.Url.Ipv6.parse?` — the groups of an address.
* `Consent.Url.Ipv6.zeroRun` — the zero groups that are left out in writing.
* `Consent.Url.Ipv6.text` — an address in writing.
-/

namespace Consent.Url.Ipv6

/-- The text before the first two colons in a row, and the text behind them. -/
def cutDoubleColon : List Char → List Char × Option (List Char)
  | [] => ([], none)
  | [c] => ([c], none)
  | c :: d :: rest =>
    if c = ':' && d = ':' then ([], some rest)
    else
      let (front, back) := cutDoubleColon (d :: rest)
      (c :: front, back)

/-- The number that a hexadecimal digit denotes. -/
def hexDigit? (c : Char) : Option Nat :=
  if c.isDigit then some (c.toNat - '0'.toNat)
  else if 'a' ≤ c && c ≤ 'f' then some (c.toNat - 'a'.toNat + 10)
  else if 'A' ≤ c && c ≤ 'F' then some (c.toNat - 'A'.toNat + 10)
  else none

/-- A group of one to four hexadecimal digits. -/
def group? (cs : List Char) : Option UInt16 :=
  if cs.isEmpty || 4 < cs.length then none
  else (cs.mapM hexDigit?).map fun ds => (ds.foldl (fun n d => 16 * n + d) 0).toUInt16

/-- An octet of an IPv4 address, without leading zeros. -/
def octet? (cs : List Char) : Option Nat :=
  if cs.isEmpty || !cs.all Char.isDigit || (cs.head? = some '0' && 1 < cs.length) then none
  else if Decimal.value cs ≤ 255 then some (Decimal.value cs)
  else none

/-- The two groups of an IPv4 address. -/
def dotted? (cs : List Char) : Option (List UInt16) := do
  match ← (Text.splitWhere (· = '.') cs).mapM octet? with
  | [a, b, c, d] => some [(256 * a + b).toUInt16, (256 * c + d).toUInt16]
  | _ => none

/-- Groups with colons between them. -/
def groups? (cs : List Char) : Option (List UInt16) :=
  if cs.isEmpty then some [] else (Text.splitWhere (· = ':') cs).mapM group?

/-- Groups with colons between them, of which the last two may be an IPv4 address. -/
def lastGroups? (cs : List Char) : Option (List UInt16) :=
  if cs.isEmpty then some []
  else
    let parts := Text.splitWhere (· = ':') cs
    do
      let front ← parts.dropLast.mapM group?
      let last ← parts.getLast?
      let back ← ((group? last).map fun g => [g]).or (dotted? last)
      return front ++ back

/-- The groups of an address. -/
def parse? (cs : List Char) : Option (List UInt16) :=
  match cutDoubleColon cs with
  | (front, none) => do
    let groups ← lastGroups? front
    if groups.length = 8 then some groups else none
  | (front, some back) => do
    let front ← groups? front
    let back ← lastGroups? back
    if front.length + back.length ≤ 7 then
      some (front ++ List.replicate (8 - front.length - back.length) 0 ++ back)
    else none

/-- Where the first of the longest runs of zero groups starts, and how long it is. -/
def zeroRun (groups : List UInt16) : Nat × Nat :=
  (List.range groups.length).foldl (fun (start, length) i =>
    let here := ((groups.drop i).takeWhile (· = 0)).length
    if length < here then (i, here) else (start, length)) (0, 0)

/-- Groups with colons between them, in writing. -/
def groupsText (groups : List UInt16) : List Char :=
  Text.joinWith [':'] (groups.map fun g => Text.hexDigits g.toNat)

/-- An address in writing. A single zero group is not left out. -/
def text (groups : List UInt16) : List Char :=
  let (start, length) := zeroRun groups
  if length < 2 then groupsText groups
  else groupsText (groups.take start) ++ [':', ':'] ++ groupsText (groups.drop (start + length))

end Consent.Url.Ipv6
