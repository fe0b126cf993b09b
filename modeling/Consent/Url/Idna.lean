import Consent.Text.Normal
import Consent.Text.Printable
import Consent.Url.Idna.Direction
import Consent.Url.Idna.Joining
import Consent.Url.Idna.Mapping
import Consent.Url.Punycode

set_option autoImplicit false

/-!
# Domain names in ASCII

A domain name may use the characters of all scripts, and has one form in ASCII: its characters are
replaced by those they stand for and composed, and every label that is not ASCII then is written
in Punycode behind `xn--`. A label that is already written so must be what writing gives.

## Main definitions

* `Consent.Url.Idna.isValid` — whether a label may have its characters.
* `Consent.Url.Idna.meaning?` — the characters that a label stands for.
* `Consent.Url.Idna.ascii?` — a label in ASCII.
* `Consent.Url.Idna.toAscii?` — the ASCII form of a domain name.
-/

namespace Consent.Url.Idna

/-- The ASCII characters that no domain name holds. -/
def isForbidden (c : Char) : Bool :=
  c.toNat ≤ 0x20 || c.toNat = 0x7f ||
    ['%', '#', '/', ':', '<', '>', '?', '@', '[', '\\', ']', '^', '|'].contains c

/-- Whether a character stands for itself, and may. -/
def isStable (c : Char) : Bool :=
  mapped c = [c] && !(0x80 ≤ c.toNat && Text.isUnprintable c) && !excludedRanges.contains c

/-- Whether characters may follow others, the nearest of which comes first. -/
def areStable (before : List Char) : List Char → Bool
  | [] => true
  | c :: rest =>
    (if isJoiner c then mayStand c before rest else isStable c) && areStable (c :: before) rest

/-- Whether a label may have its characters. It does not start with a mark. -/
def isValid (label : List Char) : Bool :=
  areStable [] label &&
    match label with
    | [] => true
    | c :: _ => !Text.markRanges.contains c

/-- Whether a character is ASCII. -/
def isAscii (c : Char) : Bool := c.toNat < 0x80

/-- What stands in front of a label in Punycode. -/
def mark : List Char := ['x', 'n', '-', '-']

/-- The longest label that is written in Punycode. -/
def longestLabel : Nat := 1000

/-- The characters of a label that is written in Punycode, if they are those of a label that has to
be. -/
def characters? (label : List Char) : Option (List Char) :=
  (Punycode.decode? (label.drop mark.length)).filter fun cs =>
    !cs.all isAscii && isValid cs && Text.normal cs = cs

/-- The characters that a label stands for. -/
def meaning? (label : List Char) : Option (List Char) :=
  if mark.isPrefixOf label then if label.all isAscii then characters? label else none
  else if label.all isAscii || isValid label then some label
  else none

/-- A label in ASCII. -/
def ascii? (label : List Char) : Option (List Char) :=
  if label.all isAscii then some label
  else if label.length ≤ longestLabel then some (mark ++ Punycode.encode label)
  else none

/-- The ASCII form of a domain name. Its labels keep to one direction each if any of them is written
from right to left. -/
def toAscii? (cs : List Char) : Option (List Char) := do
  let labels := Text.splitWhere (· = '.') (Text.normal (cs.flatMap mapped))
  let meanings ← labels.mapM meaning?
  guard (!meanings.any runsLeft || meanings.all keepsDirection)
  let name := Text.joinWith ['.'] (← labels.mapM ascii?)
  guard (!name.any isForbidden)
  return name

end Consent.Url.Idna
