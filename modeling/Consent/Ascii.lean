set_option autoImplicit false

/-!
# Octets of ASCII characters

Names for the octets that structure a JSON body, and a few classes of octets.

## Main definitions

* `Consent.Ascii.quote`, `Consent.Ascii.backslash`, … — single octets, usable as patterns.
* `Consent.Ascii.octet` — the octet of an ASCII character.
* `Consent.Ascii.isDigit`, `Consent.Ascii.hexValue?` — classes of octets.
-/

namespace Consent.Ascii

/-- The octet of an ASCII character. -/
def octet (c : Char) : UInt8 := c.toNat.toUInt8

/-- The octets of an ASCII word. -/
def octets (s : String) : List UInt8 := s.toList.map octet

/-- The double quote. -/
@[match_pattern] abbrev quote : UInt8 := 0x22

/-- The backslash. -/
@[match_pattern] abbrev backslash : UInt8 := 0x5c

/-- The slash. -/
@[match_pattern] abbrev slash : UInt8 := 0x2f

/-- The opening bracket. -/
@[match_pattern] abbrev openBracket : UInt8 := 0x5b

/-- The closing bracket. -/
@[match_pattern] abbrev closeBracket : UInt8 := 0x5d

/-- The opening brace. -/
@[match_pattern] abbrev openBrace : UInt8 := 0x7b

/-- The closing brace. -/
@[match_pattern] abbrev closeBrace : UInt8 := 0x7d

/-- The comma. -/
@[match_pattern] abbrev comma : UInt8 := 0x2c

/-- The colon. -/
@[match_pattern] abbrev colon : UInt8 := 0x3a

/-- The point. -/
@[match_pattern] abbrev point : UInt8 := 0x2e

/-- The plus sign. -/
@[match_pattern] abbrev plus : UInt8 := 0x2b

/-- The minus sign. -/
@[match_pattern] abbrev minus : UInt8 := 0x2d

/-- The digit zero. -/
@[match_pattern] abbrev zero : UInt8 := 0x30

/-- The digit nine. -/
@[match_pattern] abbrev nine : UInt8 := 0x39

/-- The letter `b`. -/
@[match_pattern] abbrev lowerB : UInt8 := 0x62

/-- The letter `e`. -/
@[match_pattern] abbrev lowerE : UInt8 := 0x65

/-- The letter `E`. -/
@[match_pattern] abbrev upperE : UInt8 := 0x45

/-- The letter `f`. -/
@[match_pattern] abbrev lowerF : UInt8 := 0x66

/-- The letter `n`. -/
@[match_pattern] abbrev lowerN : UInt8 := 0x6e

/-- The letter `r`. -/
@[match_pattern] abbrev lowerR : UInt8 := 0x72

/-- The letter `t`. -/
@[match_pattern] abbrev lowerT : UInt8 := 0x74

/-- The letter `u`. -/
@[match_pattern] abbrev lowerU : UInt8 := 0x75

/-- The line feed. -/
@[match_pattern] abbrev lineFeed : UInt8 := 0x0a

/-- Whether an octet is a decimal digit. -/
def isDigit (b : UInt8) : Bool := zero ≤ b && b ≤ nine

/-- The number that a decimal digit denotes. -/
def digitValue (b : UInt8) : Nat := b.toNat - zero.toNat

/-- The number that a hexadecimal digit denotes, if the octet is one. -/
def hexValue? (b : UInt8) : Option Nat :=
  if 0x30 ≤ b && b ≤ 0x39 then some (b.toNat - 0x30)
  else if 0x41 ≤ b && b ≤ 0x46 then some (b.toNat - 0x41 + 10)
  else if 0x61 ≤ b && b ≤ 0x66 then some (b.toNat - 0x61 + 10)
  else none

end Consent.Ascii
