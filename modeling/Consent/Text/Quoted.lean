import Consent.Text.Printable

set_option autoImplicit false

/-!
# Quoted text

Messages show a text they complain about between double quotes. Inside, the quote, the
backslash and the common controls are written with a backslash, and every other character that
does not show on its own is written by its number.

## Main definitions

* `Consent.Text.hexDigits` — a number in lower-case hexadecimal.
* `Consent.Text.escapeChar` — how one character is written between the quotes.
* `Consent.Text.quoted` — the quoted form of a text.
-/

namespace Consent.Text

/-- A number in lower-case hexadecimal, without leading zeros. -/
def hexDigits (n : Nat) : List Char := Nat.toDigits 16 n

/-- How one character is written between the quotes. -/
def escapeChar (c : Char) : List Char :=
  if c = '\x00' then ['\\', '0']
  else if c = '\t' then ['\\', 't']
  else if c = '\r' then ['\\', 'r']
  else if c = '\n' then ['\\', 'n']
  else if c = '"' || c = '\\' then ['\\', c]
  else if isGraphemeExtend c || isUnprintable c then
    ['\\', 'u', '\x7b'] ++ hexDigits c.toNat ++ ['\x7d']
  else [c]

/-- The quoted form of a text. -/
def quoted (s : String) : String :=
  String.ofList (['"'] ++ s.toList.flatMap escapeChar ++ ['"'])

end Consent.Text
