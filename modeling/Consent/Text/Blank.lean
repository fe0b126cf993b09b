import Consent.Text.CharRanges

set_option autoImplicit false

/-!
# White space and trimming

The twenty-five characters with the `White_Space` property, and the removal of leading and
trailing runs of them. An expiry and the value of an environment variable are read after
trimming.

## Main definitions

* `Consent.Text.isBlank` — the `White_Space` property.
* `Consent.Text.trimStart`, `Consent.Text.trim` — the text without its outer blanks.
-/

namespace Consent.Text

/-- The code points with the `White_Space` property. -/
def blankRanges : Ranges :=
  [(0x9, 0xd), (0x20, 0x20), (0x85, 0x85), (0xa0, 0xa0), (0x1680, 0x1680), (0x2000, 0x200a),
   (0x2028, 0x2029), (0x202f, 0x202f), (0x205f, 0x205f), (0x3000, 0x3000)]

/-- Whether a character is white space. -/
def isBlank (c : Char) : Bool := blankRanges.contains c

/-- The text from its first character that is not blank. -/
def trimStart (cs : List Char) : List Char := cs.dropWhile isBlank

/-- The text up to its last character that is not blank. -/
def trimEnd (cs : List Char) : List Char := (cs.reverse.dropWhile isBlank).reverse

/-- The text without the blanks at both of its ends. -/
def trim (cs : List Char) : List Char := trimEnd (trimStart cs)

end Consent.Text
