import Consent.Text.Scan

set_option autoImplicit false

/-!
# Blanks, line ends and comments

What stands between the words of a configuration file. A line ends with a line feed, which a
carriage return may precede; a carriage return on its own ends nothing.

## Main definitions

* `Consent.Toml.blanks` — the blanks of a line.
* `Consent.Toml.newline`, `Consent.Toml.comment` — the end of a line and what may precede it.
* `Consent.Toml.lineEnd` — all that may stand behind the last word of a line.
* `Consent.Toml.space` — blanks, line ends and comments in any order.
-/

namespace Consent.Toml

open Text

/-- A blank inside a line. -/
def isBlank (c : Char) : Bool := c = ' ' || c = '\t'

/-- A character beyond ASCII. -/
def isWide (c : Char) : Bool := 0x80 ≤ c.toNat

/-- What a comment may hold. -/
def isCommentChar (c : Char) : Bool := c = '\t' || (0x20 ≤ c.toNat && c.toNat ≤ 0x7e) || isWide c

/-- The blanks of a line, if there are any. -/
def blanks : Scanner Unit := fun cs => some ((), cs.dropWhile isBlank)

/-- The end of a line. -/
def newline : Scanner Unit
  | '\n' :: rest => some ((), rest)
  | '\r' :: '\n' :: rest => some ((), rest)
  | _ => none

/-- A comment, up to the end of its line. -/
def comment : Scanner Unit
  | '#' :: rest => some ((), rest.dropWhile isCommentChar)
  | _ => none

/-- A comment, if there is one. -/
def comment? : Scanner Unit := Scanner.orElse comment fun cs => some ((), cs)

/-- The end of the line or of the file, after blanks and a comment. -/
def lineEnd : Scanner Unit := fun cs => do
  let (_, cs) ← blanks cs
  match ← comment? cs with
  | (_, []) => some ((), [])
  | (_, cs) => newline cs

/-- One blank, line end or comment. -/
def spaceItem : Scanner Unit :=
  Scanner.orElse ((Scanner.satisfying isBlank · |>.map fun (_, rest) => ((), rest)))
    (Scanner.orElse newline comment)

/-- Blanks, line ends and comments, if there are any. -/
def space : Scanner Unit := fun cs => (Scanner.many spaceItem cs).map fun (_, rest) => ((), rest)

end Consent.Toml
