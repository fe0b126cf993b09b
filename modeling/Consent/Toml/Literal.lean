import Consent.Toml.Layout

set_option autoImplicit false

/-!
# Reading quoted texts

A text stands between double quotes, where a backslash gives a character by its name or number, or
between single quotes, where every character stands for itself. Between three quotes of either kind
it may have several lines.

## Main definitions

* `Consent.Toml.escaped` — the character that stands behind a backslash.
* `Consent.Toml.basicText`, `Consent.Toml.literalText` — texts on one line.
* `Consent.Toml.basicLines`, `Consent.Toml.literalLines` — texts that may have several lines.
* `Consent.Toml.anyText` — a text in any of the four forms.
-/

namespace Consent.Toml

open Text

/-- A hexadecimal digit. -/
def isHexDigit (c : Char) : Bool :=
  c.isDigit || ('a' ≤ c && c ≤ 'f') || ('A' ≤ c && c ≤ 'F')

/-- The number that a hexadecimal digit denotes. -/
def hexValue (c : Char) : Nat :=
  if c.isDigit then c.toNat - '0'.toNat
  else if 'a' ≤ c then c.toNat - 'a'.toNat + 10
  else c.toNat - 'A'.toNat + 10

/-- The number that some digits denote in a base. -/
def valueIn (base : Nat) (ds : List Char) : Nat := ds.foldl (fun n c => base * n + hexValue c) 0

/-- The character with the number given by a fixed number of hexadecimal digits. -/
def numbered (width : Nat) : Scanner Char := fun cs => do
  let (ds, rest) ← Scanner.exactly width isHexDigit cs
  let n := valueIn 16 ds
  if n.isValidChar then some (Char.ofNat n, rest) else none

/-- The character that stands behind a backslash. -/
def escaped : Scanner Char
  | [] => none
  | c :: rest =>
    if c = 'b' then some ('\x08', rest)
    else if c = 't' then some ('\t', rest)
    else if c = 'n' then some ('\n', rest)
    else if c = 'f' then some ('\x0c', rest)
    else if c = 'r' then some ('\r', rest)
    else if c = '"' then some ('"', rest)
    else if c = '\\' then some ('\\', rest)
    else if c = 'u' then numbered 4 rest
    else if c = 'U' then numbered 8 rest
    else none

/-- A character that stands for itself in every form: a tab, or one that is no control. -/
def isPlain (c : Char) : Bool :=
  c = '\t' || (0x20 ≤ c.toNat && c.toNat ≤ 0x7e) || isWide c

/-- A character between double quotes. -/
def basicChar : Scanner Char
  | [] => none
  | c :: rest =>
    if c = '\\' then escaped rest
    else if isPlain c && c ≠ '"' then some (c, rest)
    else none

/-- A text between double quotes on one line. -/
def basicText : Scanner (List Char) := fun cs => do
  let (_, cs) ← Scanner.char '"' cs
  let (text, cs) ← Scanner.many basicChar cs
  let (_, cs) ← Scanner.char '"' cs
  return (text, cs)

/-- A text between single quotes on one line. -/
def literalText : Scanner (List Char) := fun cs => do
  let (_, cs) ← Scanner.char '\'' cs
  let (text, cs) ← Scanner.many (Scanner.satisfying fun c => isPlain c && c ≠ '\'') cs
  let (_, cs) ← Scanner.char '\'' cs
  return (text, cs)

/-- What a line that ends with a backslash leaves out: its end, and the blank front of what
follows. -/
def continuation : Scanner Unit := fun cs => do
  let (_, cs) ← blanks cs
  let (_, cs) ← newline cs
  let (_, cs) ← Scanner.many (Scanner.orElse
    (Scanner.satisfying isBlank · |>.map fun (_, rest) => ((), rest)) newline) cs
  return ((), cs)

/-- Three quotes of a kind. -/
def tripleQuote (quote : Char) : Scanner Unit := Scanner.word [quote, quote, quote]

/-- What stands for itself between three quotes: a line end, a plain character, and one quote as
long as it does not begin three. -/
def plainPiece (quote : Char) : Scanner (List Char) := fun cs =>
  match newline cs with
  | some (_, rest) => some (['\n'], rest)
  | none =>
    match cs with
    | [] => none
    | c :: rest =>
      if isPlain c && (c ≠ quote || (tripleQuote quote cs).isNone) then some ([c], rest) else none

/-- A part of a text between three double quotes. -/
def basicPiece : Scanner (List Char)
  | [] => none
  | c :: rest =>
    if c = '\\' then
      Scanner.orElse (escaped · |>.map fun (c, rest) => ([c], rest))
        (continuation · |>.map fun (_, rest) => ([], rest)) rest
    else plainPiece '"' (c :: rest)

/-- The closing three quotes, before which up to two more belong to the text. -/
def closingQuotes (quote : Char) : Scanner (List Char) := fun cs =>
  let front := (cs.take 5).takeWhile (· = quote)
  if front.length < 3 then none else some (front.drop 3, cs.drop front.length)

/-- A text between three quotes. A line end right behind the opening ones does not belong to it. -/
def linesBetween (quote : Char) (piece : Scanner (List Char)) : Scanner (List Char) := fun cs => do
  let (_, cs) ← tripleQuote quote cs
  let (_, cs) ← Scanner.orElse newline (fun cs => some ((), cs)) cs
  let (pieces, cs) ← Scanner.many piece cs
  let (quotes, cs) ← closingQuotes quote cs
  return (pieces.flatten ++ quotes, cs)

/-- A text between three double quotes. -/
def basicLines : Scanner (List Char) := linesBetween '"' basicPiece

/-- A text between three single quotes. -/
def literalLines : Scanner (List Char) := linesBetween '\'' (plainPiece '\'')

/-- A text in any of the four forms. -/
def anyText : Scanner (List Char) :=
  Scanner.orElse basicLines (Scanner.orElse literalLines (Scanner.orElse basicText literalText))

end Consent.Toml
