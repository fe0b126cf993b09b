import Consent.Text.Quoted

set_option autoImplicit false

/-!
# Writing quoted texts

A text is written in the first of the forms that can hold it without a backslash: between double
quotes, between single quotes, and between three of either. If none can, it is written between
double quotes with escapes, three of them if it has several lines.

## Main definitions

* `Consent.Toml.Form` — the four forms.
* `Consent.Toml.Form.holds` — whether a form can hold a text as it is.
* `Consent.Toml.Form.ofText` — the form in which a text is written.
* `Consent.Toml.writeText` — the written text.
-/

namespace Consent.Toml

/-- The forms in which a text can be written. -/
inductive Form where
  /-- Between double quotes. -/
  | basic
  /-- Between single quotes. -/
  | literal
  /-- Between three double quotes. -/
  | basicLines
  /-- Between three single quotes. -/
  | literalLines
deriving DecidableEq, Repr

/-- A control character other than the tab and the line feed. -/
def isHiddenControl (c : Char) : Bool :=
  (c.toNat < 0x20 && c ≠ '\t' && c ≠ '\n') || c.toNat = 0x7f

/-- Whether a character stands three times in a row. -/
def hasTriple (q : Char) : List Char → Bool
  | a :: b :: c :: rest => (a = q && b = q && c = q) || hasTriple q (b :: c :: rest)
  | _ => false

/-- Whether a form can hold a text as it is. A tab between double quotes is still written by its
name. -/
def Form.holds (form : Form) (cs : List Char) : Bool :=
  !cs.any isHiddenControl &&
    match form with
    | basic => !cs.contains '\\' && !cs.contains '"' && !cs.contains '\n'
    | literal => !cs.contains '\'' && !cs.contains '\n'
    | basicLines => !cs.contains '\\' && !hasTriple '"' cs
    | literalLines => !hasTriple '\'' cs

/-- The form in which a text is written. -/
def Form.ofText (cs : List Char) : Form :=
  if basic.holds cs then basic
  else if literal.holds cs then literal
  else if basicLines.holds cs then basicLines
  else if literalLines.holds cs then literalLines
  else if cs.contains '\n' then basicLines
  else basic

/-- A number with four hexadecimal digits in upper case. -/
def fourHexDigits (n : Nat) : List Char :=
  let ds := (Text.hexDigits n).map Char.toUpper
  List.replicate (4 - ds.length) '0' ++ ds

/-- How a character other than the quote and the line feed is written between double quotes. -/
def escapeChar (c : Char) : List Char :=
  if c = '\x08' then ['\\', 'b']
  else if c = '\t' then ['\\', 't']
  else if c = '\x0c' then ['\\', 'f']
  else if c = '\r' then ['\\', 'r']
  else if c = '\\' then ['\\', '\\']
  else if isHiddenControl c then '\\' :: 'u' :: fourHexDigits c.toNat
  else [c]

/-- How a character is written between double quotes on one line. -/
def escapeBasic (c : Char) : List Char :=
  if c = '"' then ['\\', '"']
  else if c = '\n' then ['\\', 'n']
  else escapeChar c

/-- The text between three double quotes. A line feed stands for itself, and so does a quote, but
not a third one in a row; `quotes` counts those that precede. -/
def escapeLines (quotes : Nat) : List Char → List Char
  | [] => []
  | c :: rest =>
    if c = '"' then
      if quotes = 2 then '\\' :: '"' :: escapeLines 0 rest else '"' :: escapeLines (quotes + 1) rest
    else if c = '\n' then '\n' :: escapeLines 0 rest
    else escapeChar c ++ escapeLines 0 rest

/-- The quote of a form. -/
def Form.quote : Form → Char
  | basic | basicLines => '"'
  | literal | literalLines => '\''

/-- What opens and closes a text in a form. -/
def Form.delimiter (form : Form) : List Char :=
  match form with
  | basic | literal => [form.quote]
  | basicLines | literalLines => List.replicate 3 form.quote

/-- What stands between the delimiters. A text with several lines starts on a line of its own. -/
def Form.body (form : Form) (cs : List Char) : List Char :=
  let opening := if cs.contains '\n' then ['\n'] else []
  match form with
  | basic => cs.flatMap escapeBasic
  | literal => cs
  | basicLines => opening ++ escapeLines 0 cs
  | literalLines => opening ++ cs

/-- A text in a form. -/
def Form.write (form : Form) (cs : List Char) : List Char :=
  form.delimiter ++ form.body cs ++ form.delimiter

/-- A text as it is written. -/
def writeText (cs : List Char) : List Char := (Form.ofText cs).write cs

end Consent.Toml
