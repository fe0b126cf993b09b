import Consent.Json.Skip
import Mathlib.Tactic.Lemma

set_option autoImplicit false

/-!
# The grammar of JSON bodies

What a well-formed body is, told by how it is written and not by how it is read: octets that are
characters in UTF-8, tokens with blanks between them, texts with escapes, numbers, and lists and
objects nested to any depth.

A text is a list of *pieces*, and denotes characters unless a half of a surrogate pair stands alone.
An object whose keys denote texts has *members*, each of which is a key and the octets of its value.

## Main definitions

* `Consent.Json.Piece`, `Consent.Json.quoted`, `Consent.Json.denote?` — texts.
* `Consent.Json.IsNumber` — numbers.
* `Consent.Json.WellFormed` — values, and the entries of lists and objects.
* `Consent.Json.IsText`, `Consent.Json.IsFlag` — values that denote a text or a truth value.
* `Consent.Json.Members`, `Consent.Json.ObjectBody` — the members of an object.
-/

namespace Consent.Json

/-- Blanks, or nothing. -/
def Blanks (ws : Bytes) : Prop := ∀ b ∈ ws, isBlank b = true

/-! ### Texts -/

/-- The letters of the short escapes, and the characters that they stand for. -/
def shortEscapes : List (Char × Char) :=
  [('"', '"'), ('\\', '\\'), ('/', '/'), ('b', '\x08'), ('f', '\x0c'), ('n', '\n'), ('r', '\r'),
    ('t', '\t')]

/-- The hexadecimal digits, and the numbers that they stand for. -/
def hexDigits : List (Char × Nat) :=
  [('0', 0), ('1', 1), ('2', 2), ('3', 3), ('4', 4), ('5', 5), ('6', 6), ('7', 7), ('8', 8),
    ('9', 9), ('a', 10), ('b', 11), ('c', 12), ('d', 13), ('e', 14), ('f', 15), ('A', 10),
    ('B', 11), ('C', 12), ('D', 13), ('E', 14), ('F', 15)]

/-- A short escape: its letter and its character. -/
abbrev ShortEscape := { e : Char × Char // e ∈ shortEscapes }

/-- A hexadecimal digit: its character and its number. -/
abbrev HexDigit := { d : Char × Nat // d ∈ hexDigits }

/-- A unit of UTF-16, written with four hexadecimal digits. -/
structure HexUnit where
  /-- The first digit. -/
  a : HexDigit
  /-- The second digit. -/
  b : HexDigit
  /-- The third digit. -/
  c : HexDigit
  /-- The last digit. -/
  d : HexDigit

/-- The number of a unit. -/
def HexUnit.value (u : HexUnit) : Nat :=
  4096 * u.a.1.2 + 256 * u.b.1.2 + 16 * u.c.1.2 + u.d.1.2

/-- The digits of a unit. -/
def HexUnit.octets (u : HexUnit) : Bytes :=
  [Ascii.octet u.a.1.1, Ascii.octet u.b.1.1, Ascii.octet u.c.1.1, Ascii.octet u.d.1.1]

/-- A piece of a text between its quotes. -/
inductive Piece where
  /-- A character that stands for itself. -/
  | plain (c : Char) (h : c ≠ '"' ∧ c ≠ '\\' ∧ 0x20 ≤ c.toNat)
  /-- A backslash and a letter. -/
  | short (e : ShortEscape)
  /-- A backslash, the letter `u` and a unit. -/
  | unit (u : HexUnit)

/-- How a piece is written. -/
def Piece.octets : Piece → Bytes
  | plain c _ => String.utf8EncodeChar c
  | short e => [Ascii.backslash, Ascii.octet e.1.1]
  | unit u => Ascii.backslash :: Ascii.lowerU :: u.octets

/-- A text with its quotes. -/
def quoted (ps : List Piece) : Bytes := Ascii.quote :: (ps.flatMap Piece.octets ++ [Ascii.quote])

/-- The character of a unit that is no half of a pair. -/
def unitChar? (n : Nat) : Option Char := if n.isValidChar then some (Char.ofNat n) else none

/-- The character of a pair of units. -/
def pairChar (high low : Nat) : Char :=
  Char.ofNat (0x10000 + 0x400 * (high - 0xd800) + (low - 0xdc00))

/-- The characters that the pieces of a text denote, if each half of a pair has its other half. -/
def denote? : List Piece → Option (List Char)
  | [] => some []
  | .plain c _ :: ps => (denote? ps).map (c :: ·)
  | .short e :: ps => (denote? ps).map (e.1.2 :: ·)
  | .unit u :: .unit v :: ps =>
    if isHighSurrogate u.value && isLowSurrogate v.value then
      (denote? ps).map (pairChar u.value v.value :: ·)
    else (unitChar? u.value).bind fun c => (denote? (.unit v :: ps)).map (c :: ·)
  | .unit u :: ps => (unitChar? u.value).bind fun c => (denote? ps).map (c :: ·)

/-! ### Numbers -/

/-- Some digits. -/
def Digits (ds : Bytes) : Prop := ds ≠ [] ∧ ∀ b ∈ ds, Ascii.isDigit b = true

/-- The integer part of a number: it has no zero at its front, unless it is zero. -/
def IsInteger (ds : Bytes) : Prop :=
  Digits ds ∧ (ds.head? = some Ascii.zero → ds = [Ascii.zero])

/-- The fraction of a number, if any. -/
def IsFraction (f : Bytes) : Prop := f = [] ∨ ∃ ds, f = Ascii.point :: ds ∧ Digits ds

/-- The exponent of a number, if any. -/
def IsExponent (e : Bytes) : Prop :=
  e = [] ∨ ∃ letter sign ds, e = letter :: (sign ++ ds) ∧
    (letter = Ascii.lowerE ∨ letter = Ascii.upperE) ∧
    (sign = [] ∨ sign = [Ascii.plus] ∨ sign = [Ascii.minus]) ∧ Digits ds

/-- A number. -/
def IsNumber (n : Bytes) : Prop :=
  ∃ sign i f e, n = sign ++ i ++ f ++ e ∧ (sign = [] ∨ sign = [Ascii.minus]) ∧ IsInteger i ∧
    IsFraction f ∧ IsExponent e

/-! ### Values -/

/-- The octets of a truth value. -/
def flagOctets (b : Bool) : Bytes := Ascii.octets (if b then "true" else "false")

/-- The octet that opens a bracket. -/
def Bracket.opener : Bracket → UInt8
  | list => Ascii.openBracket
  | object => Ascii.openBrace

/-- What stands before the value of an object's entry: a key and a colon, with blanks around. -/
inductive Keyed (key : List Piece) : Bytes → Prop where
  | mk {ws ws' ws'' : Bytes} (hws : Blanks ws) (hws' : Blanks ws') (hws'' : Blanks ws'') :
      Keyed key (ws ++ (quoted key ++ (ws' ++ Ascii.colon :: ws'')))

/-- What stands before the value of an entry: blanks in a list, and a key in an object. -/
inductive Lead : Bracket → Bytes → Prop where
  | list {ws : Bytes} (hws : Blanks ws) : Lead .list ws
  | object {key : List Piece} {lead : Bytes} (hlead : Keyed key lead) : Lead .object lead

/-- What is well formed: a value, or the entries of a bracket. -/
inductive Part where
  | value
  | entries (k : Bracket)

/-- A part of a body is well formed. Values may be nested to any depth. -/
inductive WellFormed : Part → Bytes → Prop where
  | null : WellFormed .value (Ascii.octets "null")
  | flag (b : Bool) : WellFormed .value (flagOctets b)
  | number {n : Bytes} (hn : IsNumber n) : WellFormed .value n
  | text (ps : List Piece) : WellFormed .value (quoted ps)
  | empty (k : Bracket) {ws : Bytes} (hws : Blanks ws) :
      WellFormed .value (k.opener :: (ws ++ [k.closer]))
  | enclosed {k : Bracket} {es : Bytes} (hes : WellFormed (.entries k) es) :
      WellFormed .value (k.opener :: (es ++ [k.closer]))
  | single {k : Bracket} {lead v ws : Bytes} (hlead : Lead k lead) (hv : WellFormed .value v)
      (hws : Blanks ws) : WellFormed (.entries k) (lead ++ (v ++ ws))
  | more {k : Bracket} {lead v ws es : Bytes} (hlead : Lead k lead) (hv : WellFormed .value v)
      (hws : Blanks ws) (hes : WellFormed (.entries k) es) :
      WellFormed (.entries k) (lead ++ (v ++ (ws ++ Ascii.comma :: es)))

/-- A value is a text, and denotes the given one. -/
def IsText (v : Bytes) (s : String) : Prop := ∃ ps, v = quoted ps ∧ denote? ps = some s.toList

/-- A value is the given truth value. -/
def IsFlag (v : Bytes) (b : Bool) : Prop := v = flagOctets b

/-! ### Objects -/

/-- The members of an object, in order: its keys denote texts, and the values are well formed. -/
inductive Members : Bytes → List (String × Bytes) → Prop where
  | single {ps : List Piece} {key : String} {lead v ws : Bytes} (hlead : Keyed ps lead)
      (hkey : denote? ps = some key.toList) (hv : WellFormed .value v) (hws : Blanks ws) :
      Members (lead ++ (v ++ ws)) [(key, v)]
  | more {ps : List Piece} {key : String} {lead v ws es : Bytes} {ms : List (String × Bytes)}
      (hlead : Keyed ps lead) (hkey : denote? ps = some key.toList) (hv : WellFormed .value v)
      (hws : Blanks ws) (hes : Members es ms) :
      Members (lead ++ (v ++ (ws ++ Ascii.comma :: es))) ((key, v) :: ms)

/-- A body is an object with the given members. -/
inductive ObjectBody : Bytes → List (String × Bytes) → Prop where
  | empty {ws ws' ws'' : Bytes} (hws : Blanks ws) (hws' : Blanks ws') (hws'' : Blanks ws'') :
      ObjectBody (ws ++ Ascii.openBrace :: (ws' ++ Ascii.closeBrace :: ws'')) []
  | members {ws es ws' : Bytes} {ms : List (String × Bytes)} (hws : Blanks ws)
      (hes : Members es ms) (hws' : Blanks ws') :
      ObjectBody (ws ++ Ascii.openBrace :: (es ++ Ascii.closeBrace :: ws')) ms

/-- The values of members are well formed. -/
lemma Members.value {es : Bytes} {ms : List (String × Bytes)} (h : Members es ms) :
    ∀ m ∈ ms, WellFormed .value m.2 := by
  induction h with
  | single _ _ hv _ => exact List.forall_mem_singleton.mpr hv
  | more _ _ hv _ _ ih => exact List.forall_mem_cons.mpr ⟨hv, ih⟩

/-- The values of an object's members are well formed. -/
lemma ObjectBody.value {body : Bytes} {ms : List (String × Bytes)} (h : ObjectBody body ms) :
    ∀ m ∈ ms, WellFormed .value m.2 := by
  cases h with
  | empty _ _ _ => exact nofun
  | members _ hes _ => exact hes.value

end Consent.Json
