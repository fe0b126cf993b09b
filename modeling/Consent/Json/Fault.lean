import Consent.Ascii
import Consent.Decimal.Shortest
import Consent.Text.Quoted
import Consent.Text.Utf8

set_option autoImplicit false

/-!
# Faults of a JSON body

Why a body is not what was expected, and where. A reader works on the octets that are left of the
body, so it names a place by *how many octets lie behind it*; once reading has failed, the whole
body turns that number into a line and a column.

## Main definitions

* `Consent.Json.Found` — what stands where a value of another kind was expected.
* `Consent.Json.Cause`, `Consent.Json.Cause.message` — why reading failed, in words.
* `Consent.Json.Fault` — a cause and a place.
* `Consent.Json.Error`, `Consent.Json.Error.message` — a cause with its line and column.
* `Consent.Json.Fault.locate` — the error that a fault is in a given body.
-/

namespace Consent.Json

open Decimal

/-- What stands where a value of another kind was expected. -/
inductive Found where
  | null
  | boolean (b : Bool)
  | integer (n : Int)
  | float (x : Binary64)
  | text (s : String)
  | sequence
  | map
deriving DecidableEq, Repr

/-- The words for what was found. -/
def Found.message : Found → String
  | null => "null"
  | boolean b => "boolean `" ++ (if b then "true" else "false") ++ "`"
  | integer n => "integer `" ++ toString n ++ "`"
  | float x => "floating point `" ++ x.text ++ "`"
  | text s => "string " ++ Text.quoted s
  | sequence => "sequence"
  | map => "map"

/-- Why reading failed. -/
inductive Cause where
  | endInValue
  | endInList
  | endInObject
  | endInString
  | colonExpected
  | listCommaOrEndExpected
  | objectCommaOrEndExpected
  | wordExpected
  | valueExpected
  | keyNotText
  | trailingComma
  | trailingCharacters
  | invalidNumber
  | numberOutOfRange
  | invalidEscape
  | controlCharacter
  | invalidCodePoint
  | loneSurrogate
  | unfinishedSurrogatePair
  /-- A value of another kind than the expected one. -/
  | invalidType (found : Found) (expected : String)
  /-- A list with too few elements. -/
  | invalidLength (count : Nat) (expected : String)
  /-- A member that may not be left out is missing. -/
  | missingField (name : String)
  /-- A member occurs twice. -/
  | duplicateField (name : String)
deriving DecidableEq, Repr

/-- The words for a cause. -/
def Cause.message : Cause → String
  | endInValue => "EOF while parsing a value"
  | endInList => "EOF while parsing a list"
  | endInObject => "EOF while parsing an object"
  | endInString => "EOF while parsing a string"
  | colonExpected => "expected `:`"
  | listCommaOrEndExpected => "expected `,` or `]`"
  | objectCommaOrEndExpected => "expected `,` or `\x7d`"
  | wordExpected => "expected ident"
  | valueExpected => "expected value"
  | keyNotText => "key must be a string"
  | trailingComma => "trailing comma"
  | trailingCharacters => "trailing characters"
  | invalidNumber => "invalid number"
  | numberOutOfRange => "number out of range"
  | invalidEscape => "invalid escape"
  | controlCharacter => "control character (\\u0000-\\u001F) found while parsing a string"
  | invalidCodePoint => "invalid unicode code point"
  | loneSurrogate => "lone leading surrogate in hex escape"
  | unfinishedSurrogatePair => "unexpected end of hex escape"
  | invalidType found expected => "invalid type: " ++ found.message ++ ", expected " ++ expected
  | invalidLength count expected =>
    "invalid length " ++ toString count ++ ", expected " ++ expected
  | missingField name => "missing field `" ++ name ++ "`"
  | duplicateField name => "duplicate field `" ++ name ++ "`"

/-- A cause, and the number of octets behind the place it concerns. -/
structure Fault where
  /-- Why reading failed. -/
  cause : Cause
  /-- How many octets of the body lie behind the place. -/
  behind : Nat
deriving DecidableEq, Repr

/-- A fault in front of what is left. -/
def Fault.at (cause : Cause) (left : Bytes) : Fault := ⟨cause, left.length⟩

/-- A fault on the first octet that is left, or at the end when none is left. -/
def Fault.on (cause : Cause) (left : Bytes) : Fault := ⟨cause, left.length - 1⟩

/-- A cause with the line and the column it concerns. -/
structure Error where
  /-- Why reading failed. -/
  cause : Cause
  /-- The line, from 1. -/
  line : Nat
  /-- The number of octets of that line up to and with the place. -/
  column : Nat
deriving DecidableEq, Repr

/-- The words for an error. -/
def Error.message (e : Error) : String :=
  e.cause.message ++ " at line " ++ toString e.line ++ " column " ++ toString e.column

/-- The error that a fault is in a body: lines end with a line feed. -/
def Fault.locate (f : Fault) (body : Bytes) : Error :=
  let seen := body.take (body.length - f.behind)
  ⟨f.cause, 1 + seen.count Ascii.lineFeed,
    (seen.reverse.takeWhile (· ≠ Ascii.lineFeed)).length⟩

/-- A reader takes a value off the front of what is left of a body. -/
abbrev Reader (α : Type) := Bytes → Except Fault (α × Bytes)

/-- The blanks of JSON: space, tab, line feed and carriage return. -/
def isBlank (b : UInt8) : Bool := b = 0x20 || b = 0x09 || b = 0x0a || b = 0x0d

/-- What is left from the first octet that is not blank. -/
def skipBlanks (left : Bytes) : Bytes := left.dropWhile isBlank

/-- Skipping blanks reads no more than there is. -/
theorem skipBlanks_length_le (left : Bytes) : (skipBlanks left).length ≤ left.length :=
  (List.dropWhile_suffix _).length_le

end Consent.Json
