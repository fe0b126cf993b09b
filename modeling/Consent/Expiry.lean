import Consent.Calendar.Moment
import Consent.Text.Blank

set_option autoImplicit false

/-!
# Expiries

The text that says until when consent is valid is a date-time with an offset, or else a bare
date, between optional blanks. A bare date stands for its midnight in UTC.

The *date-time* form has four digits of year and two of everything else, one of `T`, `t` and a
space before the time, an optional fraction of any length (cut after nine digits), and `Z`, `z`
or a signed offset of hours and minutes below a day. Second 60 is a leap second.

The *date* form is more generous: blanks may precede each number, month and day may have one
digit, and the year has one to four digits, or any number of them after a sign.

## Main definitions

* `Consent.Expiry` — a parsed expiry.
* `Consent.Expiry.parse` — the reading of a text.
* `Consent.Expiry.instant` — the instant it names.
* `Consent.Expiry.text` — its canonical text.
-/

namespace Consent

open Calendar Text

/-- Until when a consent is valid. -/
inductive Expiry where
  /-- A bare date. -/
  | date (d : Date)
  /-- A date-time with an offset. -/
  | dateTime (m : LocalDateTime)
deriving DecidableEq, Repr

namespace Expiry

/-- Reads one character out of a set. -/
def oneOf? (accepted : List Char) : List Char → Option (List Char)
  | [] => none
  | c :: rest => if c ∈ accepted then some rest else none

/-- Reads the nanoseconds after the point: the first nine digits count, the others are skipped. -/
def nanos? (cs : List Char) : Option (Nat × List Char) := do
  let (n, rest) ← Decimal.number? 1 9 cs
  let scale := 9 - (cs.length - rest.length)
  return (n * Nat.pow 10 scale, rest.dropWhile Char.isDigit)

/-- Reads a fraction of a second, if a point is there. -/
def fraction? : List Char → Option (Nat × List Char)
  | '.' :: rest => nanos? rest
  | cs => some (0, cs)

/-- Reads an offset in seconds: `Z`, or a sign, hours, a colon and minutes. The minus sign may be
the typographic one. -/
def offset? : List Char → Option (Int × List Char)
  | [] => none
  | c :: rest =>
    if c = 'Z' || c = 'z' then some (0, rest)
    else if c = '+' || c = '-' || c = '\u2212' then do
      let (hours, rest) ← Decimal.number? 2 2 rest
      let rest ← oneOf? [':'] rest
      let (minutes, rest) ← Decimal.number? 2 2 rest
      if 60 ≤ minutes then none
      else
        let size : Int := 3600 * hours + 60 * minutes
        some (if c = '+' then size else -size, rest)
    else none

/-- A time of day out of its parts, where second 60 is a leap second. -/
def timeOfDay? (hour minute second nanos : Nat) : Option TimeOfDay :=
  if 24 ≤ hour || 60 ≤ minute || 61 ≤ second then none
  else if second = 60 then some ⟨hour, minute, 59, 1000000000 + nanos⟩
  else some ⟨hour, minute, second, nanos⟩

/-- The date-time form. -/
def dateTime? (cs : List Char) : Option LocalDateTime := do
  let (year, cs) ← Decimal.number? 4 4 cs
  let cs ← oneOf? ['-'] cs
  let (month, cs) ← Decimal.number? 2 2 cs
  let cs ← oneOf? ['-'] cs
  let (day, cs) ← Decimal.number? 2 2 cs
  let cs ← oneOf? ['T', 't', ' '] cs
  let (hour, cs) ← Decimal.number? 2 2 cs
  let cs ← oneOf? [':'] cs
  let (minute, cs) ← Decimal.number? 2 2 cs
  let cs ← oneOf? [':'] cs
  let (second, cs) ← Decimal.number? 2 2 cs
  let (nanos, cs) ← fraction? cs
  let (offset, cs) ← offset? cs
  let time ← timeOfDay? hour minute second nanos
  let date ← Date.ofCivil? year month day
  if cs.isEmpty ∧ -86400 < offset ∧ offset < 86400 then some ⟨date, time, offset⟩ else none

/-- The year of the date form: with a sign it may have any number of digits. -/
def year? : List Char → Option (Int × List Char)
  | '-' :: rest => (Decimal.number? 1 rest.length rest).map fun (n, rest) => (-(n : Int), rest)
  | '+' :: rest => (Decimal.number? 1 rest.length rest).map fun (n, rest) => ((n : Int), rest)
  | cs => (Decimal.number? 1 4 cs).map fun (n, rest) => ((n : Int), rest)

/-- The date form. -/
def date? (cs : List Char) : Option Date := do
  let (year, cs) ← year? (trimStart cs)
  let cs ← oneOf? ['-'] cs
  let (month, cs) ← Decimal.number? 1 2 (trimStart cs)
  let cs ← oneOf? ['-'] cs
  let (day, cs) ← Decimal.number? 1 2 (trimStart cs)
  if cs.isEmpty then Date.ofCivil? year month day else none

/-- Reads an expiry without blanks around it: as a date-time, or else as a date. -/
def ofTrimmed? (cs : List Char) : Option Expiry :=
  match dateTime? cs with
  | some m => some (.dateTime m)
  | none => (date? cs).map .date

/-- Reads an expiry; the blanks around it do not matter. -/
def parse (s : String) : Option Expiry := ofTrimmed? (trim s.toList)

/-- The instant at which consent ends. -/
def instant : Expiry → Instant
  | date d => d.midnight
  | dateTime m => m.instant

/-- The canonical text of an expiry. -/
def text : Expiry → String
  | date d => String.ofList (dateText d.civil)
  | dateTime m => m.text

end Expiry

end Consent
