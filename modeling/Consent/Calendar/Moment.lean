import Consent.Calendar.Date
import Consent.Decimal.Numeral

set_option autoImplicit false

/-!
# Moments: local date-times and instants

A *local date-time* is a date, a time of day and an offset from UTC. An *instant* is a count of
seconds since 1 January 1970 in UTC, with nanoseconds. A leap second is second 59 with a billion
nanoseconds or more on top.

Both print in the same notation: a date, a `T`, a time with as few fraction digits as lose
nothing out of 0, 3, 6 and 9, and an offset.

## Main definitions

* `Consent.Calendar.LocalDateTime`, `Consent.Calendar.Instant`.
* `Consent.Calendar.LocalDateTime.instant` — the instant of a local date-time.
* `Consent.Calendar.Instant.ofUnix?` — the instant of a pair of seconds and nanoseconds.
* `Consent.Calendar.yearText`, `Consent.Calendar.dateText` — years and dates as text.
* `Consent.Calendar.LocalDateTime.text`, `Consent.Calendar.Instant.text` — the notation above.
-/

namespace Consent.Calendar

/-- A time of day. A leap second is second 59 with `nanos` from a billion on. -/
structure TimeOfDay where
  /-- Hours, below 24. -/
  hour : Nat
  /-- Minutes, below 60. -/
  minute : Nat
  /-- Seconds, below 60. -/
  second : Nat
  /-- Nanoseconds, below two billion. -/
  nanos : Nat
deriving DecidableEq, Repr

/-- Whole seconds since midnight. -/
def TimeOfDay.seconds (t : TimeOfDay) : Nat := 3600 * t.hour + 60 * t.minute + t.second

/-- A date and a time of day at an offset from UTC, in seconds east of it. -/
structure LocalDateTime where
  /-- The local date. -/
  date : Date
  /-- The local time of day. -/
  time : TimeOfDay
  /-- Seconds east of UTC. -/
  offset : Int
deriving DecidableEq, Repr

/-- Seconds and nanoseconds since the start of 1970 in UTC. -/
structure Instant where
  /-- Whole seconds. -/
  seconds : Int
  /-- Nanoseconds on top, from a billion on in a leap second. -/
  nanos : Nat
deriving DecidableEq, Repr

namespace Instant

/-- Instants are ordered by seconds, then by nanoseconds. -/
def before (a b : Instant) : Bool :=
  a.seconds < b.seconds || (a.seconds = b.seconds && a.nanos < b.nanos)

/-- The instant of some seconds and nanoseconds: its date must exist, and a billion nanoseconds
or more make sense only in the last second of a minute. -/
def ofUnix? (seconds : Int) (nanos : Nat) : Option Instant :=
  let day := seconds / 86400
  if day < firstDayNumber || lastDayNumber < day then none
  else if 2000000000 ≤ nanos then none
  else if 1000000000 ≤ nanos && seconds % 60 ≠ 59 then none
  else some ⟨seconds, nanos⟩

end Instant

/-- The instant of a date's first second in UTC. -/
def Date.midnight (d : Date) : Instant := ⟨86400 * d.dayNumber, 0⟩

/-- The instant of a local date-time: east of UTC the same instant has the later clock. -/
def LocalDateTime.instant (m : LocalDateTime) : Instant :=
  ⟨86400 * m.date.dayNumber + m.time.seconds - m.offset, m.time.nanos⟩

/-- A year as text: four digits from 0 to 9999, else a sign and at least four digits. -/
def yearText (year : Int) : List Char :=
  if 0 ≤ year ∧ year ≤ 9999 then Decimal.padded 4 year.toNat
  else (if year < 0 then '-' else '+') :: Decimal.padded 4 year.natAbs

/-- A date as text, such as `2030-01-31`. -/
def dateText (d : Civil) : List Char :=
  yearText d.year ++ '-' :: Decimal.padded 2 d.month ++ '-' :: Decimal.padded 2 d.day

/-- The fraction of a second as text: nothing, or a point and 3, 6 or 9 digits. -/
def fractionText (nanos : Nat) : List Char :=
  if nanos = 0 then []
  else if nanos % 1000000 = 0 then '.' :: Decimal.padded 3 (nanos / 1000000)
  else if nanos % 1000 = 0 then '.' :: Decimal.padded 6 (nanos / 1000)
  else '.' :: Decimal.padded 9 nanos

/-- A time of day as text; a leap second shows as second 60. -/
def TimeOfDay.text (t : TimeOfDay) : List Char :=
  let leap := t.nanos / 1000000000
  Decimal.padded 2 t.hour ++ ':' :: Decimal.padded 2 t.minute ++
    ':' :: Decimal.padded 2 (t.second + leap) ++ fractionText (t.nanos % 1000000000)

/-- An offset as text, such as `+05:30`. -/
def offsetText (offset : Int) : List Char :=
  let minutes := offset.natAbs / 60
  (if offset < 0 then '-' else '+') ::
    (Decimal.padded 2 (minutes / 60) ++ ':' :: Decimal.padded 2 (minutes % 60))

/-- A local date-time as text, in its own offset. -/
def LocalDateTime.text (m : LocalDateTime) : String :=
  String.ofList (dateText m.date.civil ++ 'T' :: m.time.text ++ offsetText m.offset)

/-- The time of day of an instant, in UTC. -/
def Instant.timeOfDay (i : Instant) : TimeOfDay :=
  let s := (i.seconds % 86400).toNat
  ⟨s / 3600, s / 60 % 60, s % 60, i.nanos⟩

/-- An instant as text, in UTC. -/
def Instant.text (i : Instant) : String :=
  String.ofList (dateText (Civil.ofDayNumber (i.seconds / 86400)) ++
    'T' :: i.timeOfDay.text ++ offsetText 0)

end Consent.Calendar
