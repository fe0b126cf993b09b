set_option autoImplicit false

/-!
# Civil dates

Dates of the proleptic Gregorian calendar and their day numbers. Years run over the whole range
that an expiry can name, so a year may be negative or have six digits.

## Main definitions

* `Consent.Calendar.Date` — a date that exists.
* `Consent.Calendar.Date.ofCivil?` — the date with the given year, month and day, if there is one.
* `Consent.Calendar.Date.dayNumber` — days since 1 January 1970.
* `Consent.Calendar.Civil.ofDayNumber` — the year, month and day of a day number.
-/

namespace Consent.Calendar

/-- The first year that a date can have. -/
def firstYear : Int := -262143

/-- The last year that a date can have. -/
def lastYear : Int := 262142

/-- Every fourth year is a leap year, except for the centuries that four hundred does not
divide. -/
def isLeapYear (year : Int) : Bool :=
  year % 4 = 0 && (year % 100 ≠ 0 || year % 400 = 0)

/-- The number of days of a month. -/
def daysInMonth (year : Int) (month : Nat) : Nat :=
  if month = 2 then if isLeapYear year then 29 else 28
  else if month = 4 ∨ month = 6 ∨ month = 9 ∨ month = 11 then 30 else 31

/-- A date that exists: its year is in range, its month is one of the twelve, and the month has
the day. -/
structure Date where
  /-- The astronomical year: the year before 1 is 0. -/
  year : Int
  /-- The month, from 1. -/
  month : Nat
  /-- The day of the month, from 1. -/
  day : Nat
  year_mem : firstYear ≤ year ∧ year ≤ lastYear
  month_mem : 1 ≤ month ∧ month ≤ 12
  day_mem : 1 ≤ day ∧ day ≤ daysInMonth year month
deriving DecidableEq, Repr

/-- The date with the given year, month and day, if there is one. -/
def Date.ofCivil? (year : Int) (month day : Nat) : Option Date :=
  if hy : firstYear ≤ year ∧ year ≤ lastYear then
    if hm : 1 ≤ month ∧ month ≤ 12 then
      if hd : 1 ≤ day ∧ day ≤ daysInMonth year month then some ⟨year, month, day, hy, hm, hd⟩
      else none
    else none
  else none

/-- A date found under a year, a month and a day has them. -/
theorem Date.ofCivil?_eq_some {year : Int} {month day : Nat} {d : Date}
    (h : Date.ofCivil? year month day = some d) :
    d.year = year ∧ d.month = month ∧ d.day = day := by
  simp only [ofCivil?] at h
  split at h <;> try contradiction
  split at h <;> try contradiction
  split at h <;> try contradiction
  obtain rfl := Option.some.inj h
  exact ⟨rfl, rfl, rfl⟩

/-- Every date is found under its own year, month and day. -/
theorem Date.ofCivil?_self (d : Date) : Date.ofCivil? d.year d.month d.day = some d := by
  simp [ofCivil?, d.year_mem, d.month_mem, d.day_mem]

/-- Days from 1 January of the year 1 to 1 January of the given year. -/
def daysBeforeYear (year : Int) : Int :=
  365 * (year - 1) + (year - 1) / 4 - (year - 1) / 100 + (year - 1) / 400

/-- Days of the year before the given month. -/
def daysBeforeMonth (year : Int) (month : Nat) : Nat :=
  (List.range (month - 1)).foldl (fun days i => days + daysInMonth year (i + 1)) 0

/-- Days since 1 January 1970. -/
def Date.dayNumber (d : Date) : Int :=
  daysBeforeYear d.year - daysBeforeYear 1970 + daysBeforeMonth d.year d.month + d.day - 1

/-- The day number of the first date. -/
def firstDayNumber : Int := daysBeforeYear firstYear - daysBeforeYear 1970

/-- The day number of the last date. -/
def lastDayNumber : Int := daysBeforeYear (lastYear + 1) - daysBeforeYear 1970 - 1

/-- A year, a month and a day of it, as a day number determines them. -/
structure Civil where
  /-- The astronomical year. -/
  year : Int
  /-- The month, from 1. -/
  month : Nat
  /-- The day of the month, from 1. -/
  day : Nat
deriving DecidableEq, Repr

/-- The year, month and day of a day number. Years are counted here from 1 March, so that a leap
day ends its year; `146097` days make four hundred years, and the months from March on start
after `⌊(153 m + 2) / 5⌋` days. -/
def Civil.ofDayNumber (n : Int) : Civil :=
  let shifted := n + 719468
  let era := shifted / 146097
  let dayOfEra := (shifted % 146097).toNat
  let yearOfEra :=
    (dayOfEra - dayOfEra / 1460 + dayOfEra / 36524 - dayOfEra / 146096) / 365
  let dayOfYear := dayOfEra - (365 * yearOfEra + yearOfEra / 4 - yearOfEra / 100)
  let marchMonth := (5 * dayOfYear + 2) / 153
  let day := dayOfYear - (153 * marchMonth + 2) / 5 + 1
  let month := if marchMonth < 10 then marchMonth + 3 else marchMonth - 9
  let year := era * 400 + yearOfEra
  ⟨if month ≤ 2 then year + 1 else year, month, day⟩

/-- The civil form of a date. -/
def Date.civil (d : Date) : Civil := ⟨d.year, d.month, d.day⟩

end Consent.Calendar
