import Consent.Expiry
import Mathlib.Algebra.Group.Nat.Defs
import Mathlib.Tactic.Lemma

set_option autoImplicit false

/-!
# How expiries are written

The documented forms of an expiry are the date-time of RFC 3339 and the calendar date `YYYY-MM-DD`.
Both name a date of the calendar, four digits of year and two of month and day. A date-time goes on
with a clock and an offset from UTC, and may name second 60 where a leap second can stand: just
before a month begins in UTC.

The reader takes looser forms too, about which nothing is documented. They are given here as they
are read, so that every text that is read is of one of the forms.

## Main definitions

* `Consent.Expiry.IsNumeral` — digits, of a length between two bounds, that denote a number.
* `Consent.Expiry.IsFullDate`, `Consent.Expiry.IsDateTime` — the two forms.
* `Consent.Expiry.Stamp.Exists` — a date-time names a second that exists.
* `Consent.Expiry.Stamp.moment` — what a date-time names, with the digits of its fraction.
* `Consent.Expiry.Documented` — the documented forms.
* `Consent.Expiry.IsLooseDate`, `Consent.Expiry.Lenient` — the forms about which nothing is
  documented.
-/

namespace Consent.Expiry

open Calendar Text

/-- Some digits, at least `least` of them and at most `most`, denote a number. -/
structure IsNumeral (least most : Nat) (ds : List Char) (n : Nat) : Prop where
  digits : ∀ c ∈ ds, c.isDigit = true
  least_le : least ≤ ds.length
  le_most : ds.length ≤ most
  value_eq : Decimal.value ds = n

/-! ### The documented forms -/

/-- A calendar date `YYYY-MM-DD`, which exists. -/
inductive IsFullDate : List Char → Date → Prop where
  | mk {y m d : List Char} {date : Date} {year : Nat} (hy : IsNumeral 4 4 y year)
      (hyear : date.year = year) (hm : IsNumeral 2 2 m date.month) (hd : IsNumeral 2 2 d date.day) :
      IsFullDate (y ++ '-' :: (m ++ '-' :: d)) date

/-- A fraction of a second: nothing, or a point and digits. -/
inductive IsFraction : List Char → Prop where
  | none : IsFraction []
  | point {ds : List Char} (hne : ds ≠ []) (hds : ∀ c ∈ ds, c.isDigit = true) :
      IsFraction ('.' :: ds)

/-- An offset from UTC, in seconds east of it: `Z`, or a sign, an hour and a minute. The minus sign
is one of the given ones. -/
inductive IsOffset (minus : List Char) : List Char → Int → Prop where
  | zulu {z : Char} (hz : z = 'Z' ∨ z = 'z') : IsOffset minus [z] 0
  | east {h m : List Char} {hour minute : Nat} (hh : IsNumeral 2 2 h hour)
      (hm : IsNumeral 2 2 m minute) (hhour : hour < 24) (hminute : minute < 60) :
      IsOffset minus ('+' :: (h ++ ':' :: m)) (3600 * hour + 60 * minute)
  | west {sign : Char} {h m : List Char} {hour minute : Nat} (hsign : sign ∈ minus)
      (hh : IsNumeral 2 2 h hour) (hm : IsNumeral 2 2 m minute) (hhour : hour < 24)
      (hminute : minute < 60) :
      IsOffset minus (sign :: (h ++ ':' :: m)) (-(3600 * hour + 60 * minute))

/-- What a date-time names, up to fractions of a second. -/
structure Stamp where
  /-- The date. -/
  date : Date
  /-- The hour of the clock. -/
  hour : Nat
  /-- The minute of the clock. -/
  minute : Nat
  /-- The second of the clock. -/
  second : Nat
  /-- Seconds east of UTC. -/
  offset : Int

/-- A month begins in UTC with the next minute. -/
def Stamp.EndsMonth (t : Stamp) : Prop :=
  ∃ d : Date, d.day = 1 ∧
    86400 * d.dayNumber = 86400 * t.date.dayNumber + 3600 * t.hour + 60 * (t.minute + 1) - t.offset

/-- The second exists: a minute has sixty of them, from 0 on, and one more if that is a leap
second. -/
def Stamp.Exists (t : Stamp) : Prop := t.second = 60 → t.EndsMonth

/-- A date-time as RFC 3339 writes it, where an offset to the west begins with one of the given
signs: a date, one of `T`, `t` and a space, a clock, and an offset. -/
inductive IsDateTime (minus : List Char) : List Char → Stamp → Prop where
  | mk {day h m s fs zs : List Char} {sep : Char} {t : Stamp} (hday : IsFullDate day t.date)
      (hsep : sep ∈ ['T', 't', ' ']) (hh : IsNumeral 2 2 h t.hour) (hhour : t.hour < 24)
      (hm : IsNumeral 2 2 m t.minute) (hminute : t.minute < 60) (hs : IsNumeral 2 2 s t.second)
      (hsecond : t.second ≤ 60) (hfs : IsFraction fs) (hzs : IsOffset minus zs t.offset) :
      IsDateTime minus (day ++ sep :: (h ++ ':' :: (m ++ ':' :: (s ++ (fs ++ zs))))) t

/-- The documented forms of an expiry. -/
inductive Documented (cs : List Char) : Prop where
  | dateTime {t : Stamp} (h : IsDateTime ['-'] cs t) (hexists : t.Exists)
  | date {d : Date} (h : IsFullDate cs d)

/-! ### What a date-time names -/

/-- The digits behind the point of a text, if it has one. -/
def fractionDigits (cs : List Char) : List Char :=
  ((cs.dropWhile (· ≠ '.')).drop 1).takeWhile Char.isDigit

/-- The nanoseconds of a fraction of a second with the given digits, cut off behind the ninth. -/
def nanosOf (ds : List Char) : Nat := Decimal.value ds * 10 ^ 9 / 10 ^ ds.length

/-- What a date-time names: a leap second is second 59 with a billion nanoseconds on top. -/
def Stamp.moment (t : Stamp) (ds : List Char) : LocalDateTime where
  date := t.date
  time := ⟨t.hour, t.minute, min t.second 59,
    nanosOf ds + if t.second = 60 then 1000000000 else 0⟩
  offset := t.offset

/-! ### Looser forms -/

/-- A year: up to four digits, or any number of them after a sign. -/
inductive IsYear : List Char → Int → Prop where
  | plain {ds : List Char} {n : Nat} (hds : IsNumeral 1 4 ds n) : IsYear ds n
  | positive {ds : List Char} {n : Nat} (hds : IsNumeral 1 ds.length ds n) : IsYear ('+' :: ds) n
  | negative {ds : List Char} {n : Nat} (hds : IsNumeral 1 ds.length ds n) :
      IsYear ('-' :: ds) (-n)

/-- A date with blanks before its numbers, and with few digits, or a sign and many. -/
inductive IsLooseDate : List Char → Date → Prop where
  | mk {ws ws' ws'' y m d : List Char} {date : Date} (hws : ∀ c ∈ ws, isBlank c = true)
      (hws' : ∀ c ∈ ws', isBlank c = true) (hws'' : ∀ c ∈ ws'', isBlank c = true)
      (hy : IsYear y date.year) (hm : IsNumeral 1 2 m date.month)
      (hd : IsNumeral 1 2 d date.day) :
      IsLooseDate (ws ++ (y ++ '-' :: (ws' ++ (m ++ '-' :: (ws'' ++ d))))) date

/-- The forms that are read: those of a date-time, with any second 60 and with a typographic minus
sign, and the loose dates. -/
inductive Readable (cs : List Char) : Prop where
  | dateTime {t : Stamp} (h : IsDateTime ['-', '\u2212'] cs t)
  | date {d : Date} (h : IsLooseDate cs d)

/-- The forms that are read, and about which nothing is documented. -/
def Lenient (cs : List Char) : Prop := Readable cs ∧ ¬ Documented cs

/-! ### Documented forms are read -/

variable {cs : List Char}

/-- A numeral between two bounds is one between wider bounds. -/
lemma IsNumeral.widen {least least' most most' : Nat} {ds : List Char} {n : Nat}
    (h : IsNumeral least most ds n) (hleast : least' ≤ least) (hmost : most ≤ most') :
    IsNumeral least' most' ds n :=
  ⟨h.digits, Nat.le_trans hleast h.least_le, Nat.le_trans h.le_most hmost, h.value_eq⟩

/-- An offset with one of some minus signs is one with one of more. -/
lemma IsOffset.mono {minus minus' : List Char} (hsub : minus ⊆ minus') {offset : Int}
    (h : IsOffset minus cs offset) : IsOffset minus' cs offset := by
  cases h with
  | zulu hz => exact .zulu hz
  | east hh hm hhour hminute => exact .east hh hm hhour hminute
  | west hsign hh hm hhour hminute => exact .west (hsub hsign) hh hm hhour hminute

/-- A date-time with one of some minus signs is one with one of more. -/
lemma IsDateTime.mono {minus minus' : List Char} (hsub : minus ⊆ minus') {t : Stamp}
    (h : IsDateTime minus cs t) : IsDateTime minus' cs t := by
  obtain ⟨hday, hsep, hh, hhour, hm, hminute, hs, hsecond, hfs, hzs⟩ := h
  exact .mk hday hsep hh hhour hm hminute hs hsecond hfs (hzs.mono hsub)

/-- A calendar date is a loose one. -/
lemma IsFullDate.isLooseDate {d : Date} (h : IsFullDate cs d) : IsLooseDate cs d := by
  obtain ⟨hy, hyear, hm, hd⟩ := h
  have hnone : ∀ c ∈ ([] : List Char), isBlank c = true := List.forall_mem_nil _
  exact .mk hnone hnone hnone (hyear ▸ .plain (hy.widen (by decide) (Nat.le_refl _)))
    (hm.widen (by decide) (Nat.le_refl _)) (hd.widen (by decide) (Nat.le_refl _))

/-- Every documented form is read. -/
lemma Documented.readable (h : Documented cs) : Readable cs := by
  cases h with
  | dateTime h _ => exact .dateTime (h.mono (by simp))
  | date h => exact .date h.isLooseDate

end Consent.Expiry
