import Consent.Calendar.Date
import Mathlib.Algebra.BigOperators.Intervals
import Mathlib.Tactic.IntervalCases
import Mathlib.Tactic.Lemma
import Mathlib.Tactic.Linarith
import Mathlib.Tactic.Ring

set_option autoImplicit false

/-!
# Counting days

The day number of a date, counted day by day: the days of the years between 1970 and its own, the
days of the months before its own, and the days of its month before it. The number that a date is
given agrees with this count.

## Main definitions

* `Consent.Calendar.IsLeap`, `Consent.Calendar.monthLengths` — the proleptic Gregorian calendar.
* `Consent.Calendar.dayCount` — the number of days from 1 January 1970 to a date.

## Main results

* `Consent.Calendar.Date.dayNumber_eq_dayCount` — the day number of a date is its day count.
-/

namespace Consent.Calendar

open Finset

/-! ### The calendar -/

/-- A leap year: four divides it, unless it is a century that four hundred does not divide. -/
def IsLeap (year : Int) : Prop := 4 ∣ year ∧ (100 ∣ year → 400 ∣ year)

instance (year : Int) : Decidable (IsLeap year) := inferInstanceAs (Decidable (_ ∧ (_ → _)))

/-- The lengths of the months of a year. -/
def monthLengths (year : Int) : List Nat :=
  [31, if IsLeap year then 29 else 28, 31, 30, 31, 30, 31, 31, 30, 31, 30, 31]

/-- The length of a year. -/
def yearLength (year : Int) : Nat := (monthLengths year).sum

/-- The number of days from 1 January 1970 to 1 January of a year, negative for an earlier one: its
years are counted forward from 1970 or backward from 1969. -/
def yearStart (year : Int) : Int :=
  ∑ i ∈ range (year - 1970).toNat, (yearLength (1970 + i) : Int) -
    ∑ i ∈ range (1970 - year).toNat, (yearLength (1969 - i) : Int)

/-- The number of days from 1 January 1970 to a date. -/
def dayCount (year : Int) (month day : Nat) : Int :=
  yearStart year + ((monthLengths year).take (month - 1)).sum + day - 1

/-! ### Years -/

/-- The rule for leap years, in numbers. -/
lemma isLeapYear_iff (year : Int) : isLeapYear year = true ↔ IsLeap year := by
  simp only [isLeapYear, IsLeap, Bool.and_eq_true, Bool.or_eq_true, decide_eq_true_eq,
    Int.dvd_iff_emod_eq_zero]
  omega

/-- The length of a year. -/
lemma yearLength_eq (year : Int) : yearLength year = if IsLeap year then 366 else 365 := by
  rw [yearLength, monthLengths]
  split <;> rfl

/-- A year starts when the one before is over. -/
lemma daysBeforeYear_succ (year : Int) :
    daysBeforeYear (year + 1) = daysBeforeYear year + yearLength year := by
  rw [yearLength_eq, daysBeforeYear, daysBeforeYear]
  split <;> rename_i hleap <;> rw [IsLeap] at hleap <;> push_cast <;> omega

/-- Years that come after the start of 1970. -/
lemma daysBeforeYear_add (n : Nat) :
    daysBeforeYear (1970 + n) - daysBeforeYear 1970 =
      ∑ i ∈ range n, (yearLength (1970 + i) : Int) := by
  induction n with
  | zero => simp
  | succ n ih =>
    rw [sum_range_succ, ← ih, Nat.cast_add_one, ← add_assoc, daysBeforeYear_succ]
    ring

/-- Years that come before the start of 1970. -/
lemma daysBeforeYear_sub (n : Nat) :
    daysBeforeYear (1970 - n) - daysBeforeYear 1970 =
      -∑ i ∈ range n, (yearLength (1969 - i) : Int) := by
  induction n with
  | zero => simp
  | succ n ih =>
    have hstep := daysBeforeYear_succ (1969 - n)
    have hnext : (1969 - n : Int) + 1 = 1970 - n := by ring
    have hlast : (1970 : Int) - (n + 1 : Nat) = 1969 - n := by push_cast; ring
    rw [hnext] at hstep
    rw [sum_range_succ, hlast]
    linarith

/-- **Years start where they are counted to.** -/
lemma daysBeforeYear_eq_yearStart (year : Int) :
    daysBeforeYear year - daysBeforeYear 1970 = yearStart year := by
  rw [yearStart]
  rcases le_total 1970 year with h | h
  · have hyear : (1970 : Int) + (year - 1970).toNat = year := by omega
    rw [Int.toNat_eq_zero.mpr (by omega : 1970 - year ≤ 0), sum_range_zero, sub_zero,
      ← daysBeforeYear_add, hyear]
  · have hyear : (1970 : Int) - (1970 - year).toNat = year := by omega
    rw [Int.toNat_eq_zero.mpr (by omega : year - 1970 ≤ 0), sum_range_zero, zero_sub,
      ← daysBeforeYear_sub, hyear]

/-! ### Dates -/

/-- The months of a year are as long as they are listed. -/
lemma daysInMonth_eq {month : Nat} (h : 1 ≤ month ∧ month ≤ 12) (year : Int) :
    (monthLengths year)[month - 1]? = some (daysInMonth year month) := by
  obtain ⟨hfirst, hlast⟩ := h
  have hleap : isLeapYear year = decide (IsLeap year) := by
    rw [Bool.eq_iff_iff, isLeapYear_iff, decide_eq_true_iff]
  interval_cases month <;> simp [monthLengths, daysInMonth, hleap]

/-- The days before a month are those of the months before it. -/
lemma daysBeforeMonth_eq {month : Nat} (h : 1 ≤ month ∧ month ≤ 12) (year : Int) :
    daysBeforeMonth year month = ((monthLengths year).take (month - 1)).sum := by
  have hmonths : ∀ n ≤ 12, (List.range n).foldl (fun days i => days + daysInMonth year (i + 1)) 0 =
      ((monthLengths year).take n).sum := by
    intro n hn
    induction n with
    | zero => rfl
    | succ n ih =>
      have hmonth := daysInMonth_eq (by omega : 1 ≤ n + 1 ∧ n + 1 ≤ 12) year
      rw [List.range_succ, List.foldl_append, ih (by omega), List.take_add_one,
        show n = n + 1 - 1 from rfl, hmonth, List.sum_append]
      simp
  exact hmonths _ (by omega)

/-- **The day number of a date is its day count.** -/
lemma Date.dayNumber_eq_dayCount (d : Date) : d.dayNumber = dayCount d.year d.month d.day := by
  rw [dayNumber, dayCount, daysBeforeYear_eq_yearStart, daysBeforeMonth_eq d.month_mem]

/-- Before 1970 the days are counted backward. -/
example : dayCount 1970 1 1 = 0 ∧ dayCount 1968 2 29 = -672 := by decide

end Consent.Calendar
