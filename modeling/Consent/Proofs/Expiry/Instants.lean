import Consent.Proofs.Calendar.DayCount
import Consent.Proofs.Expiry.Canonical
import Consent.Record
import Mathlib.Data.Prod.Lex

set_option autoImplicit false

/-!
# Instants and access

The instant of an expiry, by a count of the days since 1 January 1970: a date stands for its first
second in UTC, and a date-time for the second on its clock, less the offset. Access is granted
strictly before that instant, so records agree whose expiries name the same one.

## Main definitions

* `Consent.Expiry.startOfDay`, `Consent.Expiry.Stamp.named` — the instants that a date and a
  date-time name.

## Main results

* `Consent.Record.grantsAccessAt_iff` — when access is granted.
* `Consent.Record.access_is_calendar_exact` — until when it is granted, by the form of the expiry.
-/

namespace Consent

open Calendar Text

/-- Instants are ordered as pairs of seconds and nanoseconds. -/
lemma Calendar.Instant.before_iff {a b : Instant} :
    a.before b = true ↔ toLex (a.seconds, a.nanos) < toLex (b.seconds, b.nanos) := by
  simp [before, Prod.Lex.toLex_lt_toLex]

namespace Expiry

/-! ### Instants -/

/-- The instant that a date names: its first second in UTC. -/
def startOfDay (d : Date) : Instant := ⟨86400 * dayCount d.year d.month d.day, 0⟩

/-- The instant that a date-time names, with the digits of its fraction. A leap second is second 59
with a billion nanoseconds on top. -/
def Stamp.named (t : Stamp) (ds : List Char) : Instant where
  seconds := 86400 * dayCount t.date.year t.date.month t.date.day +
    (3600 * t.hour + 60 * t.minute + min t.second 59 : Nat) - t.offset
  nanos := nanosOf ds + if t.second = 60 then 10 ^ 9 else 0

/-- A date ends a consent at the instant that it names. -/
lemma instant_date (d : Date) : (date d).instant = startOfDay d := by
  rw [startOfDay, ← d.dayNumber_eq_dayCount]
  rfl

/-- A date-time ends a consent at the instant that it names. -/
lemma instant_moment (t : Stamp) (ds : List Char) :
    (dateTime (t.moment ds)).instant = t.named ds := by
  rw [Stamp.named, ← t.date.dayNumber_eq_dayCount]
  rfl

/-- The first second of a day is that of its date. -/
lemma named_midnight (d : Date) : (⟨d, 0, 0, 0, 0⟩ : Stamp).named [] = startOfDay d := by
  simp [Stamp.named, startOfDay, nanosOf, Decimal.value]

/-! ### Midnights -/

/-- There are no blanks in the text of a date's first second. -/
lemma trim_midnight (d : Date) : trim ((date d).text ++ "T00:00:00Z").toList =
    dateText d.civil ++ "T00:00:00Z".toList := by
  rw [String.toList_append, text, String.toList_ofList]
  refine trim_of_not_blank fun c hc => ?_
  rcases List.mem_append.mp hc with hc | hc
  · exact (isPlainChar_dateText _ c hc).isBlank_eq_false
  · have hclock : "T00:00:00Z".toList.all (isBlank · = false) = true := by decide
    exact of_decide_eq_true (List.all_eq_true.mp hclock c hc)

/-- The first second of a date with four digits of year is read. -/
lemma parse_midnight {d : Date} (h : 0 ≤ d.year ∧ d.year ≤ 9999) :
    parse ((date d).text ++ "T00:00:00Z") =
      some (.dateTime ((⟨d, 0, 0, 0, 0⟩ : Stamp).moment [])) := by
  have hzeros : IsNumeral 2 2 ['0', '0'] 0 := ⟨by simp, by decide, by decide, by decide⟩
  have hread := dateTime?_parts (t := ⟨d, 0, 0, 0, 0⟩) (isFullDate_dateText h)
    (by decide : 'T' ∈ _) hzeros hzeros hzeros .none (.zulu (.inl rfl)) (by simp) (by simp)
    (by simp)
  have htext : dateText d.civil ++ "T00:00:00Z".toList = dateText d.civil ++ 'T' ::
      (['0', '0'] ++ ':' :: (['0', '0'] ++ ':' :: (['0', '0'] ++ ([] ++ ['Z'])))) := rfl
  rw [parse, trim_midnight, htext, ofTrimmed?, hread]
  rfl

/-- With any other year it is not: the text of the date begins with a sign. -/
lemma parse_midnight_eq_none {d : Date} (h : ¬ (0 ≤ d.year ∧ d.year ≤ 9999)) :
    parse ((date d).text ++ "T00:00:00Z") = none := by
  rw [parse, trim_midnight, ← Option.not_isSome_iff_eq_none, ofTrimmed?_isSome_iff]
  rintro (ht | hd)
  · obtain ⟨c, left, hcons, hc⟩ := ht.exists_cons
    have hyear : yearText d.civil.year = _ := if_neg h
    rw [dateText, hyear] at hcons
    have hsign : (if d.civil.year < 0 then '-' else '+') = c := (List.cons.inj hcons).1
    rw [← hsign] at hc
    split at hc <;> exact absurd hc (by decide)
  · exact hd.colon_not_mem (List.mem_append_right _ (by decide))

end Expiry

namespace Record

open Expiry

/-- Access depends on the expiry only by its instant. -/
lemma grantsAccessAt_eq (r : Record) (now : Instant) : r.grantsAccessAt now =
    (r.testbedAccess && ((parse r.validUntil).map instant).any now.before) := by
  rw [grantsAccessAt, expiry]
  cases parse r.validUntil <;> rfl

/-- **Access is granted strictly before the instant of an expiry** that can be read. -/
lemma grantsAccessAt_iff {r : Record} {now : Instant} :
    r.grantsAccessAt now = true ↔ r.testbedAccess = true ∧ ∃ e, parse r.validUntil = some e ∧
      toLex (now.seconds, now.nanos) < toLex (e.instant.seconds, e.instant.nanos) := by
  rw [grantsAccessAt, Bool.and_eq_true, expiry, Option.any_eq_true]
  simp only [Instant.before_iff]

/-- **Access is granted until the very instant that the expiry names.** A date names the first
second of its day in UTC, and a date-time the second on its clock less the offset, with its fraction
cut to nanoseconds; days are counted one by one from 1 January 1970. What is read is of one of these
forms. Access is granted exactly at the instants strictly before. So records whose expiries name the
same instant, in whichever offsets, answer alike, and so do a date and the first second of it, which
can be written exactly if the year has four digits.

**Proof sketch.** What each form is read as is known (`ofTrimmed?_eq_date_iff`,
`ofTrimmed?_eq_dateTime_iff`), and the day number of a date is its day count
(`Date.dayNumber_eq_dayCount`). An answer depends on the expiry only by its instant
(`grantsAccessAt_iff`). -/
theorem access_is_calendar_exact (r : Record) :
    let cs := trim r.validUntil.toList
    (∀ d, IsLooseDate cs d → (parse r.validUntil).map instant = some (startOfDay d)) ∧
    (∀ t, IsDateTime ['-', '\u2212'] cs t →
      (parse r.validUntil).map instant = some (t.named (fractionDigits cs))) ∧
    ((parse r.validUntil).isSome = true →
      (∃ d, IsLooseDate cs d) ∨ ∃ t, IsDateTime ['-', '\u2212'] cs t) ∧
    (∀ now, r.grantsAccessAt now = true ↔
      r.testbedAccess = true ∧ ∃ e, parse r.validUntil = some e ∧
        toLex (now.seconds, now.nanos) < toLex (e.instant.seconds, e.instant.nanos)) ∧
    (∀ r' : Record, r'.testbedAccess = r.testbedAccess →
      (parse r'.validUntil).map instant = (parse r.validUntil).map instant →
        ∀ now, r'.grantsAccessAt now = r.grantsAccessAt now) ∧
    ∀ d, IsLooseDate cs d → ∀ r' : Record, r'.testbedAccess = r.testbedAccess →
      r'.validUntil = (date d).text ++ "T00:00:00Z" →
        ((parse r'.validUntil).isSome = true ↔ 0 ≤ d.year ∧ d.year ≤ 9999) ∧
        ((parse r'.validUntil).isSome = true →
          ∀ now, r'.grantsAccessAt now = r.grantsAccessAt now) := by
  intro cs
  have hdate : ∀ d, IsLooseDate cs d → (parse r.validUntil).map instant = some (startOfDay d) := by
    intro d hd
    rw [parse, ofTrimmed?_eq_date_iff.mpr hd, Option.map_some, instant_date]
  have hsame : ∀ r' : Record, r'.testbedAccess = r.testbedAccess →
      (parse r'.validUntil).map instant = (parse r.validUntil).map instant →
        ∀ now, r'.grantsAccessAt now = r.grantsAccessAt now := by
    intro r' haccess hinstant now
    rw [grantsAccessAt_eq, grantsAccessAt_eq, haccess, hinstant]
  refine ⟨hdate, fun t ht => ?_, fun hread => ?_, fun now => grantsAccessAt_iff, hsame,
    fun d hd r' haccess htext => ?_⟩
  · rw [parse, ofTrimmed?_eq_dateTime_iff.mpr ⟨t, ht, rfl⟩, Option.map_some, instant_moment]
  · rcases ofTrimmed?_isSome_iff.mp hread with ht | hd
    · exact .inr ⟨_, ht⟩
    · exact .inl ⟨_, hd⟩
  · rw [htext]
    by_cases hyear : 0 ≤ d.year ∧ d.year ≤ 9999
    · have hread := parse_midnight hyear
      refine ⟨iff_of_true (by rw [hread]; rfl) hyear, fun _ => hsame r' haccess ?_⟩
      rw [hdate d hd, htext, hread, Option.map_some, instant_moment, named_midnight]
    · rw [parse_midnight_eq_none hyear]
      exact ⟨iff_of_false (by decide) hyear, fun h => absurd h (by decide)⟩

/-- A record that grants access until the given time. -/
def granting (text : String) : Record := ⟨"", false, false, true, text⟩

/-- The first of March 2000, after a leap day. -/
def firstOfMarch : Date := ⟨2000, 3, 1, by decide, by decide, by decide⟩

/-- The last second of 2016, a leap second. -/
def endOf2016 : Stamp := ⟨⟨2016, 12, 31, by decide, by decide, by decide⟩, 23, 59, 60, 0⟩

/-- A consent that ends on the first of March ends when it is half past six in the evening of the
leap day, five hours and a half to the west. One that ends in a leap second ends behind any other
fraction of second 59. -/
theorem access_ends_after_leap_day :
    (parse "2000-03-01").map instant = some ⟨951868800, 0⟩ ∧
    (∀ now, (granting "2000-02-29T18:30:00-05:30").grantsAccessAt now =
      (granting "2000-03-01").grantsAccessAt now) ∧
    (∀ now, (granting "2000-03-01T00:00:00Z").grantsAccessAt now =
      (granting "2000-03-01").grantsAccessAt now) ∧
    (parse "2016-12-31T23:59:60.5Z").map instant = some ⟨1483228799, 1500000000⟩ := by
  obtain ⟨hdate, -, -, -, hsame, hmidnight⟩ := access_is_calendar_exact (granting "2000-03-01")
  obtain ⟨-, htime, -⟩ := access_is_calendar_exact (granting "2016-12-31T23:59:60.5Z")
  have hday : IsLooseDate (trim "2000-03-01".toList) firstOfMarch :=
    ofTrimmed?_eq_date_iff.mp (by decide +kernel)
  have hleap : IsDateTime ['-', '\u2212'] (trim "2016-12-31T23:59:60.5Z".toList) endOf2016 := by
    have hzone : IsOffset ['-', '\u2212'] ['Z'] endOf2016.offset := .zulu (.inl rfl)
    have hform := IsDateTime.mk
      (isFullDate_dateText (by decide)) (by decide : 'T' ∈ _)
      (isNumeral_padded (by decide) (by decide)) (by decide)
      (isNumeral_padded (by decide) (by decide)) (by decide)
      (isNumeral_padded (by decide) (by decide)) (by decide)
      (.point (List.cons_ne_nil '5' []) (by simp)) hzone
    convert hform using 1
    decide +kernel
  exact ⟨(hdate _ hday).trans (by decide +kernel),
    hsame (granting "2000-02-29T18:30:00-05:30") rfl (by decide +kernel),
    (hmidnight _ hday (granting "2000-03-01T00:00:00Z") rfl (by decide +kernel)).2
      (by decide +kernel),
    (htime _ hleap).trans (by decide +kernel)⟩

end Record

end Consent
