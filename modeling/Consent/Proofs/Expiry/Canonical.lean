import Consent.Proofs.Expiry.Reading
import Consent.Proofs.Text.Trimming

set_option autoImplicit false

/-!
# Canonical texts are read back

The canonical text of a date has four digits of year, or a sign and at least four. That of a
date-time is the one of RFC 3339, with a fraction of three, six or nine digits, or none. Either is
read back as the expiry that it is the text of.

## Main definitions

* `Consent.Expiry.IsCanonical` — the form of canonical texts.

## Main results

* `Consent.Expiry.isLooseDate_dateText`, `Consent.Expiry.isDateTime_text` — what is written is of
  the forms that are read.
* `Consent.Expiry.canonical_text_is_read_back` — an expiry is read back from its canonical text.
-/

namespace Consent.Expiry

open Calendar Text

/-- The canonical form of an expiry: a calendar date, where a year that has not four digits has a
sign and at least four of them; or a date-time as RFC 3339 writes it, with a fraction of three, six
or nine digits, or none. -/
inductive IsCanonical : List Char → Expiry → Prop where
  | date {cs : List Char} {d : Date} (h : IsFullDate cs d) : IsCanonical cs (.date d)
  | signed {sign : Char} {y m d : List Char} {date : Date}
      (hyear : date.year < 0 ∨ 9999 < date.year) (hsign : sign = '-' ∨ sign = '+')
      (hy : IsYear (sign :: y) date.year) (hfour : 4 ≤ y.length) (hm : IsNumeral 2 2 m date.month)
      (hd : IsNumeral 2 2 d date.day) :
      IsCanonical (sign :: (y ++ '-' :: (m ++ '-' :: d))) (.date date)
  | dateTime {cs : List Char} {t : Stamp} (h : IsDateTime ['-'] cs t)
      (hplaces : (fractionDigits cs).length ∈ [0, 3, 6, 9]) :
      IsCanonical cs (.dateTime (t.moment (fractionDigits cs)))

/-! ### Dates -/

/-- A numeral with leading zeros is one of its width. -/
lemma isNumeral_padded {width n : Nat} (hwidth : 0 < width) (hn : n < 10 ^ width) :
    IsNumeral width width (Decimal.padded width n) n where
  digits _ := Decimal.isDigit_of_mem_padded
  least_le := (Decimal.length_padded hwidth hn).ge
  le_most := (Decimal.length_padded hwidth hn).le
  value_eq := Decimal.value_padded width n

/-- A year is written as one. -/
lemma isYear_yearText (year : Int) : IsYear (yearText year) year := by
  have hsigned : ∀ n : Nat, IsNumeral 1 (Decimal.padded 4 n).length (Decimal.padded 4 n) n :=
    fun n => ⟨fun _ => Decimal.isDigit_of_mem_padded,
      Nat.le_trans (by decide) (Decimal.le_length_padded 4 n), Nat.le_refl _,
      Decimal.value_padded 4 n⟩
  rw [yearText]
  split
  · rename_i h
    have hfour : IsNumeral 4 4 (Decimal.padded 4 year.toNat) year.toNat :=
      isNumeral_padded (by decide) (by omega)
    have hform := IsYear.plain (hfour.widen (by decide : 1 ≤ 4) (Nat.le_refl _))
    rwa [Int.toNat_of_nonneg h.1] at hform
  · split
    · rename_i hnegative
      have hform := IsYear.negative (hsigned year.natAbs)
      rwa [Int.ofNat_natAbs_of_nonpos (le_of_lt hnegative), neg_neg] at hform
    · rename_i hpositive
      have hform := IsYear.positive (hsigned year.natAbs)
      rwa [Int.natAbs_of_nonneg (not_lt.mp hpositive)] at hform

/-- The month and the day of a date have two digits. -/
lemma isNumeral_civil (d : Date) : IsNumeral 2 2 (Decimal.padded 2 d.month) d.month ∧
    IsNumeral 2 2 (Decimal.padded 2 d.day) d.day := by
  have hmonth := d.month_mem
  have hday := d.day_mem
  have hlength : daysInMonth d.year d.month ≤ 31 := by
    unfold daysInMonth
    repeat' split
    all_goals omega
  exact ⟨isNumeral_padded (by decide) (by omega), isNumeral_padded (by decide) (by omega)⟩

/-- **A date is written as a loose one.** -/
lemma isLooseDate_dateText (d : Date) : IsLooseDate (dateText d.civil) d := by
  have hnone : ∀ c ∈ ([] : List Char), isBlank c = true := List.forall_mem_nil _
  obtain ⟨hm, hd⟩ := isNumeral_civil d
  have hform := IsLooseDate.mk hnone hnone hnone (isYear_yearText d.year)
    (hm.widen (by decide : 1 ≤ 2) (Nat.le_refl _)) (hd.widen (by decide : 1 ≤ 2) (Nat.le_refl _))
  simpa [dateText, Date.civil] using hform

/-- A date of a year with four digits is written as a calendar date. -/
lemma isFullDate_dateText {d : Date} (h : 0 ≤ d.year ∧ d.year ≤ 9999) :
    IsFullDate (dateText d.civil) d := by
  obtain ⟨hm, hd⟩ := isNumeral_civil d
  have hy : IsNumeral 4 4 (Decimal.padded 4 d.year.toNat) d.year.toNat :=
    isNumeral_padded (by decide) (by omega)
  have hform := IsFullDate.mk hy (Int.toNat_of_nonneg h.1).symm hm hd
  simpa [dateText, Date.civil, yearText, h] using hform

/-- **A date is written in its canonical form.** -/
lemma isCanonical_dateText (d : Date) : IsCanonical (dateText d.civil) (.date d) := by
  by_cases h : 0 ≤ d.year ∧ d.year ≤ 9999
  · exact .date (isFullDate_dateText h)
  · obtain ⟨hm, hd⟩ := isNumeral_civil d
    have hy := isYear_yearText d.year
    rw [yearText, if_neg h] at hy
    have hform := IsCanonical.signed (by omega) (by split <;> simp) hy
      (Decimal.le_length_padded 4 _) hm hd
    have htext : dateText d.civil = yearText d.year ++ '-' :: Decimal.padded 2 d.month ++
        '-' :: Decimal.padded 2 d.day := rfl
    rw [htext, yearText, if_neg h]
    simpa only [List.append_assoc, List.cons_append] using hform

/-! ### Date-times -/

/-- Nanoseconds are written as nothing, or as a point and three, six or nine digits. -/
lemma fractionText_cases {nanos : Nat} (h : nanos < 1000000000) :
    nanos = 0 ∧ fractionText nanos = [] ∨
      ∃ width n, 0 < width ∧ width ∈ [0, 3, 6, 9] ∧ n < 10 ^ width ∧
        nanos * 10 ^ width = n * 10 ^ 9 ∧ fractionText nanos = '.' :: Decimal.padded width n := by
  rw [fractionText]
  split
  · rename_i hzero
    exact .inl ⟨hzero, rfl⟩
  · split
    · exact .inr ⟨3, nanos / 1000000, by decide, by decide, by omega, by omega, rfl⟩
    · split
      · exact .inr ⟨6, nanos / 1000, by decide, by decide, by omega, by omega, rfl⟩
      · exact .inr ⟨9, nanos, by decide, by decide, by omega, by omega, rfl⟩

/-- Nanoseconds are written as a fraction. -/
lemma isFraction_fractionText {nanos : Nat} (h : nanos < 1000000000) :
    IsFraction (fractionText nanos) := by
  rcases fractionText_cases h with ⟨-, htext⟩ | ⟨width, n, hwidth, -, -, -, htext⟩
  · rw [htext]
    exact .none
  · have hlength : 0 < (Decimal.padded width n).length :=
      Nat.lt_of_lt_of_le hwidth (Decimal.le_length_padded width n)
    rw [htext]
    exact .point (List.ne_nil_of_length_pos hlength) fun _ => Decimal.isDigit_of_mem_padded

/-- A fraction is written with three, six or nine digits, or none. -/
lemma length_fractionText {nanos : Nat} (h : nanos < 1000000000) :
    ((fractionText nanos).drop 1).length ∈ [0, 3, 6, 9] := by
  rcases fractionText_cases h with ⟨-, htext⟩ | ⟨width, n, hwidth, hplaces, hn, -, htext⟩
  · rw [htext]
    decide
  · rw [htext, List.drop_one, List.tail_cons, Decimal.length_padded hwidth hn]
    exact hplaces

/-- A fraction that is written denotes the nanoseconds. -/
lemma nanosOf_fractionText {nanos : Nat} (h : nanos < 1000000000) :
    nanosOf ((fractionText nanos).drop 1) = nanos := by
  rcases fractionText_cases h with ⟨hzero, htext⟩ | ⟨width, n, hwidth, -, hn, hscale, htext⟩
  · rw [htext, hzero]
    rfl
  · rw [htext, List.drop_one, List.tail_cons, nanosOf, Decimal.value_padded,
      Decimal.length_padded hwidth hn, ← hscale, Nat.mul_div_cancel _ (by positivity)]

/-- An offset of whole minutes below a day is written as one. -/
lemma isOffset_offsetText {minus : List Char} {zs : List Char} {offset : Int}
    (h : IsOffset minus zs offset) : IsOffset ['-'] (offsetText offset) offset := by
  have hrange : offset.natAbs % 60 = 0 ∧ offset.natAbs < 86400 := by
    cases h <;> omega
  have hhour : IsNumeral 2 2 (Decimal.padded 2 (offset.natAbs / 60 / 60)) _ :=
    isNumeral_padded (by decide) (by omega)
  have hminute : IsNumeral 2 2 (Decimal.padded 2 (offset.natAbs / 60 % 60)) _ :=
    isNumeral_padded (by decide) (by omega)
  rw [offsetText]
  split
  · have hform := IsOffset.west (List.mem_singleton_self '-') hhour hminute (by omega)
      (by omega)
    have hwest : -(3600 * ((offset.natAbs / 60 / 60 : Nat) : Int) +
        60 * ((offset.natAbs / 60 % 60 : Nat) : Int)) = offset := by omega
    rwa [hwest] at hform
  · have heast : 3600 * ((offset.natAbs / 60 / 60 : Nat) : Int) +
        60 * ((offset.natAbs / 60 % 60 : Nat) : Int) = offset := by omega
    have hform : IsOffset ['-'] _ _ := .east hhour hminute (by omega) (by omega)
    rwa [heast] at hform

/-- Nanoseconds of a fraction are below a second. -/
lemma nanosOf_lt {ds : List Char} (hds : ∀ c ∈ ds, c.isDigit = true) : nanosOf ds < 1000000000 := by
  rw [nanosOf, Nat.div_lt_iff_lt_mul (by positivity), Nat.mul_comm]
  exact Nat.mul_lt_mul_of_pos_left (Decimal.value_lt hds) (by decide)

/-- A date-time is read from a text with four digits of year. -/
lemma IsDateTime.year_mem {minus cs : List Char} {t : Stamp} (h : IsDateTime minus cs t) :
    0 ≤ t.date.year ∧ t.date.year ≤ 9999 := by
  obtain ⟨⟨hy, hyear, -, -⟩, -, -, -, -, -, -, -, -, -⟩ := h
  have hlt := Decimal.value_lt hy.digits
  rw [hy.value_eq, Nat.le_antisymm hy.le_most hy.least_le] at hlt
  omega

/-- **The moment that a date-time names is written as RFC 3339 has it**, with the fraction of its
nanoseconds. -/
lemma isDateTime_text {minus cs ds : List Char} {t : Stamp} (h : IsDateTime minus cs t)
    (hds : ∀ c ∈ ds, c.isDigit = true) :
    IsDateTime ['-'] (t.moment ds).text.toList t ∧
      fractionDigits (t.moment ds).text.toList = (fractionText (nanosOf ds)).drop 1 := by
  have hday := isFullDate_dateText h.year_mem
  obtain ⟨-, -, -, hhour, -, hminute, -, hsecond, -, hzs⟩ := h
  have hnanos := nanosOf_lt hds
  -- A leap second shows as second 60, and its fraction without the billion on top.
  have hshown : min t.second 59 + (t.moment ds).time.nanos / 1000000000 = t.second ∧
      (t.moment ds).time.nanos % 1000000000 = nanosOf ds := by
    simp only [Stamp.moment]
    split <;> omega
  have hh : IsNumeral 2 2 (Decimal.padded 2 t.hour) t.hour :=
    isNumeral_padded (by decide) (by omega)
  have hm : IsNumeral 2 2 (Decimal.padded 2 t.minute) t.minute :=
    isNumeral_padded (by decide) (by omega)
  have hs : IsNumeral 2 2 (Decimal.padded 2 t.second) t.second :=
    isNumeral_padded (by decide) (by omega)
  have hfs := isFraction_fractionText hnanos
  have hoffset := isOffset_offsetText hzs
  have htext : (t.moment ds).text.toList = dateText t.date.civil ++ 'T' ::
      (Decimal.padded 2 t.hour ++ ':' :: (Decimal.padded 2 t.minute ++ ':' ::
        (Decimal.padded 2 t.second ++ (fractionText (nanosOf ds) ++ offsetText t.offset)))) := by
    have hsecond' : (t.moment ds).time.second = min t.second 59 := rfl
    rw [LocalDateTime.text, String.toList_ofList, TimeOfDay.text, hsecond', hshown.1, hshown.2]
    simp only [List.append_assoc, List.cons_append]
    rfl
  rw [htext, fractionDigits_parts hday (by decide) hh hm hs hfs (hoffset.mono (by simp))]
  exact ⟨.mk hday (by decide) hh hhour hm hminute hs hsecond hfs hoffset, rfl⟩

/-! ### Reading canonical texts -/

/-- What canonical texts are made of. -/
def IsPlainChar (c : Char) : Prop := c.isDigit = true ∨ c ∈ ['-', '+', ':', '.', 'T']

/-- A numeral is made of digits. -/
lemma isPlainChar_padded (width n : Nat) : ∀ c ∈ Decimal.padded width n, IsPlainChar c :=
  fun _ hc => .inl (Decimal.isDigit_of_mem_padded hc)

/-- Parts of a text with a sign between them. -/
lemma isPlainChar_append {cs cs' : List Char} {sign : Char} (hcs : ∀ c ∈ cs, IsPlainChar c)
    (hsign : sign ∈ ['-', '+', ':', '.', 'T']) (hcs' : ∀ c ∈ cs', IsPlainChar c) :
    ∀ c ∈ cs ++ sign :: cs', IsPlainChar c := by
  intro c hc
  rcases List.mem_append.mp hc with hc | hc
  · exact hcs c hc
  · rcases List.mem_cons.mp hc with rfl | hc
    · exact .inr hsign
    · exact hcs' c hc

/-- A sign and a numeral. -/
lemma isPlainChar_signed {sign : Char} (hsign : sign ∈ ['-', '+', ':', '.', 'T']) (width n : Nat) :
    ∀ c ∈ sign :: Decimal.padded width n, IsPlainChar c :=
  isPlainChar_append (List.forall_mem_nil _) hsign (isPlainChar_padded width n)

/-- A date is written without blanks. -/
lemma isPlainChar_dateText (d : Civil) : ∀ c ∈ dateText d, IsPlainChar c := by
  have hyear : ∀ c ∈ yearText d.year, IsPlainChar c := by
    rw [yearText]
    split
    · exact isPlainChar_padded _ _
    · exact isPlainChar_signed (by split <;> decide) _ _
  exact isPlainChar_append (isPlainChar_append hyear (by decide) (isPlainChar_padded _ _))
    (by decide) (isPlainChar_padded _ _)

/-- A time of day is written without blanks. -/
lemma isPlainChar_timeText (t : TimeOfDay) : ∀ c ∈ t.text, IsPlainChar c := by
  have hclock := isPlainChar_append (isPlainChar_append (isPlainChar_padded 2 t.hour)
    (by decide : ':' ∈ _) (isPlainChar_padded 2 t.minute)) (by decide : ':' ∈ _)
    (isPlainChar_padded 2 (t.second + t.nanos / 1000000000))
  intro c hc
  rcases List.mem_append.mp hc with hc | hc
  · exact hclock c hc
  · have hnanos : t.nanos % 1000000000 < 1000000000 := Nat.mod_lt _ (by decide)
    rcases fractionText_cases hnanos with ⟨-, htext⟩ | ⟨width, n, -, -, -, -, htext⟩
    · rw [htext] at hc
      cases hc
    · rw [htext] at hc
      exact isPlainChar_signed (by decide) width n c hc

/-- Canonical texts are written without blanks. -/
lemma isPlainChar_text (e : Expiry) : ∀ c ∈ e.text.toList, IsPlainChar c := by
  cases e with
  | date d =>
    rw [text, String.toList_ofList]
    exact isPlainChar_dateText _
  | dateTime m =>
    rw [text, LocalDateTime.text, String.toList_ofList, offsetText, List.append_assoc]
    have hlocal := isPlainChar_append (isPlainChar_dateText m.date.civil) (by decide : 'T' ∈ _)
      (isPlainChar_timeText m.time)
    have hdigits := isPlainChar_append (isPlainChar_padded 2 (m.offset.natAbs / 60 / 60))
      (by decide : ':' ∈ _) (isPlainChar_padded 2 (m.offset.natAbs / 60 % 60))
    rw [← List.append_assoc]
    exact isPlainChar_append hlocal (by split <;> decide) hdigits

/-- None of these characters is blank. -/
lemma IsPlainChar.isBlank_eq_false {c : Char} (h : IsPlainChar c) : isBlank c = false := by
  rcases h with hdigit | hsign
  · exact isBlank_of_isDigit hdigit
  · simp only [List.mem_cons, List.not_mem_nil, or_false] at hsign
    rcases hsign with rfl | rfl | rfl | rfl | rfl <;> decide

/-- A canonical text is not changed by trimming. -/
lemma trim_text (e : Expiry) : trim e.text.toList = e.text.toList :=
  trim_of_not_blank fun c hc => (isPlainChar_text e c hc).isBlank_eq_false

/-- The digits behind a point are digits. -/
lemma isDigit_of_mem_fractionDigits (cs : List Char) : ∀ c ∈ fractionDigits cs, c.isDigit = true :=
  fun _ => List.mem_takeWhile_imp

/-- **An expiry is read back from its canonical text**, as the same date or as the same local
date-time with the same nanoseconds and offset. That text is of the canonical form. The blanks
around a text that is read do not matter.

**Proof sketch.** The text of a date is a date again (`isLooseDate_dateText`), and that of a
date-time names the same stamp and nanoseconds (`isDateTime_text`). No text is of both forms. -/
theorem canonical_text_is_read_back (s : String) :
    (∀ e, parse s = some e → IsCanonical e.text.toList e ∧ parse e.text = some e) ∧
    ∀ w w' : String, (∀ c ∈ w.toList, isBlank c = true) → (∀ c ∈ w'.toList, isBlank c = true) →
      parse (w ++ s ++ w') = parse s := by
  refine ⟨fun e h => ?_, fun w w' hw hw' => ?_⟩
  · rw [parse, trim_text]
    cases e with
    | date d =>
      rw [text, String.toList_ofList]
      exact ⟨isCanonical_dateText d, ofTrimmed?_eq_date_iff.mpr (isLooseDate_dateText d)⟩
    | dateTime m =>
      obtain ⟨t, ht, rfl⟩ := ofTrimmed?_eq_dateTime_iff.mp h
      obtain ⟨hform, hdigits⟩ := isDateTime_text ht (isDigit_of_mem_fractionDigits _)
      have hbelow := nanosOf_lt (isDigit_of_mem_fractionDigits (trim s.toList))
      have hsame : t.moment (fractionDigits
          (t.moment (fractionDigits (trim s.toList))).text.toList) =
            t.moment (fractionDigits (trim s.toList)) := by
        rw [Stamp.moment, hdigits, nanosOf_fractionText hbelow, ← Stamp.moment]
      have hcanonical := IsCanonical.dateTime hform (by
        rw [hdigits]
        exact length_fractionText hbelow)
      rw [hsame] at hcanonical
      exact ⟨hcanonical, ofTrimmed?_eq_dateTime_iff.mpr ⟨t, hform.mono (by simp), hsame⟩⟩
  · rw [parse, String.toList_append, String.toList_append, trim_blanks hw hw', ← parse]

/-- A leap second is written and read back, from a text with a lower-case separator, more than nine
digits of a fraction and a typographic minus sign. So is a date long before the calendar, from a
text with few digits and with blanks around it. -/
theorem leap_second_is_read_back :
    (parse "2016-12-31t23:59:60.1234567899\u221205:30").map text =
        some "2016-12-31T23:59:60.123456789-05:30" ∧
      (∀ e, parse "2016-12-31t23:59:60.1234567899\u221205:30" = some e → parse e.text = some e) ∧
      (parse "-44-3-15").map text = some "-0044-03-15" ∧
      parse ("\t" ++ "-44-3-15" ++ "\n ") = parse "-44-3-15" :=
  ⟨by decide +kernel,
    fun e he => ((canonical_text_is_read_back _).1 e he).2,
    by decide +kernel,
    (canonical_text_is_read_back "-44-3-15").2 "\t" "\n "
      (List.all_eq_true.mp (by decide +kernel)) (List.all_eq_true.mp (by decide +kernel))⟩

end Consent.Expiry
