import Consent.Proofs.Decimal.Digits
import Consent.Proofs.Expiry.Grammar
import Consent.Proofs.Text.Scanning
import Mathlib.Data.List.TakeWhile

set_option autoImplicit false

/-!
# Which expiries are read

The readers of numbers, signs, fractions and offsets read what the forms of an expiry are made of,
and nothing else. So a text is read as an expiry exactly if it is of one of the forms that are read.

## Main results

* `Consent.Expiry.number?_append` — a numeral is read off the front of a text.
* `Consent.Expiry.dateTime?_eq_some_iff`, `Consent.Expiry.date?_eq_some_iff` — what the readers of
  the two forms read, and as what.
* `Consent.Expiry.ofTrimmed?_isSome_iff` — what is read as an expiry.
-/

namespace Consent.Expiry

open Calendar Text

variable {least most n : Nat} {cs rest ds : List Char}

/-! ### Numbers and signs -/

/-- No digit comes first. -/
def Stops (rest : List Char) : Prop := ∀ c ∈ rest.head?, c.isDigit = false

/-- **A numeral is read off the front of a text**, if no digit follows or there is no room for
one. -/
lemma number?_append (hds : IsNumeral least most ds n) (hrest : ds.length = most ∨ Stops rest) :
    Decimal.number? least most (ds ++ rest) = some (n, rest) := by
  have hread : ((ds ++ rest).take most).takeWhile Char.isDigit = ds :=
    Scanner.takeWhile_take_append hds.digits hds.le_most hrest
  simp [Decimal.number?, hread, Nat.not_lt.mpr hds.least_le, hds.value_eq]

/-- A numeral of a fixed length is read off the front of a text, whatever follows. -/
lemma number?_fixed {width : Nat} (hds : IsNumeral width width ds n) :
    Decimal.number? width width (ds ++ rest) = some (n, rest) :=
  number?_append hds (.inl (Nat.le_antisymm hds.le_most hds.least_le))

/-- What is read as a number is a numeral. -/
lemma exists_isNumeral (h : Decimal.number? least most cs = some (n, rest)) :
    ∃ ds, cs = ds ++ rest ∧ IsNumeral least most ds n := by
  obtain ⟨ds, hcs, hvalue, hleast, hmost, hdigits⟩ := Decimal.number?_eq_some h
  exact ⟨ds, hcs, hdigits, hleast, hmost, hvalue.symm⟩

/-- One of some characters is read off the front of a text. -/
lemma oneOf?_eq_some_iff {accepted : List Char} :
    oneOf? accepted cs = some rest ↔ ∃ c ∈ accepted, cs = c :: rest := by
  cases cs with
  | nil => simp [oneOf?]
  | cons c cs =>
    rw [oneOf?]
    constructor
    · intro h
      split at h
      · rename_i hc
        exact ⟨c, hc, by rw [Option.some.inj h]⟩
      · cases h
    · rintro ⟨d, hd, heq⟩
      obtain ⟨rfl, rfl⟩ := List.cons.inj heq
      rw [if_pos hd]

/-- A given character is read off the front of a text. -/
lemma oneOf?_singleton_iff {c : Char} : oneOf? [c] cs = some rest ↔ cs = c :: rest := by
  simp [oneOf?_eq_some_iff]

/-! ### Fractions and offsets -/

/-- The first nine digits of a fraction are read as its nanoseconds. -/
lemma nanosOf_eq (hds : ∀ c ∈ ds, c.isDigit = true) :
    Decimal.value (ds.take 9) * Nat.pow 10 (9 - (ds.take 9).length) = nanosOf ds :=
  Decimal.value_take hds 9

/-- What is read as a fraction is one. -/
lemma exists_isFraction {nanos : Nat} (h : fraction? cs = some (nanos, rest)) :
    ∃ fs, cs = fs ++ rest ∧ IsFraction fs := by
  unfold fraction? at h
  split at h
  · rename_i left
    simp only [nanos?, Option.bind_eq_bind, Option.bind_eq_some_iff, Option.pure_def,
      Option.some.injEq, Prod.mk.injEq, Prod.exists] at h
    obtain ⟨n, after, hnumber, -, rfl⟩ := h
    obtain ⟨ds, rfl, hds⟩ := exists_isNumeral hnumber
    refine ⟨'.' :: (ds ++ after.takeWhile Char.isDigit), ?_, .point ?_ ?_⟩
    · rw [List.cons_append, List.append_assoc, List.takeWhile_append_dropWhile]
    · exact List.append_ne_nil_of_left_ne_nil (List.ne_nil_of_length_pos hds.least_le) _
    · intro c hc
      rcases List.mem_append.mp hc with hc | hc
      · exact hds.digits c hc
      · exact List.mem_takeWhile_imp hc
  · obtain ⟨-, rfl⟩ := Prod.mk.inj (Option.some.inj h)
    exact ⟨[], rfl, .none⟩

/-- A fraction is read as its nanoseconds, whatever follows that could not be part of it. -/
lemma fraction?_append {fs : List Char} (hfs : IsFraction fs)
    (hrest : ∃ c left, rest = c :: left ∧ c.isDigit = false ∧ c ≠ '.') :
    fraction? (fs ++ rest) = some (nanosOf (fs.drop 1), rest) := by
  obtain ⟨c, left, rfl, hdigit, hpoint⟩ := hrest
  cases hfs with
  | none =>
    rw [List.nil_append, fraction?]
    · rfl
    · rintro _ ⟨⟩
      exact hpoint rfl
  | @point ds hne hds =>
    -- The first nine digits are read, the others are skipped.
    have hfirst : IsNumeral 1 9 (ds.take 9) (Decimal.value (ds.take 9)) :=
      ⟨fun d hd => hds d (List.mem_of_mem_take hd), by
        have := List.length_pos_iff.mpr hne
        rw [List.length_take]
        omega, List.length_take_le _ _, rfl⟩
    have hroom : (ds.take 9).length = 9 ∨ Stops (ds.drop 9 ++ c :: left) := by
      rcases Nat.lt_or_ge ds.length 9 with hshort | hlong
      · rw [List.drop_of_length_le hshort.le]
        exact .inr fun d hd => Option.some.inj hd ▸ hdigit
      · exact .inl (List.length_take_of_le hlong)
    have hskip : (ds.drop 9 ++ c :: left).dropWhile Char.isDigit = c :: left := by
      rw [List.dropWhile_append_of_pos fun d hd => hds d (List.mem_of_mem_drop hd),
        List.dropWhile_cons_of_neg (by simp [hdigit])]
    have hread := number?_append hfirst hroom
    rw [← List.append_assoc, List.take_append_drop] at hread
    have hcount : (ds ++ c :: left).length - (ds.drop 9 ++ c :: left).length =
        (ds.take 9).length := by
      have hsum := congrArg List.length (List.take_append_drop 9 ds)
      simp only [List.length_append] at hsum ⊢
      omega
    rw [List.cons_append, fraction?, nanos?, hread]
    simp only [Option.bind_eq_bind, Option.bind_some, hcount, nanosOf_eq hds, hskip,
      List.drop_succ_cons, List.drop_zero]
    rfl

/-- An offset begins with a letter or a sign. -/
lemma IsOffset.exists_cons {zs : List Char} {offset : Int}
    (h : IsOffset ['-', '\u2212'] zs offset) :
    ∃ c left, zs = c :: left ∧ c.isDigit = false ∧ c ≠ '.' := by
  cases h with
  | zulu hz => exact ⟨_, _, rfl, by rcases hz with rfl | rfl <;> decide⟩
  | east => exact ⟨_, _, rfl, by decide⟩
  | @west sign _ _ _ _ hsign =>
    refine ⟨_, _, rfl, ?_⟩
    simp only [List.mem_cons, List.not_mem_nil, or_false] at hsign
    rcases hsign with rfl | rfl <;> decide

/-- An hour and a minute are read after a sign. -/
lemma offset?_signed {sign : Char} {h m : List Char} {hour minute : Nat}
    (hsign : sign ∈ ['+', '-', '\u2212']) (hh : IsNumeral 2 2 h hour)
    (hm : IsNumeral 2 2 m minute) (hminute : minute < 60) :
    offset? (sign :: (h ++ ':' :: (m ++ rest))) =
      some (if sign = '+' then (3600 * hour + 60 * minute : Int)
        else -(3600 * hour + 60 * minute), rest) := by
  have hother : ¬ (sign = 'Z' ∨ sign = 'z') ∧ (sign = '+' ∨ sign = '-' ∨ sign = '\u2212') := by
    simp only [List.mem_cons, List.not_mem_nil, or_false] at hsign
    rcases hsign with rfl | rfl | rfl <;> decide
  have hcolon : oneOf? [':'] (':' :: (m ++ rest)) = some (m ++ rest) :=
    oneOf?_singleton_iff.mpr rfl
  simp only [offset?, Bool.or_eq_true, decide_eq_true_eq, if_neg hother.1, or_assoc,
    if_pos hother.2, number?_fixed hh, hcolon, number?_fixed hm, Option.bind_eq_bind,
    Option.bind_some, if_neg (Nat.not_le.mpr hminute)]

/-- **An offset below a day is read exactly if it is one.** -/
lemma offset?_eq_some_iff {offset : Int} :
    (offset? cs = some (offset, rest) ∧ -86400 < offset ∧ offset < 86400) ↔
      ∃ zs, cs = zs ++ rest ∧ IsOffset ['-', '\u2212'] zs offset := by
  constructor
  · rintro ⟨h, hlower, hupper⟩
    cases cs with
    | nil => cases h
    | cons c cs =>
      rw [offset?] at h
      split at h
      · rename_i hz
        obtain ⟨rfl, rfl⟩ := Prod.mk.inj (Option.some.inj h)
        exact ⟨[c], rfl, .zulu (by simpa using hz)⟩
      · split at h
        · rename_i hsign
          simp only [Option.bind_eq_bind, Option.bind_eq_some_iff, Prod.exists] at h
          obtain ⟨hour, left, hhour, left', hcolon, minute, left'', hminute, h⟩ := h
          obtain ⟨hs, rfl, hhs⟩ := exists_isNumeral hhour
          obtain rfl := oneOf?_singleton_iff.mp hcolon
          obtain ⟨ms, rfl, hms⟩ := exists_isNumeral hminute
          split at h
          · cases h
          · rename_i hbelow
            obtain ⟨hsize, rfl⟩ := Prod.mk.inj (Option.some.inj h)
            refine ⟨c :: (hs ++ ':' :: ms), by simp, ?_⟩
            by_cases hplus : c = '+'
            · subst c
              rw [if_pos rfl] at hsize
              subst offset
              exact .east hhs hms (by omega) (by omega)
            · rw [if_neg hplus] at hsize
              subst offset
              exact .west (by simpa [hplus] using hsign) hhs hms (by omega) (by omega)
        · cases h
  · rintro ⟨zs, rfl, hzs⟩
    cases hzs with
    | zulu hz => rcases hz with rfl | rfl <;> exact ⟨rfl, by decide, by decide⟩
    | east hh hm hhour hminute =>
      simp only [List.cons_append, List.append_assoc]
      rw [offset?_signed List.mem_cons_self hh hm hminute, if_pos rfl]
      exact ⟨rfl, by omega, by omega⟩
    | @west sign _ _ _ _ hsign hh hm hhour hminute =>
      have hplus : sign ≠ '+' := by
        rintro rfl
        exact absurd hsign (by decide)
      simp only [List.cons_append, List.append_assoc]
      rw [offset?_signed (List.mem_cons_of_mem _ hsign) hh hm hminute, if_neg hplus]
      exact ⟨rfl, by omega, by omega⟩

/-! ### Digits behind the point -/

/-- A numeral is made of digits. -/
lemma IsNumeral.not_mem (h : IsNumeral least most ds n) {c : Char} (hc : c.isDigit = false) :
    c ∉ ds :=
  fun hmem => absurd (h.digits c hmem) (by simp [hc])

/-- A calendar date is made of digits and hyphens. -/
lemma IsFullDate.not_mem {d : Date} (h : IsFullDate cs d) {c : Char} (hc : c.isDigit = false)
    (hdash : c ≠ '-') : c ∉ cs := by
  obtain ⟨hy, -, hm, hd⟩ := h
  simp [hy.not_mem hc, hm.not_mem hc, hd.not_mem hc, hdash]

/-- There is no point in an offset. -/
lemma IsOffset.point_not_mem {zs : List Char} {offset : Int}
    (h : IsOffset ['-', '\u2212'] zs offset) : '.' ∉ zs := by
  cases h with
  | zulu hz => rcases hz with rfl | rfl <;> decide
  | east hh hm => simp [hh.not_mem (c := '.') rfl, hm.not_mem (c := '.') rfl]
  | @west sign _ _ _ _ hsign hh hm =>
    have hpoint : '.' ≠ sign := by
      rintro rfl
      exact absurd hsign (by decide)
    simp [hh.not_mem (c := '.') rfl, hm.not_mem (c := '.') rfl, hpoint]

/-- The digits behind the point are found, where one follows some text without a point. -/
lemma fractionDigits_append {front fs zs : List Char} (hfront : '.' ∉ front) (hfs : IsFraction fs)
    (hzs : '.' ∉ zs) (hrest : Stops zs) : fractionDigits (front ++ (fs ++ zs)) = fs.drop 1 := by
  have hskip : ∀ {cs : List Char}, '.' ∉ cs → ∀ c ∈ cs, decide (c ≠ '.') = true := by
    intro cs hcs c hc
    exact decide_eq_true fun heq => hcs (heq ▸ hc)
  rw [fractionDigits, List.dropWhile_append_of_pos (hskip hfront)]
  cases hfs with
  | none =>
    rw [List.nil_append, List.dropWhile_eq_nil_iff.mpr (hskip hzs)]
    rfl
  | @point ds hne hds =>
    have hend : zs.takeWhile Char.isDigit = [] := by
      cases zs with
      | nil => rfl
      | cons c left => exact List.takeWhile_cons_of_neg (by simp [hrest c rfl])
    rw [List.cons_append, List.dropWhile_cons_of_neg (by simp), List.drop_succ_cons,
      List.drop_zero, List.takeWhile_append_of_pos hds, hend, List.append_nil, List.drop_succ_cons,
      List.drop_zero]

/-! ### Date-times -/

/-- A time of day exists when its parts are in range, with second 60 for a leap second. -/
lemma timeOfDay?_eq_some_iff {hour minute second nanos : Nat} {time : TimeOfDay} :
    timeOfDay? hour minute second nanos = some time ↔
      (hour < 24 ∧ minute < 60 ∧ second ≤ 60) ∧
        ⟨hour, minute, min second 59, nanos + if second = 60 then 1000000000 else 0⟩ = time := by
  rw [timeOfDay?]
  split
  · rename_i h
    simp only [Bool.or_eq_true, decide_eq_true_eq] at h
    simp only [reduceCtorEq, false_iff, not_and]
    omega
  · rename_i h
    simp only [Bool.or_eq_true, decide_eq_true_eq] at h
    have hrange : hour < 24 ∧ minute < 60 ∧ second ≤ 60 := by omega
    split
    · rename_i hleap
      subst hleap
      simp [hrange, Nat.add_comm]
    · rename_i hplain
      have hmin : min second 59 = second := by omega
      simp [hrange, hmin]

section Parts

variable {day h m s fs zs : List Char} {sep : Char} {t : Stamp} (hday : IsFullDate day t.date)
  (hsep : sep ∈ ['T', 't', ' ']) (hh : IsNumeral 2 2 h t.hour) (hm : IsNumeral 2 2 m t.minute)
  (hs : IsNumeral 2 2 s t.second) (hfs : IsFraction fs)
  (hzs : IsOffset ['-', '\u2212'] zs t.offset)

include hday hsep hh hm hs hfs hzs

/-- The digits of the fraction of a date-time. -/
lemma fractionDigits_parts :
    fractionDigits (day ++ sep :: (h ++ ':' :: (m ++ ':' :: (s ++ (fs ++ zs))))) = fs.drop 1 := by
  have hpoint : '.' ≠ sep := by
    rintro rfl
    exact absurd hsep (by decide)
  have hfront : '.' ∉ day ++ sep :: (h ++ ':' :: (m ++ ':' :: s)) := by
    simp [hday.not_mem (c := '.') rfl (by decide), hpoint, hh.not_mem (c := '.') rfl,
      hm.not_mem (c := '.') rfl, hs.not_mem (c := '.') rfl]
  have hstops : Stops zs := by
    obtain ⟨c, left, rfl, hc, -⟩ := hzs.exists_cons
    exact fun d hd => Option.some.inj hd ▸ hc
  rw [← fractionDigits_append hfront hfs hzs.point_not_mem hstops]
  simp only [List.append_assoc, List.cons_append]

/-- A date-time is read as the moment that it names. -/
lemma dateTime?_parts (hhour : t.hour < 24) (hminute : t.minute < 60) (hsecond : t.second ≤ 60) :
    dateTime? (day ++ sep :: (h ++ ':' :: (m ++ ':' :: (s ++ (fs ++ zs))))) =
      some (t.moment (fs.drop 1)) := by
  obtain ⟨hys, hyear, hms, hds⟩ := hday
  obtain ⟨hoffset, hbelow⟩ := offset?_eq_some_iff.mpr ⟨_, (List.append_nil _).symm, hzs⟩
  have hclock := timeOfDay?_eq_some_iff.mpr
    ⟨⟨hhour, hminute, hsecond⟩, (rfl : (t.moment (fs.drop 1)).time = _)⟩
  have hdate := t.date.ofCivil?_self
  rw [hyear] at hdate
  simp only [List.append_assoc, List.cons_append]
  rw [dateTime?]
  refine Option.bind_eq_some_iff.mpr ⟨_, number?_fixed hys, ?_⟩
  refine Option.bind_eq_some_iff.mpr ⟨_, oneOf?_singleton_iff.mpr rfl, ?_⟩
  refine Option.bind_eq_some_iff.mpr ⟨_, number?_fixed hms, ?_⟩
  refine Option.bind_eq_some_iff.mpr ⟨_, oneOf?_singleton_iff.mpr rfl, ?_⟩
  refine Option.bind_eq_some_iff.mpr ⟨_, number?_fixed hds, ?_⟩
  refine Option.bind_eq_some_iff.mpr ⟨_, oneOf?_eq_some_iff.mpr ⟨_, hsep, rfl⟩, ?_⟩
  refine Option.bind_eq_some_iff.mpr ⟨_, number?_fixed hh, ?_⟩
  refine Option.bind_eq_some_iff.mpr ⟨_, oneOf?_singleton_iff.mpr rfl, ?_⟩
  refine Option.bind_eq_some_iff.mpr ⟨_, number?_fixed hm, ?_⟩
  refine Option.bind_eq_some_iff.mpr ⟨_, oneOf?_singleton_iff.mpr rfl, ?_⟩
  refine Option.bind_eq_some_iff.mpr ⟨_, number?_fixed hs, ?_⟩
  refine Option.bind_eq_some_iff.mpr ⟨_, fraction?_append hfs hzs.exists_cons, ?_⟩
  refine Option.bind_eq_some_iff.mpr ⟨_, hoffset, ?_⟩
  refine Option.bind_eq_some_iff.mpr ⟨_, hclock, ?_⟩
  refine Option.bind_eq_some_iff.mpr ⟨_, hdate, ?_⟩
  exact if_pos ⟨rfl, hbelow⟩

end Parts

/-- What is read as a date-time is one. -/
lemma exists_isDateTime {m : LocalDateTime} (h : dateTime? cs = some m) :
    ∃ t, IsDateTime ['-', '\u2212'] cs t := by
  rw [dateTime?] at h
  obtain ⟨⟨year, c₁⟩, hyear, h⟩ := Option.bind_eq_some_iff.mp h
  obtain ⟨c₂, hdash, h⟩ := Option.bind_eq_some_iff.mp h
  obtain ⟨⟨month, c₃⟩, hmonth, h⟩ := Option.bind_eq_some_iff.mp h
  obtain ⟨c₄, hdash', h⟩ := Option.bind_eq_some_iff.mp h
  obtain ⟨⟨day, c₅⟩, hday, h⟩ := Option.bind_eq_some_iff.mp h
  obtain ⟨c₆, hsep, h⟩ := Option.bind_eq_some_iff.mp h
  obtain ⟨⟨hour, c₇⟩, hhour, h⟩ := Option.bind_eq_some_iff.mp h
  obtain ⟨c₈, hcolon, h⟩ := Option.bind_eq_some_iff.mp h
  obtain ⟨⟨minute, c₉⟩, hminute, h⟩ := Option.bind_eq_some_iff.mp h
  obtain ⟨c₁₀, hcolon', h⟩ := Option.bind_eq_some_iff.mp h
  obtain ⟨⟨second, c₁₁⟩, hsecond, h⟩ := Option.bind_eq_some_iff.mp h
  obtain ⟨⟨nanos, c₁₂⟩, hnanos, h⟩ := Option.bind_eq_some_iff.mp h
  obtain ⟨⟨offset, c₁₃⟩, hoffset, h⟩ := Option.bind_eq_some_iff.mp h
  obtain ⟨time, htime, h⟩ := Option.bind_eq_some_iff.mp h
  obtain ⟨date, hdate, h⟩ := Option.bind_eq_some_iff.mp h
  obtain ⟨⟨hend, hbelow⟩, -⟩ := Option.ite_none_right_eq_some.mp h
  obtain rfl : c₁₃ = [] := List.isEmpty_iff.mp hend
  obtain ⟨ys, rfl, hys⟩ := exists_isNumeral hyear
  obtain rfl := oneOf?_singleton_iff.mp hdash
  obtain ⟨ms, rfl, hms⟩ := exists_isNumeral hmonth
  obtain rfl := oneOf?_singleton_iff.mp hdash'
  obtain ⟨ds, rfl, hds⟩ := exists_isNumeral hday
  obtain ⟨sep, hsep', rfl⟩ := oneOf?_eq_some_iff.mp hsep
  obtain ⟨hs, rfl, hhs⟩ := exists_isNumeral hhour
  obtain rfl := oneOf?_singleton_iff.mp hcolon
  obtain ⟨mins, rfl, hmins⟩ := exists_isNumeral hminute
  obtain rfl := oneOf?_singleton_iff.mp hcolon'
  obtain ⟨secs, rfl, hsecs⟩ := exists_isNumeral hsecond
  obtain ⟨fs, rfl, hfs⟩ := exists_isFraction hnanos
  obtain ⟨⟨hhour', hminute', hsecond'⟩, -⟩ := timeOfDay?_eq_some_iff.mp htime
  obtain ⟨hy, rfl, rfl⟩ := Date.ofCivil?_eq_some hdate
  obtain ⟨zs, rfl, hzs⟩ := offset?_eq_some_iff.mp ⟨hoffset, hbelow⟩
  have hform := IsDateTime.mk (t := ⟨date, hour, minute, second, offset⟩)
    (.mk hys hy hms hds) hsep' hhs hhour' hmins hminute' hsecs hsecond' hfs hzs
  simp only [List.append_assoc, List.cons_append] at hform
  exact ⟨_, by rwa [List.append_nil]⟩

/-- A date-time is read as the moment that it names, with the digits of its fraction. -/
lemma IsDateTime.read {t : Stamp} (h : IsDateTime ['-', '\u2212'] cs t) :
    dateTime? cs = some (t.moment (fractionDigits cs)) := by
  obtain ⟨hday, hsep, hh, hhour, hm, hminute, hs, hsecond, hfs, hzs⟩ := h
  rw [fractionDigits_parts hday hsep hh hm hs hfs hzs,
    dateTime?_parts hday hsep hh hm hs hfs hzs hhour hminute hsecond]

/-- **A text is read as a date-time exactly if it is one**, with any second 60, and as the moment
that it names. -/
lemma dateTime?_eq_some_iff {m : LocalDateTime} :
    dateTime? cs = some m ↔
      ∃ t, IsDateTime ['-', '\u2212'] cs t ∧ t.moment (fractionDigits cs) = m := by
  constructor
  · intro h
    obtain ⟨t, ht⟩ := exists_isDateTime h
    exact ⟨t, ht, Option.some.inj (ht.read.symm.trans h)⟩
  · rintro ⟨t, ht, rfl⟩
    exact ht.read

/-! ### Dates -/

/-- No digit is blank. -/
lemma isBlank_of_isDigit {c : Char} (h : c.isDigit = true) : isBlank c = false := by
  have hrange : 48 ≤ c.toNat ∧ c.toNat ≤ 57 := by
    simpa [Char.isDigit, Char.le_def, UInt32.le_iff_toNat_le] using h
  rw [isBlank, ← Bool.not_eq_true, Ranges.contains_iff]
  simp only [blankRanges, List.mem_cons, List.not_mem_nil, or_false, not_exists, not_and]
  rintro r hr hfirst hlast
  rcases hr with rfl | rfl | rfl | rfl | rfl | rfl | rfl | rfl | rfl | rfl <;> omega

/-- Blanks before a text that does not begin with one are dropped. -/
lemma trimStart_append {ws : List Char} {c : Char} (hws : ∀ c ∈ ws, isBlank c = true)
    (hc : isBlank c = false) : trimStart (ws ++ c :: cs) = c :: cs := by
  rw [trimStart, List.dropWhile_append_of_pos hws, List.dropWhile_cons_of_neg (by simp [hc])]

/-- A text is some blanks and what is left without them. -/
lemma exists_blanks (cs : List Char) :
    ∃ ws, cs = ws ++ trimStart cs ∧ ∀ c ∈ ws, isBlank c = true :=
  ⟨cs.takeWhile isBlank, List.takeWhile_append_dropWhile.symm, fun _ => List.mem_takeWhile_imp⟩

/-- A numeral begins with a digit. -/
lemma IsNumeral.exists_cons (h : IsNumeral least most ds n) (hleast : 0 < least) :
    ∃ c left, ds = c :: left ∧ c.isDigit = true := by
  cases ds with
  | nil => exact absurd (Nat.lt_of_lt_of_le hleast h.least_le) (Nat.lt_irrefl 0)
  | cons c left => exact ⟨c, left, rfl, h.digits c List.mem_cons_self⟩

/-- A calendar date begins with a digit. -/
lemma IsFullDate.exists_cons {d : Date} (h : IsFullDate cs d) :
    ∃ c left, cs = c :: left ∧ c.isDigit = true := by
  obtain ⟨hy, -, -, -⟩ := h
  obtain ⟨c, left, rfl, hc⟩ := hy.exists_cons (by decide)
  exact ⟨c, _, rfl, hc⟩

/-- A date-time begins with a digit. -/
lemma IsDateTime.exists_cons {minus : List Char} {t : Stamp} (h : IsDateTime minus cs t) :
    ∃ c left, cs = c :: left ∧ c.isDigit = true := by
  obtain ⟨hday, -, -, -, -, -, -, -, -, -⟩ := h
  obtain ⟨c, left, rfl, hc⟩ := hday.exists_cons
  exact ⟨c, _, rfl, hc⟩

/-- A numeral is read after blanks, if no digit follows. -/
lemma number?_trimStart {ws : List Char} (hws : ∀ c ∈ ws, isBlank c = true)
    (hds : IsNumeral least most ds n) (hleast : 0 < least) (hrest : Stops rest) :
    Decimal.number? least most (trimStart (ws ++ (ds ++ rest))) = some (n, rest) := by
  obtain ⟨c, left, rfl, hc⟩ := hds.exists_cons hleast
  rw [List.cons_append, trimStart_append hws (isBlank_of_isDigit hc), ← List.cons_append,
    number?_append hds (.inr hrest)]

/-- What is read as a year is one. -/
lemma exists_isYear {year : Int} (h : year? cs = some (year, rest)) :
    ∃ ys, cs = ys ++ rest ∧ IsYear ys year := by
  unfold year? at h
  split at h <;> obtain ⟨⟨n, after⟩, hnumber, heq⟩ := Option.map_eq_some_iff.mp h <;>
    obtain ⟨rfl, rfl⟩ := Prod.mk.inj heq <;> obtain ⟨ds, rfl, hds⟩ := exists_isNumeral hnumber
  · exact ⟨'-' :: ds, rfl, .negative ⟨hds.digits, hds.least_le, Nat.le_refl _, hds.value_eq⟩⟩
  · exact ⟨'+' :: ds, rfl, .positive ⟨hds.digits, hds.least_le, Nat.le_refl _, hds.value_eq⟩⟩
  · exact ⟨ds, rfl, .plain hds⟩

/-- A year is read after blanks, if no digit follows. -/
lemma year?_trimStart {ws ys : List Char} {year : Int} (hws : ∀ c ∈ ws, isBlank c = true)
    (hys : IsYear ys year) (hrest : Stops rest) :
    year? (trimStart (ws ++ (ys ++ rest))) = some (year, rest) := by
  have hsigned : ∀ {ds n}, IsNumeral 1 ds.length ds n →
      Decimal.number? 1 (ds ++ rest).length (ds ++ rest) = some (n, rest) := fun hds =>
    number?_append (hds.widen (Nat.le_refl _) (by simp)) (.inr hrest)
  cases hys with
  | @plain ds n hds =>
    obtain ⟨c, left, rfl, hc⟩ := hds.exists_cons (by decide)
    have hread := number?_append hds (.inr hrest)
    rw [List.cons_append] at hread ⊢
    rw [trimStart_append hws (isBlank_of_isDigit hc), year?, hread]
    · rfl
    · rintro _ heq
      obtain ⟨rfl, -⟩ := List.cons.inj heq
      exact absurd hc (by decide)
    · rintro _ heq
      obtain ⟨rfl, -⟩ := List.cons.inj heq
      exact absurd hc (by decide)
  | positive hds =>
    rw [List.cons_append, trimStart_append hws (by decide), year?, hsigned hds]
    rfl
  | negative hds =>
    rw [List.cons_append, trimStart_append hws (by decide), year?, hsigned hds]
    rfl

/-- **A text is read as a date exactly if it is a loose one.** -/
lemma date?_eq_some_iff {d : Date} : date? cs = some d ↔ IsLooseDate cs d := by
  constructor
  · intro h
    rw [date?] at h
    obtain ⟨⟨year, c₁⟩, hyear, h⟩ := Option.bind_eq_some_iff.mp h
    obtain ⟨c₂, hdash, h⟩ := Option.bind_eq_some_iff.mp h
    obtain ⟨⟨month, c₃⟩, hmonth, h⟩ := Option.bind_eq_some_iff.mp h
    obtain ⟨c₄, hdash', h⟩ := Option.bind_eq_some_iff.mp h
    obtain ⟨⟨day, c₅⟩, hday, h⟩ := Option.bind_eq_some_iff.mp h
    obtain ⟨hend, hdate⟩ := Option.ite_none_right_eq_some.mp h
    obtain rfl : c₅ = [] := List.isEmpty_iff.mp hend
    obtain ⟨hy, rfl, rfl⟩ := Date.ofCivil?_eq_some hdate
    obtain ⟨ys, hcs, hys⟩ := exists_isYear hyear
    obtain rfl := oneOf?_singleton_iff.mp hdash
    obtain ⟨ms, hc₂, hms⟩ := exists_isNumeral hmonth
    obtain rfl := oneOf?_singleton_iff.mp hdash'
    obtain ⟨ds, hc₄, hds⟩ := exists_isNumeral hday
    obtain ⟨ws, hsplit, hws⟩ := exists_blanks cs
    obtain ⟨ws', hsplit', hws'⟩ := exists_blanks c₂
    obtain ⟨ws'', hsplit'', hws''⟩ := exists_blanks c₄
    rw [hsplit, hcs, hsplit', hc₂, hsplit'', hc₄, List.append_nil]
    exact .mk hws hws' hws'' (hy ▸ hys) hms hds
  · rintro ⟨hws, hws', hws'', hys, hms, hds⟩
    have hstops : ∀ cs, Stops ('-' :: cs) := fun cs c hc => Option.some.inj hc ▸ rfl
    have hend : Stops [] := fun c hc => by cases hc
    have hday := number?_trimStart hws'' hds (by decide) hend
    rw [List.append_nil] at hday
    rw [date?]
    refine Option.bind_eq_some_iff.mpr ⟨_, year?_trimStart hws hys (hstops _), ?_⟩
    refine Option.bind_eq_some_iff.mpr ⟨_, oneOf?_singleton_iff.mpr rfl, ?_⟩
    refine Option.bind_eq_some_iff.mpr
      ⟨_, number?_trimStart hws' hms (by decide) (hstops _), ?_⟩
    refine Option.bind_eq_some_iff.mpr ⟨_, oneOf?_singleton_iff.mpr rfl, ?_⟩
    refine Option.bind_eq_some_iff.mpr ⟨_, hday, ?_⟩
    exact (if_pos rfl).trans d.ofCivil?_self

/-! ### Expiries -/

/-- There is no colon in a date. -/
lemma IsLooseDate.colon_not_mem {d : Date} (h : IsLooseDate cs d) : ':' ∉ cs := by
  have hblank : ∀ {ws : List Char}, (∀ c ∈ ws, isBlank c = true) → ':' ∉ ws := fun hws hmem =>
    absurd (hws _ hmem) (by decide)
  have hyear : ∀ {ys : List Char} {y : Int}, IsYear ys y → ':' ∉ ys := by
    rintro ys y (hds | hds | hds) <;> simp [hds.not_mem (c := ':') rfl]
  obtain ⟨hws, hws', hws'', hys, hms, hds⟩ := h
  simp [hblank hws, hblank hws', hblank hws'', hyear hys, hms.not_mem (c := ':') rfl,
    hds.not_mem (c := ':') rfl]

/-- There is a colon in a date-time: no text is of both forms. -/
lemma IsDateTime.not_isLooseDate {t : Stamp} (h : IsDateTime ['-', '\u2212'] cs t) {d : Date} :
    ¬ IsLooseDate cs d := by
  have hcolon : ':' ∈ cs := by
    obtain ⟨-, -, -, -, -, -, -, -, -, -⟩ := h
    simp
  exact fun hd => hd.colon_not_mem hcolon

/-- **A text is read as a date-time exactly if it is one.** -/
lemma ofTrimmed?_eq_dateTime_iff {m : LocalDateTime} :
    ofTrimmed? cs = some (.dateTime m) ↔
      ∃ t, IsDateTime ['-', '\u2212'] cs t ∧ t.moment (fractionDigits cs) = m := by
  rw [ofTrimmed?, ← dateTime?_eq_some_iff]
  cases dateTime? cs <;> simp

/-- **A text is read as a date exactly if it is a loose one.** -/
lemma ofTrimmed?_eq_date_iff {d : Date} : ofTrimmed? cs = some (.date d) ↔ IsLooseDate cs d := by
  rw [ofTrimmed?]
  cases hread : dateTime? cs with
  | some m =>
    obtain ⟨t, ht, -⟩ := dateTime?_eq_some_iff.mp hread
    exact iff_of_false (by simp) ht.not_isLooseDate
  | none => simp [date?_eq_some_iff]

/-- **A text is read as an expiry exactly if it is of one of the forms that are read.** -/
lemma ofTrimmed?_isSome_iff : (ofTrimmed? cs).isSome = true ↔ Readable cs := by
  constructor
  · intro h
    obtain ⟨e, he⟩ := Option.isSome_iff_exists.mp h
    cases e with
    | date d => exact .date (ofTrimmed?_eq_date_iff.mp he)
    | dateTime m =>
      obtain ⟨t, ht, -⟩ := ofTrimmed?_eq_dateTime_iff.mp he
      exact .dateTime ht
  · rintro (ht | hd)
    · exact Option.isSome_iff_exists.mpr ⟨_, ofTrimmed?_eq_dateTime_iff.mpr ⟨_, ht, rfl⟩⟩
    · exact Option.isSome_iff_exists.mpr ⟨_, ofTrimmed?_eq_date_iff.mpr hd⟩

end Consent.Expiry
