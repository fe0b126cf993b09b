set_option autoImplicit false

/-!
# Decimal numerals

Numbers as the digits that dates, ports and counts are written with.

## Main definitions

* `Consent.Decimal.digits` — the numeral of a natural number.
* `Consent.Decimal.padded` — the same with leading zeros up to a width.
* `Consent.Decimal.value` — the number that some digits denote.
* `Consent.Decimal.number?` — reads a run of digits of bounded length from the front of a text.

## Main results

* `Consent.Decimal.value_digits` — the numeral of a number denotes it.
* `Consent.Decimal.number?_eq_some` — a number read leaves the text after its digits.
-/

namespace Consent.Decimal

/-- The numeral of a natural number. -/
def digits (n : Nat) : List Char := Nat.toDigits 10 n

/-- The numeral of a natural number, with leading zeros up to the given width. -/
def padded (width n : Nat) : List Char :=
  List.replicate (width - (digits n).length) '0' ++ digits n

/-- The number that some digits denote, the first one the most significant. -/
def value (ds : List Char) : Nat := Nat.ofDigitChars 10 ds 0

/-- The numeral of a number denotes it. -/
theorem value_digits (n : Nat) : value (digits n) = n :=
  Nat.ofDigitChars_toDigits (by decide) (by decide)

/-- Leading zeros do not matter. -/
theorem value_padded (width n : Nat) : value (padded width n) = n := by
  unfold value padded
  rw [Nat.ofDigitChars_append, Nat.ofDigitChars_replicate_zero, Nat.mul_zero]
  exact value_digits n

/-- A numeral is made of digits. -/
theorem isDigit_of_mem_digits {n : Nat} {c : Char} (h : c ∈ digits n) : c.isDigit = true :=
  Nat.isDigit_of_mem_toDigits (by decide) (by decide) h

/-- Reads the digits at the front of a text, at least `least` of them and at most `most`. -/
def number? (least most : Nat) (cs : List Char) : Option (Nat × List Char) :=
  let ds := (cs.take most).takeWhile Char.isDigit
  if ds.length < least then none else some (value ds, cs.drop ds.length)

/-- A numeral that is read stands in front of what is left of the text. -/
theorem number?_eq_some {least most : Nat} {cs rest : List Char} {n : Nat}
    (h : number? least most cs = some (n, rest)) :
    ∃ ds, cs = ds ++ rest ∧ n = value ds ∧ least ≤ ds.length ∧ ds.length ≤ most ∧
      ∀ c ∈ ds, c.isDigit = true := by
  simp only [number?] at h
  split at h
  · simp at h
  · obtain ⟨rfl, rfl⟩ : _ ∧ _ := by simpa using h
    refine ⟨(cs.take most).takeWhile Char.isDigit, ?_, rfl, by omega, ?_, ?_⟩
    · have pre : (cs.take most).takeWhile Char.isDigit <+: cs :=
        (List.takeWhile_prefix _).trans (List.take_prefix _ _)
      exact (List.prefix_iff_eq_append.1 pre).symm
    · calc ((cs.take most).takeWhile Char.isDigit).length
          ≤ (cs.take most).length := (List.takeWhile_prefix _).length_le
        _ ≤ most := List.length_take_le most cs
    · intro c hc
      exact List.all_eq_true.1 (List.all_takeWhile (p := Char.isDigit)) c hc

end Consent.Decimal
