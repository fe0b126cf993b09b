import Consent.Decimal.Numeral
import Mathlib.Data.Nat.Digits.Defs
import Mathlib.Tactic.Lemma

set_option autoImplicit false

/-!
# Digits and what they denote

Digits that are put together or cut off, and digits with leading zeros.

## Main results

* `Consent.Decimal.value_append` — digits put together.
* `Consent.Decimal.value_take` — the first digits of a fraction, scaled to a number of places.
* `Consent.Decimal.length_padded` — a numeral with leading zeros has the width that it is given.
-/

namespace Consent.Decimal

/-- Digits denote the first ones of them, times a power of ten, and the others. -/
lemma value_append (ds es : List Char) :
    value (ds ++ es) = value ds * 10 ^ es.length + value es := by
  rw [value, Nat.ofDigitChars_append, Nat.ofDigitChars_eq_ofDigitChars_zero, ← value, ← value]
  ring

/-- What some digits denote has no more digits than they are. -/
lemma value_lt {ds : List Char} (hds : ∀ c ∈ ds, c.isDigit = true) : value ds < 10 ^ ds.length := by
  induction ds with
  | nil => decide
  | cons c ds ih =>
    obtain ⟨hc, hds⟩ := List.forall_mem_cons.mp hds
    have hdigit : value [c] ≤ 9 := by
      have hrange : 48 ≤ c.toNat ∧ c.toNat ≤ 57 := by
        simpa [Char.isDigit, Char.le_def, UInt32.le_iff_toNat_le] using hc
      have hvalue : value [c] = c.toNat - 48 := by simp [value, Nat.ofDigitChars]
      omega
    have hrest := ih hds
    have hsplit := value_append [c] ds
    rw [List.singleton_append] at hsplit
    rw [hsplit, List.length_cons, pow_succ]
    nlinarith

/-- **The first digits behind a point, scaled to a number of places**, denote what all of them do,
cut off behind these places. -/
lemma value_take {ds : List Char} (hds : ∀ c ∈ ds, c.isDigit = true) (places : Nat) :
    value (ds.take places) * 10 ^ (places - (ds.take places).length) =
      value ds * 10 ^ places / 10 ^ ds.length := by
  rcases Nat.le_total ds.length places with hshort | hlong
  · rw [List.take_of_length_le hshort]
    have hscale : 10 ^ places = 10 ^ (places - ds.length) * 10 ^ ds.length := by
      rw [← pow_add, Nat.sub_add_cancel hshort]
    rw [hscale, ← Nat.mul_assoc, Nat.mul_div_cancel _ (by positivity)]
  · have hrest : value (ds.drop places) < 10 ^ (ds.length - places) := by
      rw [← List.length_drop]
      exact value_lt fun c hc => hds c (List.mem_of_mem_drop hc)
    have hscale : 10 ^ ds.length = 10 ^ (ds.length - places) * 10 ^ places := by
      rw [← pow_add, Nat.sub_add_cancel hlong]
    have hsplit : value ds =
        value (ds.take places) * 10 ^ (ds.length - places) + value (ds.drop places) := by
      rw [← List.length_drop, ← value_append, List.take_append_drop]
    rw [List.length_take_of_le hlong, Nat.sub_self, pow_zero, Nat.mul_one, hscale,
      Nat.mul_div_mul_right _ _ (by positivity), hsplit, Nat.mul_comm (value _),
      Nat.mul_add_div (by positivity), Nat.div_eq_of_lt hrest, Nat.add_zero]

/-- A numeral with leading zeros is made of digits. -/
lemma isDigit_of_mem_padded {width n : Nat} {c : Char} (h : c ∈ padded width n) :
    c.isDigit = true := by
  rcases List.mem_append.mp h with h | h
  · rw [(List.mem_replicate.mp h).2]
    rfl
  · exact isDigit_of_mem_digits h

/-- **A numeral with leading zeros has the width that it is given**, if there is room for it. -/
lemma length_padded {width n : Nat} (hwidth : 0 < width) (hn : n < 10 ^ width) :
    (padded width n).length = width := by
  have hroom : (digits n).length ≤ width := Nat.toDigits_length 10 n width hwidth hn
  rw [padded, List.length_append, List.length_replicate, Nat.sub_add_cancel hroom]

/-- A numeral with leading zeros has at least the width that it is given. -/
lemma le_length_padded (width n : Nat) : width ≤ (padded width n).length := by
  rw [padded, List.length_append, List.length_replicate]
  omega

end Consent.Decimal
