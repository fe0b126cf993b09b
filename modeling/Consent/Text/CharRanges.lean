set_option autoImplicit false

/-!
# Sets of characters given by ranges

Properties of characters (white space, combining marks, …) are finite unions of intervals of
code points. This module says what it means for a character to lie in such a union.

## Main definitions

* `Consent.Text.Ranges` — a list of closed intervals of code points.
* `Consent.Text.Ranges.contains` — membership of a character.
-/

namespace Consent.Text

/-- Closed intervals `(first, last)` of code points. -/
abbrev Ranges := List (Nat × Nat)

/-- A character belongs to the set when one of the intervals holds its code point. -/
def Ranges.contains (ranges : Ranges) (c : Char) : Bool :=
  ranges.any fun (first, last) => first ≤ c.toNat && c.toNat ≤ last

/-- Membership is a bound on the code point, one interval at a time. -/
theorem Ranges.contains_iff (ranges : Ranges) (c : Char) :
    ranges.contains c = true ↔ ∃ r ∈ ranges, r.1 ≤ c.toNat ∧ c.toNat ≤ r.2 := by
  simp [Ranges.contains]

end Consent.Text
