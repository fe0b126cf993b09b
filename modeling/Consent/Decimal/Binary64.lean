set_option autoImplicit false

/-!
# Rounding to binary64

Numbers with a fraction or an exponent are kept as the nearest binary floating-point number of
64 bits. Here such a number is an exact integer multiple of a power of two, and arithmetic on it
is exact arithmetic on natural numbers followed by one rounding step, `Magnitude.ofRatio?`.

## Main definitions

* `Consent.Decimal.Magnitude` — a finite non-negative number `mantissa · 2 ^ exponent`.
* `Consent.Decimal.Magnitude.ofRatio?` — the magnitude nearest to a fraction.
* `Consent.Decimal.Magnitude.mul?`, `Consent.Decimal.Magnitude.div?` — rounded product and
  quotient.
* `Consent.Decimal.Magnitude.scale?` — a number times a power of ten, as a reader of decimal
  notation approximates it.
* `Consent.Decimal.Binary64` — a magnitude with a sign.
-/

namespace Consent.Decimal

/-- The finite non-negative number `mantissa · 2 ^ exponent`. -/
structure Magnitude where
  /-- Below `2 ^ 53`, and from `2 ^ 52` on unless the exponent is the least. -/
  mantissa : Nat
  /-- From `-1074` to `971`. -/
  exponent : Int
deriving DecidableEq, Repr

/-- A finite number with a sign; zero has two. -/
structure Binary64 where
  /-- Whether the sign is minus. -/
  negative : Bool
  /-- The absolute value. -/
  magnitude : Magnitude
deriving DecidableEq, Repr

namespace Magnitude

/-- The least exponent. -/
def leastExponent : Int := -1074

/-- The greatest exponent. -/
def greatestExponent : Int := 971

/-- Zero. -/
def zero : Magnitude := ⟨0, leastExponent⟩

/-- The fraction `num / den` divided by `2 ^ e`, as a fraction. -/
def shiftRatio (num den : Nat) (e : Int) : Nat × Nat :=
  if 0 ≤ e then (num, den * Nat.pow 2 e.toNat) else (num * Nat.pow 2 (-e).toNat, den)

/-- The natural number nearest to a fraction, the even one of two equally near. -/
def roundHalfEven (num den : Nat) : Nat :=
  let q := num / den
  let r := num % den
  if den < 2 * r || (2 * r = den && q % 2 = 1) then q + 1 else q

/-- The magnitude nearest to a fraction with a positive denominator, the one with an even
mantissa of two equally near, and nothing beyond the greatest magnitude. -/
def ofRatio? (num den : Nat) : Option Magnitude :=
  if num = 0 then some zero
  else
    let guess : Int := (num.log2 : Int) - den.log2 - 53
    let (n, d) := shiftRatio num den guess
    let e := max (if n / d < Nat.pow 2 53 then guess else guess + 1) leastExponent
    let (n, d) := shiftRatio num den e
    let m := roundHalfEven n d
    let rounded : Magnitude := if m = Nat.pow 2 53 then ⟨Nat.pow 2 52, e + 1⟩ else ⟨m, e⟩
    if greatestExponent < rounded.exponent then none else some rounded

/-- A magnitude as a fraction. -/
def toRatio (x : Magnitude) : Nat × Nat :=
  if 0 ≤ x.exponent then (x.mantissa * Nat.pow 2 x.exponent.toNat, 1)
  else (x.mantissa, Nat.pow 2 (-x.exponent).toNat)

/-- The rounded product. -/
def mul? (x y : Magnitude) : Option Magnitude :=
  let (a, b) := x.toRatio
  let (c, d) := y.toRatio
  ofRatio? (a * c) (b * d)

/-- The rounded quotient by a magnitude that is not zero. -/
def div? (x y : Magnitude) : Option Magnitude :=
  let (a, b) := x.toRatio
  let (c, d) := y.toRatio
  ofRatio? (a * d) (b * c)

/-- The largest power of ten that is multiplied or divided by in one step. -/
def largestStep : Nat := 308

/-- A number divided by `10 ^ k`, in steps of at most `10 ^ 308`. A quotient is never too large. -/
def scaleDown (x : Magnitude) (k : Nat) : Magnitude :=
  if x.mantissa = 0 then zero
  else if k ≤ largestStep then
    (((ofRatio? (Nat.pow 10 k) 1).bind x.div?).getD zero)
  else
    scaleDown (((ofRatio? (Nat.pow 10 largestStep) 1).bind x.div?).getD zero) (k - largestStep)
termination_by k
decreasing_by simp only [largestStep] at *; omega

/-- A number times `10 ^ e`, each step rounded; nothing when it is too large. -/
def scale? (x : Magnitude) (e : Int) : Option Magnitude :=
  if 0 ≤ e then
    if x.mantissa = 0 then some zero
    else if e.toNat ≤ largestStep then (ofRatio? (Nat.pow 10 e.toNat) 1).bind x.mul?
    else none
  else some (x.scaleDown (-e).toNat)

end Magnitude

end Consent.Decimal
