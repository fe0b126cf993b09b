import Consent.Decimal.Binary64
import Consent.Decimal.Numeral

set_option autoImplicit false

/-!
# The shortest decimal that reads back

A binary number is written with the fewest decimal digits that no other binary number is nearer
to, and, among those, with the digits nearest to it.

The digits are found on one decimal grid after the other, from one digit to seventeen: a grid
qualifies when one of the two grid points beside the number lies in the interval of reals that
round to the number.

## Main definitions

* `Consent.Decimal.Magnitude.shortest` — the digits and the power of ten behind them.
* `Consent.Decimal.Binary64.text` — positional from `10⁻⁵` up to `10¹⁶`, else with an exponent.
-/

namespace Consent.Decimal

namespace Magnitude

/-- A positive number and the interval of reals that round to it, over one denominator. -/
structure Neighbourhood where
  /-- Numerator of the lower end. -/
  low : Nat
  /-- Numerator of the number. -/
  mid : Nat
  /-- Numerator of the upper end. -/
  high : Nat
  /-- The common denominator. -/
  den : Nat
  /-- Whether the ends round to the number too. -/
  closed : Bool

/-- The interval of reals that round to a magnitude. It reaches half way to the neighbours; below a
power of two the neighbour is half as far away. -/
def neighbourhood (x : Magnitude) : Neighbourhood :=
  let gapBelow := if x.mantissa = Nat.pow 2 52 && leastExponent < x.exponent then 1 else 2
  let e := x.exponent - 2
  let up := Nat.pow 2 e.toNat
  ⟨(4 * x.mantissa - gapBelow) * up, 4 * x.mantissa * up, (4 * x.mantissa + 2) * up,
    Nat.pow 2 (-e).toNat, x.mantissa % 2 = 0⟩

/-- Whether `c · 10 ^ p` rounds to the number. -/
def Neighbourhood.holds (v : Neighbourhood) (c : Nat) (p : Int) : Bool :=
  let x := c * Nat.pow 10 p.toNat * v.den
  let scale := Nat.pow 10 (-p).toNat
  if v.closed then v.low * scale ≤ x && x ≤ v.high * scale
  else v.low * scale < x && x < v.high * scale

/-- The power of ten of the leading digit: the greatest `k` with `10 ^ k` at most the number. -/
def Neighbourhood.leading (v : Neighbourhood) : Int :=
  let fits (k : Int) : Bool := Nat.pow 10 k.toNat * v.den ≤ v.mid * Nat.pow 10 (-k).toNat
  (((List.range 634).map fun (i : Nat) => 309 - (i : Int)).find? fits).getD (-324)

/-- The grid point of `10 ^ p` that rounds to the number and is nearest to it, the even one of two
equally near. -/
def Neighbourhood.onGrid? (v : Neighbourhood) (p : Int) : Option Nat :=
  let num := v.mid * Nat.pow 10 (-p).toNat
  let den := v.den * Nat.pow 10 p.toNat
  let c := num / den
  let r := num % den
  let upFirst := den < 2 * r || (2 * r = den && c % 2 = 1)
  let (first, second) := if upFirst then (c + 1, c) else (c, c + 1)
  if v.holds first p then some first else if v.holds second p then some second else none

/-- The digits of a positive number as a natural number, and the power of ten that it is multiplied
by. -/
def shortest (x : Magnitude) : Nat × Int :=
  let v := x.neighbourhood
  let top := v.leading
  ((List.range 17).findSome? fun (i : Nat) =>
    let p := top - i
    (v.onGrid? p).map (·, p)).getD (v.mid / v.den, 0)

/-- The digits of a number without trailing zeros, and the power of ten of the first digit. -/
def shortestDigits (x : Magnitude) : List Char × Int :=
  let (c, p) := x.shortest
  let ds := digits c
  let kept := (ds.reverse.dropWhile (· = '0')).reverse
  (kept, p + ds.length - 1)

/-- A positive number in positional notation, with a digit on each side of the point. -/
def positional (ds : List Char) (top : Int) : List Char :=
  if 0 ≤ top then
    let whole := top.toNat + 1
    let fraction := ds.drop whole
    ds.take whole ++ List.replicate (whole - ds.length) '0' ++ '.' ::
      (if fraction.isEmpty then ['0'] else fraction)
  else ['0', '.'] ++ List.replicate ((-top).toNat - 1) '0' ++ ds

/-- A positive number with an exponent that always has a sign. -/
def scientific (ds : List Char) (top : Int) : List Char :=
  let fraction := ds.drop 1
  ds.take 1 ++ (if fraction.isEmpty then [] else '.' :: fraction) ++ 'e' ::
    (if top < 0 then '-' else '+') :: digits top.natAbs

end Magnitude

/-- The text of a number: positional from `10⁻⁵` up to `10¹⁶`, else with an exponent. -/
def Binary64.text (x : Binary64) : String :=
  let body :=
    if x.magnitude.mantissa = 0 then ['0', '.', '0']
    else
      let (ds, top) := x.magnitude.shortestDigits
      if -5 ≤ top && top ≤ 15 then Magnitude.positional ds top
      else Magnitude.scientific ds top
  String.ofList (if x.negative then '-' :: body else body)

end Consent.Decimal
