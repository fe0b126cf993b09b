import Consent.Calendar.Date
import Consent.Decimal.Binary64
import Consent.Decimal.Numeral
import Consent.Toml.Item
import Consent.Toml.Literal

set_option autoImplicit false

/-!
# Reading numbers and dates

Integers have 64 bits and a sign, and are written in decimal or, without sign, in hexadecimal,
octal or binary. A float has a fraction or an exponent, or is infinite or no number at all; one
that is too large is refused. Single underscores may stand between digits.

Of floats, dates and times only the form is checked.

## Main definitions

* `Consent.Toml.integer`, `Consent.Toml.float`, `Consent.Toml.dateTime`.
* `Consent.Toml.number` — whichever of them is there.
-/

namespace Consent.Toml

open Text

/-- Digits, between which single underscores may stand. -/
def digitsOf (isDigit : Char → Bool) : Scanner (List Char) := fun cs =>
  (Scanner.separated (Scanner.char '_') (Scanner.run isDigit) cs).map fun (groups, rest) =>
    (groups.flatten, rest)

/-- A sign, if there is one: whether it is a minus. -/
def sign : Scanner Bool
  | '-' :: rest => some (true, rest)
  | '+' :: rest => some (false, rest)
  | cs => some (false, cs)

/-- Decimal digits of an integer; zero is written with one digit, and no other number starts with
it. -/
def decimalDigits : Scanner (List Char) := fun cs => do
  let (ds, rest) ← digitsOf Char.isDigit cs
  if ds.head? = some '0' && ds ≠ ['0'] then none else some (ds, rest)

/-- An integer of 64 bits. -/
def inRange (n : Int) : Option Int :=
  let limit := Int.ofNat (Nat.pow 2 63)
  if -limit ≤ n && n < limit then some n else none

/-- An integer in decimal. -/
def decimalInteger : Scanner Int := fun cs => do
  let (negative, cs) ← sign cs
  let (ds, cs) ← decimalDigits cs
  let n : Int := Decimal.value ds
  let n ← inRange (if negative then -n else n)
  return (n, cs)

/-- An integer in another base, behind a mark. -/
def integerIn (base : Nat) (mark : List Char) : Scanner Int := fun cs => do
  let (_, cs) ← Scanner.word mark cs
  let (ds, cs) ← digitsOf (fun c => isHexDigit c && hexValue c < base) cs
  let n ← inRange (valueIn base ds)
  return (n, cs)

/-- An integer. -/
def integer : Scanner Int :=
  Scanner.orElse (integerIn 16 ['0', 'x']) (Scanner.orElse (integerIn 8 ['0', 'o'])
    (Scanner.orElse (integerIn 2 ['0', 'b']) decimalInteger))

/-- The digits of a fraction, if there is one. -/
def fraction? : Scanner (List Char)
  | '.' :: rest => digitsOf Char.isDigit rest
  | cs => some ([], cs)

/-- An exponent, if there is one. -/
def exponent? : Scanner (Option Int)
  | [] => some (none, [])
  | c :: rest =>
    if c = 'e' || c = 'E' then do
      let (negative, cs) ← sign rest
      let (ds, cs) ← digitsOf Char.isDigit cs
      let n : Int := Decimal.value ds
      return (some (if negative then -n else n), cs)
    else some (none, c :: rest)

/-- Whether some digits times a power of ten are within the range of finite numbers. Only a number
of 309 digits takes a closer look. -/
def isFinite (ds : List Char) (e : Int) : Bool :=
  let significant := ds.dropWhile (· = '0')
  let order := significant.length + e
  if significant.isEmpty || order ≤ 308 then true
  else if 310 ≤ order then false
  else
    let n := Decimal.value significant
    (Decimal.Magnitude.ofRatio? (n * Nat.pow 10 e.toNat) (Nat.pow 10 (-e).toNat)).isSome

/-- A float that is written with digits. -/
def decimalFloat : Scanner Unit := fun cs => do
  let (negative, cs) ← sign cs
  let (whole, cs) ← decimalDigits cs
  let (fraction, cs) ← fraction? cs
  let (e, cs) ← exponent? cs
  if fraction.isEmpty && e.isNone then none
  else if negative || isFinite (whole ++ fraction) (e.getD 0 - fraction.length) then some ((), cs)
  else none

/-- A float that is written with letters. -/
def namedFloat : Scanner Unit := fun cs => do
  let (_, cs) ← sign cs
  Scanner.orElse (Scanner.word ['i', 'n', 'f']) (Scanner.word ['n', 'a', 'n']) cs

/-- A float. -/
def float : Scanner Unit := Scanner.orElse decimalFloat namedFloat

/-- A number of two digits up to a bound. -/
def twoDigits (bound : Nat) : Scanner Nat := fun cs => do
  let (n, cs) ← Decimal.number? 2 2 cs
  if n ≤ bound then some (n, cs) else none

/-- A date that exists. -/
def fullDate : Scanner Unit := fun cs => do
  let (year, cs) ← Decimal.number? 4 4 cs
  let (_, cs) ← Scanner.char '-' cs
  let (month, cs) ← twoDigits 12 cs
  let (_, cs) ← Scanner.char '-' cs
  let (day, cs) ← twoDigits 31 cs
  if (Calendar.Date.ofCivil? year month day).isSome then some ((), cs) else none

/-- A time of day, with seconds and perhaps a fraction of them. -/
def timeOfDay : Scanner Unit := fun cs => do
  let (_, cs) ← twoDigits 23 cs
  let (_, cs) ← Scanner.char ':' cs
  let (_, cs) ← twoDigits 59 cs
  let (_, cs) ← Scanner.char ':' cs
  let (_, cs) ← twoDigits 60 cs
  match cs with
  | '.' :: rest => (Scanner.run Char.isDigit rest).map fun (_, rest) => ((), rest)
  | _ => some ((), cs)

/-- The distance from universal time. -/
def offset : Scanner Unit
  | [] => none
  | c :: rest =>
    if c = 'Z' || c = 'z' then some ((), rest)
    else if c = '+' || c = '-' then do
      let (_, cs) ← twoDigits 23 rest
      let (_, cs) ← Scanner.char ':' cs
      let (_, cs) ← twoDigits 59 cs
      return ((), cs)
    else none

/-- A time of day behind a date, with an offset if there is one. -/
def timeBehindDate : Scanner Unit := fun cs => do
  let (_, cs) ← Scanner.satisfying (fun c => c = 'T' || c = 't' || c = ' ') cs
  let (_, cs) ← timeOfDay cs
  Scanner.orElse offset (fun cs => some ((), cs)) cs

/-- A date, a time of day, or both. -/
def dateTime : Scanner Unit :=
  Scanner.orElse
    (fun cs => do
      let (_, cs) ← fullDate cs
      Scanner.orElse timeBehindDate (fun cs => some ((), cs)) cs)
    timeOfDay

/-- A date, a float or an integer. -/
def number : Scanner Item :=
  Scanner.orElse (dateTime · |>.map fun (_, rest) => (.dateTime, rest))
    (Scanner.orElse (float · |>.map fun (_, rest) => (.float, rest))
      (integer · |>.map fun (n, rest) => (.integer n, rest)))

end Consent.Toml
