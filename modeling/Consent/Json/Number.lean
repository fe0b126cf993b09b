import Consent.Json.Fault

set_option autoImplicit false

/-!
# Numbers of a JSON body

A number without fraction and exponent that fits 64 bits is an integer; every other number is
approximated in binary64: its first significant digits, as many as fit 64 bits, are read as an
integer, which is then scaled by the power of ten that the fraction and the exponent make.

Numbers that are passed over are only checked for their form.

## Main definitions

* `Consent.Json.Number` — an integer or an approximated number.
* `Consent.Json.number` — reads a number at its first octet.
* `Consent.Json.skipNumber` — passes over a number.
-/

namespace Consent.Json

open Decimal

/-- A number that was read. -/
inductive Number where
  /-- A non-negative integer below `2 ^ 64`. -/
  | natural (n : Nat)
  /-- The negative of an integer from `1` to `2 ^ 63`. -/
  | negative (n : Nat)
  /-- Any other number. -/
  | float (x : Binary64)
deriving DecidableEq, Repr

/-- What a number is found to be. -/
def Number.found : Number → Found
  | natural n => .integer n
  | negative n => .integer (-(n : Int))
  | float x => .float x

/-- The largest significand. -/
def largestSignificand : Nat := Nat.pow 2 64 - 1

/-- The largest exponent that is read digit by digit. -/
def largestExponent : Nat := Nat.pow 2 31 - 1

/-- Appends the digits at the front to a number, as long as the result stays below a bound. Also
counts the digits appended. -/
def appendDigits (bound n count : Nat) : Bytes → Nat × Nat × Bytes
  | [] => (n, count, [])
  | b :: rest =>
    let next := 10 * n + Ascii.digitValue b
    if Ascii.isDigit b && next ≤ bound then appendDigits bound next (count + 1) rest
    else (n, count, b :: rest)

/-- What is left behind the digits at the front. -/
def skipDigits (left : Bytes) : Bytes := left.dropWhile Ascii.isDigit

/-- Whether a digit comes next. -/
def startsWithDigit : Bytes → Bool
  | [] => false
  | b :: _ => Ascii.isDigit b

/-- The number with a significand, a power of ten and a sign. -/
def approximate (positive : Bool) (significand : Nat) (exponent : Int) (left : Bytes) :
    Except Fault (Number × Bytes) :=
  match (Magnitude.ofRatio? significand 1).bind (·.scale? exponent) with
  | some m => .ok (.float ⟨!positive, m⟩, left)
  | none => .error (.at .numberOutOfRange left)

/-- Reads the digits of an exponent, whose first one must be there. -/
def exponentDigits (positive : Bool) (significand : Nat) (exponent : Int) (up : Bool) :
    Bytes → Except Fault (Number × Bytes)
  | [] => .error (.at .endInValue [])
  | b :: rest =>
    if Ascii.isDigit b then
      let (e, _, left) := appendDigits largestExponent (Ascii.digitValue b) 0 rest
      if startsWithDigit left then
        if significand ≠ 0 && up then .error (.at .numberOutOfRange (left.drop 1))
        else .ok (.float ⟨!positive, .zero⟩, skipDigits left)
      else approximate positive significand (if up then exponent + e else exponent - e) left
    else .error (.at .invalidNumber rest)

/-- Reads an exponent behind its letter. -/
def exponent (positive : Bool) (significand : Nat) (start : Int) :
    Bytes → Except Fault (Number × Bytes)
  | Ascii.plus :: rest => exponentDigits positive significand start true rest
  | Ascii.minus :: rest => exponentDigits positive significand start false rest
  | left => exponentDigits positive significand start true left

/-- Reads an exponent if its letter comes next. -/
def exponent? (positive : Bool) (significand : Nat) (start : Int) (left : Bytes) :
    Except Fault (Number × Bytes) :=
  match left with
  | Ascii.lowerE :: rest | Ascii.upperE :: rest => exponent positive significand start rest
  | _ => approximate positive significand start left

/-- Reads a fraction behind its point, and an exponent. Digits that no longer fit the significand
do not change it. -/
def fraction (positive : Bool) (significand : Nat) (start : Int) (left : Bytes) :
    Except Fault (Number × Bytes) :=
  let (n, count, rest) := appendDigits largestSignificand significand 0 left
  if startsWithDigit rest then exponent? positive n (start - count) (skipDigits rest)
  else if count = 0 then
    .error (.on (if rest.isEmpty then .endInValue else .invalidNumber) rest)
  else exponent? positive n (start - count) rest

/-- Reads what may follow the integer part of a number that is not an integer. -/
def afterInteger (positive : Bool) (significand : Nat) (start : Int) (left : Bytes) :
    Except Fault (Number × Bytes) :=
  match left with
  | Ascii.point :: rest => fraction positive significand start rest
  | _ => exponent? positive significand start left

/-- An integer with a sign; zero below zero and integers out of range are approximated. -/
def integer (positive : Bool) (n : Nat) : Number :=
  if positive then .natural n
  else if 1 ≤ n && n ≤ Nat.pow 2 63 then .negative n
  else .float ⟨true, (Magnitude.ofRatio? n 1).getD .zero⟩

/-- Reads a number behind its sign. Zero may not be followed by more digits. -/
def unsignedNumber (positive : Bool) : Bytes → Except Fault (Number × Bytes)
  | [] => .error (.at .endInValue [])
  | b :: rest =>
    if Ascii.isDigit b then
      let (n, _, left) :=
        if b = Ascii.zero then (0, 0, rest)
        else appendDigits largestSignificand (Ascii.digitValue b) 0 rest
      if startsWithDigit left then
        if b = Ascii.zero then .error (.on .invalidNumber left)
        else
          let left' := skipDigits left
          afterInteger positive n (left.length - left'.length : Nat) left'
      else
        match left with
        | Ascii.point :: _ | Ascii.lowerE :: _ | Ascii.upperE :: _ =>
          afterInteger positive n 0 left
        | _ => .ok (integer positive n, left)
    else .error (.at .invalidNumber rest)

/-- Reads a number at its first octet. -/
def number : Reader Number
  | Ascii.minus :: rest => unsignedNumber false rest
  | left => unsignedNumber true left

/-- Passes over an exponent behind its letter. -/
def skipExponent (left : Bytes) : Except Fault Bytes :=
  let digits :=
    match left with
    | Ascii.plus :: rest | Ascii.minus :: rest => rest
    | _ => left
  if startsWithDigit digits then .ok (skipDigits digits)
  else .error (.at .invalidNumber (digits.drop 1))

/-- Passes over an exponent if its letter comes next. -/
def skipExponent? (left : Bytes) : Except Fault Bytes :=
  match left with
  | Ascii.lowerE :: rest | Ascii.upperE :: rest => skipExponent rest
  | _ => .ok left

/-- Passes over what may follow the integer part of a number. -/
def skipAfterInteger (left : Bytes) : Except Fault Bytes :=
  match left with
  | Ascii.point :: rest =>
    if startsWithDigit rest then skipExponent? (skipDigits rest)
    else .error (.on .invalidNumber rest)
  | _ => skipExponent? left

/-- Passes over a number behind its sign. -/
def skipUnsigned : Bytes → Except Fault Bytes
  | [] => .error (.at .invalidNumber [])
  | b :: rest =>
    if b = Ascii.zero then
      if startsWithDigit rest then .error (.on .invalidNumber rest) else skipAfterInteger rest
    else if Ascii.isDigit b then skipAfterInteger (skipDigits rest)
    else .error (.at .invalidNumber rest)

/-- Passes over a number at its first octet. -/
def skipNumber : Bytes → Except Fault Bytes
  | Ascii.minus :: rest => skipUnsigned rest
  | left => skipUnsigned left

end Consent.Json
