set_option autoImplicit false

/-!
# Punycode

A label that is not ASCII is written with the letters and digits of ASCII: first its own ASCII
characters, then, behind a hyphen, the places and the code points of all others as a sequence of
numbers. The numbers have digits of varying weight, whose thresholds adapt to the numbers so far.

## Main definitions

* `Consent.Url.Punycode.encode` — a label in ASCII.
* `Consent.Url.Punycode.decode?` — the label that is written so.
-/

namespace Consent.Url.Punycode

/-- The number of digits. -/
def base : Nat := 36

/-- The first code point that is not written as itself. -/
def firstCode : Nat := 0x80

/-- The first bias. -/
def firstBias : Nat := 72

/-- The threshold of the digit with some weight exponent. -/
def threshold (k bias : Nat) : Nat :=
  if k ≤ bias then 1 else if bias + 26 ≤ k then 26 else k - bias

/-- A threshold lies between the least and the greatest one. -/
theorem threshold_mem (k bias : Nat) : 1 ≤ threshold k bias ∧ threshold k bias ≤ 26 := by
  unfold threshold
  split
  · omega
  · split <;> omega

/-- Divides a number until it is small: what is left, and the weight of the divisions. -/
def damp (delta k : Nat) : Nat × Nat :=
  if 455 < delta then damp (delta / 35) (k + base) else (delta, k)
termination_by delta
decreasing_by omega

/-- The bias after a number, with as many characters as there are then. -/
def adapt (delta points : Nat) (first : Bool) : Nat :=
  let delta := if first then delta / 700 else delta / 2
  let (delta, k) := damp (delta + delta / points) 0
  k + base * delta / (delta + 38)

/-- The character of a digit. -/
def digitChar (d : Nat) : Char :=
  if d < 26 then Char.ofNat (0x61 + d) else Char.ofNat (0x30 + (d - 26))

/-- The digit of a character. -/
def digit? (c : Char) : Option Nat :=
  if 'a' ≤ c && c ≤ 'z' then some (c.toNat - 'a'.toNat)
  else if c.isDigit then some (c.toNat - '0'.toNat + 26)
  else none

/-- A number in digits of varying weight. -/
def number (bias k q : Nat) : List Char :=
  let t := threshold k bias
  if q < t then [digitChar q]
  else digitChar (t + (q - t) % (base - t)) :: number bias (k + base) ((q - t) / (base - t))
termination_by q
decreasing_by
  have bounds := threshold_mem k bias
  have step : (q - threshold k bias) / (base - threshold k bias) ≤ q - threshold k bias :=
    Nat.div_le_self _ _
  omega

/-- The state of an encoder: the distance since the last number, the bias, the characters that are
written, and the digits. -/
structure State where
  delta : Nat
  bias : Nat
  written : Nat
  digits : List Char

/-- Passes the characters of a label once, for one code point. -/
def State.pass (code : Nat) (basics : Nat) (s : State) (c : Char) : State :=
  if c.toNat < code then { s with delta := s.delta + 1 }
  else if c.toNat = code then
    { delta := 0
      bias := adapt s.delta (s.written + 1) (s.written = basics)
      written := s.written + 1
      digits := s.digits ++ number s.bias base s.delta }
  else s

/-- The code points of a label that are not ASCII, in order, each of them once. -/
def codes (label : List Char) : List Nat :=
  let wide := (label.map Char.toNat).filter (firstCode ≤ ·)
  wide.mergeSort.eraseDups

/-- A label in ASCII. -/
def encode (label : List Char) : List Char :=
  let basics := label.filter (·.toNat < firstCode)
  let start : State := ⟨0, firstBias, basics.length, []⟩
  let (final, _) := (codes label).foldl (fun (s, next) code =>
    let s := { s with delta := s.delta + (code - next) * (s.written + 1) }
    let s := label.foldl (State.pass code basics.length) s
    ({ s with delta := s.delta + 1 }, code + 1)) (start, firstCode)
  basics ++ (if basics.isEmpty then [] else ['-']) ++ final.digits

/-- Reads a number with digits of varying weight, and adds it to another one. -/
def readNumber? (bias : Nat) : Nat → Nat → Nat → List Char → Option (Nat × List Char)
  | _, _, _, [] => none
  | i, weight, k, c :: rest =>
    match digit? c with
    | none => none
    | some d =>
      let t := threshold k bias
      let i := i + d * weight
      if d < t then some (i, rest) else readNumber? bias i (weight * (base - t)) (k + base) rest

/-- A number takes at least one digit. -/
theorem readNumber?_shorter {bias i weight k n : Nat} {cs rest : List Char}
    (h : readNumber? bias i weight k cs = some (n, rest)) : rest.length < cs.length := by
  induction cs generalizing i weight k with
  | nil => simp [readNumber?] at h
  | cons c cs ih =>
    simp only [readNumber?] at h
    split at h
    · simp at h
    · split at h
      · obtain ⟨-, rfl⟩ := by simpa using h
        simp
      · have := ih h
        simp only [List.length_cons]
        omega

/-- Reads the numbers and puts a character in for each. -/
def insertAll? (code i bias : Nat) (label : List Char) (cs : List Char) : Option (List Char) :=
  if cs.isEmpty then some label
  else
    match _shorter : readNumber? bias i 1 base cs with
    | none => none
    | some (n, rest) =>
      let points := label.length + 1
      let code := code + n / points
      let place := n % points
      if code.isValidChar then
        insertAll? code (place + 1) (adapt (n - i) points (i = 0))
          (label.take place ++ Char.ofNat code :: label.drop place) rest
      else none
termination_by cs.length
decreasing_by exact readNumber?_shorter _shorter

/-- The label that is written in ASCII. -/
def decode? (cs : List Char) : Option (List Char) :=
  let tail := (cs.reverse.takeWhile (· ≠ '-')).reverse
  let front := cs.take (cs.length - tail.length - 1)
  if tail.length = cs.length then insertAll? firstCode 0 firstBias [] cs
  else if front.isEmpty then none
  else insertAll? firstCode 0 firstBias front tail

end Consent.Url.Punycode
