import Consent.Text.Normal.Tables

set_option autoImplicit false

/-!
# Composed text

Equivalent texts are made equal: every character is taken apart, the marks behind each base are put
into the order of their classes, and what can be put together again is put together. Syllables of
Hangul are taken apart and put together by arithmetic.

## Main definitions

* `Consent.Text.decompose` — the parts of a character.
* `Consent.Text.orderMarks` — the marks in the order of their classes.
* `Consent.Text.compose` — the text with its characters put together.
* `Consent.Text.normal` — the composed form of a text.
-/

namespace Consent.Text

/-- The first mark. -/
def firstMark : Nat := 0x300

/-- The class of a mark; zero for all other characters. -/
def markClass (c : Char) : Nat :=
  if c.toNat < firstMark then 0
  else ((markClasses.find? fun row => row.2.contains c).map (·.1)).getD 0

/-- The two parts of a character, if it is made of two. -/
def halves? (c : Char) : Option (Char × Char) :=
  composites.findSome? fun (first, parts) =>
    if first ≤ c.toNat then
      (parts[c.toNat - first]?).map fun (a, b) => (Char.ofNat a, Char.ofNat b)
    else none

/-- The character that is made of two, if there is one. The second one comes no sooner than the
first mark. -/
def union? (a b : Char) : Option Char :=
  if b.toNat < firstMark then none
  else
    composites.findSome? fun (first, parts) =>
      (parts.findIdx? (· = (a.toNat, b.toNat))).map fun i => Char.ofNat (first + i)

/-! ### Hangul -/

/-- The first syllable. -/
def firstSyllable : Nat := 0xac00

/-- The number of leading consonants. -/
def leads : Nat := 19

/-- The number of vowels. -/
def vowels : Nat := 21

/-- The number of final consonants, none included. -/
def finals : Nat := 28

/-- The first leading consonant. -/
def firstLead : Nat := 0x1100

/-- The first vowel. -/
def firstVowel : Nat := 0x1161

/-- What stands before the first final consonant. -/
def noFinal : Nat := 0x11a7

/-- The parts of a syllable. -/
def syllableParts? (c : Char) : Option (List Char) :=
  let n := c.toNat - firstSyllable
  if c.toNat < firstSyllable || leads * vowels * finals ≤ n then none
  else
    let front := [Char.ofNat (firstLead + n / (vowels * finals)),
      Char.ofNat (firstVowel + n % (vowels * finals) / finals)]
    some (if n % finals = 0 then front else front ++ [Char.ofNat (noFinal + n % finals)])

/-- The syllable that is made of two parts, if there is one. -/
def syllable? (a b : Char) : Option Char :=
  let lead := a.toNat - firstLead
  let vowel := b.toNat - firstVowel
  let final := b.toNat - noFinal
  let syllable := a.toNat - firstSyllable
  if firstLead ≤ a.toNat && lead < leads && firstVowel ≤ b.toNat && vowel < vowels then
    some (Char.ofNat (firstSyllable + (lead * vowels + vowel) * finals))
  else if firstSyllable ≤ a.toNat && syllable < leads * vowels * finals && syllable % finals = 0 &&
      noFinal < b.toNat && final < finals then
    some (Char.ofNat (a.toNat + final))
  else none

/-! ### Normal form -/

/-- The greatest number of times that a character can be taken apart. -/
def decomposeDepth : Nat := 4

/-- The parts of a character, taken apart some number of times. -/
def decomposeTo : Nat → Char → List Char
  | 0, c => [c]
  | depth + 1, c =>
    match halves? c with
    | some (a, b) => decomposeTo depth a ++ [b]
    | none => (syllableParts? c).getD [c]

/-- The parts of a character. -/
def decompose (c : Char) : List Char :=
  if c.toNat < 0x80 then [c] else decomposeTo decomposeDepth c

/-- Puts a mark behind the marks of lower classes at the front of a text. -/
def placeMark (c : Char) : List Char → List Char
  | [] => [c]
  | d :: rest =>
    if 0 < markClass d && markClass d < markClass c then d :: placeMark c rest else c :: d :: rest

/-- The text with the marks behind each base in the order of their classes. -/
def orderMarks (cs : List Char) : List Char := cs.foldr placeMark []

/-- Puts the rest of a text together with a base and the marks that stay behind it, the last of
which has a class. A mark that stays keeps others of its class and all bases away. -/
def composeBehind (base : Char) (kept : List Char) (last : Nat) : List Char → List Char
  | [] => base :: kept
  | c :: rest =>
    let union := if kept.isEmpty || last < markClass c then (syllable? base c).or (union? base c)
      else none
    match union with
    | some whole => composeBehind whole kept last rest
    | none =>
      if markClass c = 0 then base :: kept ++ composeBehind c [] 0 rest
      else composeBehind base (kept ++ [c]) (markClass c) rest

/-- The text with its characters put together. -/
def compose : List Char → List Char
  | [] => []
  | c :: rest => if markClass c = 0 then composeBehind c [] 0 rest else c :: compose rest

/-- The composed form of a text. -/
def normal (cs : List Char) : List Char := compose (orderMarks (cs.flatMap decompose))

end Consent.Text
