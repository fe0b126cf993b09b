set_option autoImplicit false

/-!
# Octets and UTF-8

A body, a file or an environment variable arrives as octets. This module writes characters as
octets and reads them back in two ways: strictly, where one malformed sequence spoils the whole,
and leniently, where each malformed sequence becomes one replacement character.

Both readings come from one function, `Utf8.pieces`, which cuts the octets into characters and
*maximal malformed subparts*: a subpart is as long as the start of some well-formed sequence,
and at least one octet.

## Main definitions

* `Consent.Bytes` — octets.
* `Consent.Utf8.encode` — the octets of some characters.
* `Consent.Utf8.pieces` — octets as characters and malformed subparts.
* `Consent.Utf8.decode?` — the strict reading.
* `Consent.Utf8.decodeLossy` — the lenient reading.
* `Consent.Utf8.validPrefix` — how many octets precede the first malformed one.
* `Consent.Utf8.charIndices` — where the characters of a text begin.
-/

namespace Consent

/-- A sequence of octets. -/
abbrev Bytes := List UInt8

namespace Utf8

/-- The octets of some characters. -/
def encode (cs : List Char) : Bytes := cs.flatMap String.utf8EncodeChar

/-- The octets of a text. -/
def ofString (s : String) : Bytes := encode s.toList

/-- A continuation octet `10xxxxxx`. -/
def isTail (b : UInt8) : Bool := 0x80 ≤ b && b ≤ 0xbf

/-- The low six bits of a continuation octet. -/
def tailBits (b : UInt8) : Nat := b.toNat % 64

/-- What may follow the first octet of a three-octet sequence: overlong forms and surrogates
have no well-formed second octet. -/
def isSecondOfThree (lead b : UInt8) : Bool :=
  if lead = 0xe0 then 0xa0 ≤ b && b ≤ 0xbf
  else if lead = 0xed then 0x80 ≤ b && b ≤ 0x9f
  else isTail b

/-- What may follow the first octet of a four-octet sequence: overlong forms and numbers beyond
the last code point have no well-formed second octet. -/
def isSecondOfFour (lead b : UInt8) : Bool :=
  if lead = 0xf0 then 0x90 ≤ b && b ≤ 0xbf
  else if lead = 0xf4 then 0x80 ≤ b && b ≤ 0x8f
  else isTail b

/-- Cuts octets into characters (`some c`) and maximal malformed subparts (`none`). -/
def pieces : Bytes → List (Option Char)
  | [] => []
  | b :: rest =>
    if b < 0x80 then some (Char.ofNat b.toNat) :: pieces rest
    else if 0xc2 ≤ b && b ≤ 0xdf then
      match rest with
      | [] => [none]
      | t :: rest' =>
        if isTail t then some (Char.ofNat (b.toNat % 32 * 64 + tailBits t)) :: pieces rest'
        else none :: pieces (t :: rest')
    else if 0xe0 ≤ b && b ≤ 0xef then
      match rest with
      | [] => [none]
      | t :: rest' =>
        if isSecondOfThree b t then
          match rest' with
          | [] => [none]
          | u :: rest'' =>
            if isTail u then
              some (Char.ofNat (b.toNat % 16 * 4096 + tailBits t * 64 + tailBits u)) ::
                pieces rest''
            else none :: pieces (u :: rest'')
        else none :: pieces (t :: rest')
    else if 0xf0 ≤ b && b ≤ 0xf4 then
      match rest with
      | [] => [none]
      | t :: rest' =>
        if isSecondOfFour b t then
          match rest' with
          | [] => [none]
          | u :: rest'' =>
            if isTail u then
              match rest'' with
              | [] => [none]
              | v :: rest''' =>
                if isTail v then
                  some (Char.ofNat (b.toNat % 8 * 262144 + tailBits t * 4096 +
                    tailBits u * 64 + tailBits v)) :: pieces rest'''
                else none :: pieces (v :: rest''')
            else none :: pieces (u :: rest'')
        else none :: pieces (t :: rest')
    else none :: pieces rest

/-- All characters, or nothing when some octets are malformed. -/
def decode? (bytes : Bytes) : Option (List Char) := (pieces bytes).mapM id

/-- The text of well-formed octets. -/
def string? (bytes : Bytes) : Option String := (decode? bytes).map String.ofList

/-- The character that stands for a malformed subpart. -/
def replacement : Char := '\ufffd'

/-- All characters, each malformed subpart replaced by one replacement character. -/
def decodeLossy (bytes : Bytes) : List Char := (pieces bytes).map (·.getD replacement)

/-- The number of octets before the first malformed subpart. -/
def validPrefix (bytes : Bytes) : Nat :=
  (encode ((pieces bytes).takeWhile Option.isSome).reduceOption).length

/-- The characters of a text, each with the octet at which it begins; the text itself begins at
the octet `index`. -/
def charIndices (index : Nat) : List Char → List (Nat × Char)
  | [] => []
  | c :: cs => (index, c) :: charIndices (index + c.utf8Size) cs

/-- A character begins behind the octets of those before it. -/
theorem getElem?_charIndices (index : Nat) (cs : List Char) (n : Nat) :
    (charIndices index cs)[n]? =
      cs[n]?.map fun c => (index + (String.ofList (cs.take n)).utf8ByteSize, c) := by
  induction cs generalizing index n with
  | nil => simp [charIndices]
  | cons c cs ih =>
    cases n with
    | zero => simp [charIndices]
    | succ n =>
      simp only [charIndices, List.getElem?_cons_succ, ih, List.take_succ_cons, String.ofList_cons,
        String.utf8ByteSize_append, String.utf8ByteSize_singleton, Nat.add_assoc]

end Utf8

end Consent
