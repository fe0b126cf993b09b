import Consent.Json.Fault

set_option autoImplicit false

/-!
# Texts of a JSON body

A text stands between double quotes. A backslash starts an escape: a letter for a common
character, or `u` and four hexadecimal digits for a unit of UTF-16, where a character outside the
basic plane takes a pair of units.

A text that is kept must be well formed throughout. A text that is passed over only needs its
closing quote to be found.

## Main definitions

* `Consent.Json.escape` — reads one escape behind its backslash.
* `Consent.Json.text` — reads a text behind its opening quote.
* `Consent.Json.skipText` — passes over a text behind its opening quote.
* `Consent.Json.quote` — writes a text.

## Main results

* `Consent.Json.escape_shorter`, `Consent.Json.content_shorter` — readers move on.
-/

namespace Consent.Json

/-- The character that a one-letter escape stands for. -/
def shortEscape? (b : UInt8) : Option Char :=
  if b = Ascii.quote then some '"'
  else if b = Ascii.backslash then some '\\'
  else if b = Ascii.slash then some '/'
  else if b = Ascii.lowerB then some '\x08'
  else if b = Ascii.lowerF then some '\x0c'
  else if b = Ascii.lowerN then some '\n'
  else if b = Ascii.lowerR then some '\r'
  else if b = Ascii.lowerT then some '\t'
  else none

/-- Reads four hexadecimal digits. -/
def hexUnit : Reader Nat
  | a :: b :: c :: d :: rest =>
    match Ascii.hexValue? a, Ascii.hexValue? b, Ascii.hexValue? c, Ascii.hexValue? d with
    | some a, some b, some c, some d => .ok (4096 * a + 256 * b + 16 * c + d, rest)
    | _, _, _, _ => .error (.at .invalidEscape rest)
  | _ => .error (.at .endInString [])

/-- Whether a unit starts a pair. -/
def isHighSurrogate (unit : Nat) : Bool := 0xd800 ≤ unit && unit ≤ 0xdbff

/-- Whether a unit ends a pair. -/
def isLowSurrogate (unit : Nat) : Bool := 0xdc00 ≤ unit && unit ≤ 0xdfff

/-- Reads the second half of a pair, which is an escape of its own. -/
def secondUnit (high : Nat) : Reader Char
  | Ascii.backslash :: Ascii.lowerU :: rest =>
    match hexUnit rest with
    | .error f => .error f
    | .ok (low, rest) =>
      if isLowSurrogate low then
        .ok (Char.ofNat ((high - 0xd800) * 1024 + (low - 0xdc00) + 0x10000), rest)
      else .error (.at .loneSurrogate rest)
  | [] => .error (.at .endInString [])
  | [Ascii.backslash] => .error (.at .endInString [])
  | Ascii.backslash :: _ :: rest => .error (.at .unfinishedSurrogatePair rest)
  | _ :: rest => .error (.at .unfinishedSurrogatePair rest)

/-- Reads one escape behind its backslash. -/
def escape : Reader Char
  | [] => .error (.at .endInString [])
  | b :: rest =>
    if b = Ascii.lowerU then
      match hexUnit rest with
      | .error f => .error f
      | .ok (unit, rest) =>
        if isLowSurrogate unit then .error (.at .loneSurrogate rest)
        else if isHighSurrogate unit then secondUnit unit rest
        else .ok (Char.ofNat unit, rest)
    else
      match shortEscape? b with
      | some c => .ok (c, rest)
      | none => .error (.at .invalidEscape rest)

/-- Four hexadecimal digits are taken off. -/
theorem hexUnit_shorter {left rest : Bytes} {n : Nat} (h : hexUnit left = .ok (n, rest)) :
    rest.length < left.length := by
  unfold hexUnit at h
  split at h
  · split at h
    · obtain ⟨-, rfl⟩ : _ ∧ _ := by simpa using h
      simp only [List.length_cons]; omega
    · contradiction
  · contradiction

/-- The second half of a pair is taken off. -/
theorem secondUnit_shorter {high : Nat} {left rest : Bytes} {c : Char}
    (h : secondUnit high left = .ok (c, rest)) : rest.length < left.length := by
  unfold secondUnit at h
  split at h
  · split at h
    · contradiction
    · rename_i _ hex
      split at h
      · obtain ⟨-, rfl⟩ : _ ∧ _ := by simpa using h
        have := hexUnit_shorter hex
        simp only [List.length_cons]; omega
      · contradiction
  all_goals contradiction

/-- An escape is taken off. -/
theorem escape_shorter {left rest : Bytes} {c : Char} (h : escape left = .ok (c, rest)) :
    rest.length < left.length := by
  unfold escape at h
  split at h
  · contradiction
  · split at h
    · split at h
      · contradiction
      · rename_i _ hex
        have := hexUnit_shorter hex
        split at h
        · contradiction
        · split at h
          · have := secondUnit_shorter h
            simp only [List.length_cons]; omega
          · obtain ⟨-, rfl⟩ : _ ∧ _ := by simpa using h
            simp only [List.length_cons]; omega
    · split at h
      · obtain ⟨-, rfl⟩ : _ ∧ _ := by simpa using h
        simp
      · contradiction

/-- Reads up to and with the closing quote. The octets that are not escaped stay as they are. -/
def content (left : Bytes) : Except Fault (Bytes × Bytes) :=
  match left with
  | [] => .error (.at .endInString [])
  | b :: rest =>
    if b = Ascii.quote then .ok ([], rest)
    else if b = Ascii.backslash then
      match h : escape rest with
      | .error f => .error f
      | .ok (c, rest') =>
        have : rest'.length < rest.length := escape_shorter h
        (content rest').map fun (octets, rest) => (String.utf8EncodeChar c ++ octets, rest)
    else if b < 0x20 then .error (.at .controlCharacter rest)
    else (content rest).map fun (octets, rest) => (b :: octets, rest)
termination_by left.length

/-- Reads a text behind its opening quote. Octets that are not UTF-8 are reported once the closing
quote is found. -/
def text : Reader String := fun left =>
  match content left with
  | .error f => .error f
  | .ok (octets, rest) =>
    match Utf8.string? octets with
    | some s => .ok (s, rest)
    | none => .error (.on .invalidCodePoint (left.drop (Utf8.validPrefix left)))

/-- Passes over a text behind its opening quote. -/
def skipText : Bytes → Except Fault Bytes
  | [] => .error (.at .endInString [])
  | b :: rest =>
    if b = Ascii.quote then .ok rest
    else if b = Ascii.backslash then
      match rest with
      | [] => .error (.at .endInString [])
      | e :: rest =>
        if e = Ascii.lowerU then
          match rest with
          | h₁ :: h₂ :: h₃ :: h₄ :: rest =>
            if [h₁, h₂, h₃, h₄].all fun h => (Ascii.hexValue? h).isSome then skipText rest
            else .error (.at .invalidEscape rest)
          | _ => .error (.at .endInString [])
        else if (shortEscape? e).isSome then skipText rest
        else .error (.at .invalidEscape rest)
    else if b < 0x20 then .error (.at .controlCharacter (b :: rest))
    else skipText rest

/-- What stands up to the closing quote is taken off. -/
theorem content_shorter {left rest octets : Bytes} (h : content left = .ok (octets, rest)) :
    rest.length < left.length := by
  fun_induction content left generalizing octets with
  | case1 => contradiction
  | case2 r =>
    obtain ⟨-, rfl⟩ : _ ∧ _ := by simpa using h
    simp
  | case3 => contradiction
  | case4 r _ c r' he lt ih =>
    rw [Except.map.eq_def] at h
    split at h
    · contradiction
    · rename_i _ p hp
      obtain ⟨-, rfl⟩ : _ ∧ _ := by simpa using h
      have := ih hp
      simp only [List.length_cons]; omega
  | case5 => contradiction
  | case6 b r hb hs hc ih =>
    rw [Except.map.eq_def] at h
    split at h
    · contradiction
    · rename_i _ p hp
      obtain ⟨-, rfl⟩ : _ ∧ _ := by simpa using h
      have := ih hp
      simp only [List.length_cons]; omega

/-- A text is taken off. -/
theorem text_shorter {left rest : Bytes} {s : String} (h : text left = .ok (s, rest)) :
    rest.length < left.length := by
  unfold text at h
  split at h
  · contradiction
  · rename_i _ _ hc
    split at h
    · obtain ⟨-, rfl⟩ : _ ∧ _ := by simpa using h
      exact content_shorter hc
    · contradiction

/-- How a character is written between the quotes. -/
def writeChar (c : Char) : List Char :=
  if c = '"' || c = '\\' then ['\\', c]
  else if c = '\x08' then ['\\', 'b']
  else if c = '\x0c' then ['\\', 'f']
  else if c = '\n' then ['\\', 'n']
  else if c = '\r' then ['\\', 'r']
  else if c = '\t' then ['\\', 't']
  else if c.toNat < 0x20 then
    ['\\', 'u', '0', '0'] ++ [Nat.digitChar (c.toNat / 16), Nat.digitChar (c.toNat % 16)]
  else [c]

/-- Writes a text between double quotes. -/
def quote (s : String) : List Char := '"' :: (s.toList.flatMap writeChar ++ ['"'])

end Consent.Json
