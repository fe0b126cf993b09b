import Consent.Json.Number
import Consent.Json.Text

set_option autoImplicit false

/-!
# Passing over values

A member that a structure does not know may have any value. Such a value is only checked for its
form: the brackets that are still open are kept in a list, so its depth is not bounded.

## Main definitions

* `Consent.Json.word` — reads the letters of a word.
* `Consent.Json.Bracket` — what an open bracket encloses.
* `Consent.Json.skipValue` — passes over a value, and over the rest of what encloses it.

## Main results

* `Consent.Json.skipScalar_shorter`, `Consent.Json.skipKey_shorter` — passing over moves on.
-/

namespace Consent.Json

/-- Reads the letters of a word. The first other octet is a fault behind that octet. -/
def word : List UInt8 → Bytes → Except Fault Bytes
  | [], left => .ok left
  | _ :: _, [] => .error (.at .endInValue [])
  | letter :: letters, b :: rest =>
    if b = letter then word letters rest else .error (.at .wordExpected rest)

/-- The letters of `null` behind the first. -/
def nullTail : List UInt8 := Ascii.octets "ull"

/-- The letters of `true` behind the first. -/
def trueTail : List UInt8 := Ascii.octets "rue"

/-- The letters of `false` behind the first. -/
def falseTail : List UInt8 := Ascii.octets "alse"

/-- Reading a word takes its letters off. -/
theorem word_length_le {letters left rest : Bytes} (h : word letters left = .ok rest) :
    rest.length ≤ left.length := by
  fun_induction word letters left with
  | case1 left => obtain rfl := Except.ok.inj h; exact Nat.le_refl _
  | case2 => contradiction
  | case3 b letters rest ih =>
    have := ih h
    simp only [List.length_cons]; omega
  | case4 => contradiction

/-- Skipping digits reads no more than there is. -/
theorem skipDigits_length_le (left : Bytes) : (skipDigits left).length ≤ left.length :=
  (List.dropWhile_suffix _).length_le

/-- Passing over an exponent reads no more than there is. -/
theorem skipExponent_length_le {left rest : Bytes} (h : skipExponent left = .ok rest) :
    rest.length ≤ left.length := by
  unfold skipExponent at h
  extract_lets digits at h
  have : digits.length ≤ left.length := by
    simp only [digits]
    split <;> simp
  split at h
  · obtain rfl := Except.ok.inj h
    exact Nat.le_trans (skipDigits_length_le _) this
  · contradiction

/-- Passing over an optional exponent reads no more than there is. -/
theorem skipExponent?_length_le {left rest : Bytes} (h : skipExponent? left = .ok rest) :
    rest.length ≤ left.length := by
  unfold skipExponent? at h
  split at h
  · have := skipExponent_length_le h
    simp only [List.length_cons]; omega
  · have := skipExponent_length_le h
    simp only [List.length_cons]; omega
  · obtain rfl := Except.ok.inj h; exact Nat.le_refl _

/-- Passing over a fraction and an exponent reads no more than there is. -/
theorem skipAfterInteger_length_le {left rest : Bytes} (h : skipAfterInteger left = .ok rest) :
    rest.length ≤ left.length := by
  unfold skipAfterInteger at h
  split at h
  · rename_i _ r
    split at h
    · have := skipExponent?_length_le h
      have := skipDigits_length_le r
      simp only [List.length_cons]; omega
    · contradiction
  · exact skipExponent?_length_le h

/-- A number behind its sign is taken off. -/
theorem skipUnsigned_shorter {left rest : Bytes} (h : skipUnsigned left = .ok rest) :
    rest.length < left.length := by
  unfold skipUnsigned at h
  split at h
  · contradiction
  · rename_i b r
    split at h
    · split at h
      · contradiction
      · have := skipAfterInteger_length_le h
        simp only [List.length_cons]; omega
    · split at h
      · have := skipAfterInteger_length_le h
        have := skipDigits_length_le r
        simp only [List.length_cons]; omega
      · contradiction

/-- A number is taken off. -/
theorem skipNumber_shorter {left rest : Bytes} (h : skipNumber left = .ok rest) :
    rest.length < left.length := by
  unfold skipNumber at h
  split at h
  · have := skipUnsigned_shorter h
    simp only [List.length_cons]; omega
  · exact skipUnsigned_shorter h

/-- A text is taken off. -/
theorem skipText_shorter {left rest : Bytes} (h : skipText left = .ok rest) :
    rest.length < left.length := by
  fun_induction skipText left with
  | case1 => contradiction
  | case2 r => obtain rfl := Except.ok.inj h; simp
  | case3 => contradiction
  | case4 _ _ _ _ _ _ _ ih => have := ih h; simp only [List.length_cons]; omega
  | case5 => contradiction
  | case6 => contradiction
  | case7 _ _ _ _ _ ih => have := ih h; simp only [List.length_cons]; omega
  | case8 => contradiction
  | case9 => contradiction
  | case10 _ _ _ _ _ ih => have := ih h; simp only [List.length_cons]; omega

/-- Passes over a value without brackets, at its first octet. -/
def skipScalar : Bytes → Except Fault Bytes
  | [] => .error (.on .endInValue [])
  | b :: rest =>
    if b = Ascii.lowerN then word nullTail rest
    else if b = Ascii.lowerT then word trueTail rest
    else if b = Ascii.lowerF then word falseTail rest
    else if b = Ascii.quote then skipText rest
    else if b = Ascii.minus || Ascii.isDigit b then skipNumber (b :: rest)
    else .error (.on .valueExpected (b :: rest))

/-- A value without brackets is taken off. -/
theorem skipScalar_shorter {left rest : Bytes} (h : skipScalar left = .ok rest) :
    rest.length < left.length := by
  unfold skipScalar at h
  split at h
  · contradiction
  · have wordCase : ∀ {ls r : Bytes}, word ls r = .ok rest → rest.length < r.length + 1 :=
      fun hw => Nat.lt_succ_of_le (word_length_le hw)
    repeat' split at h
    · simpa using wordCase h
    · simpa using wordCase h
    · simpa using wordCase h
    · have := skipText_shorter h
      simp only [List.length_cons]; omega
    · exact skipNumber_shorter h
    · contradiction

/-- What an open bracket encloses. -/
inductive Bracket where
  | list
  | object
deriving DecidableEq, Repr

/-- The octet that closes a bracket. -/
def Bracket.closer : Bracket → UInt8
  | list => Ascii.closeBracket
  | object => Ascii.closeBrace

/-- A closing bracket is no comma. -/
theorem Bracket.closer_ne_comma (k : Bracket) : k.closer ≠ Ascii.comma := by
  cases k <;> decide

/-- The body ends inside of a bracket. -/
def Bracket.ended : Bracket → Cause
  | list => .endInList
  | object => .endInObject

/-- Neither a comma nor the closing bracket follows a value. -/
def Bracket.unseparated : Bracket → Cause
  | list => .listCommaOrEndExpected
  | object => .objectCommaOrEndExpected

/-- Reads the colon behind a key. -/
def colon (left : Bytes) : Except Fault Bytes :=
  match skipBlanks left with
  | Ascii.colon :: rest => .ok rest
  | [] => .error (.on .endInObject [])
  | rest => .error (.on .colonExpected rest)

/-- A colon is taken off. -/
theorem colon_shorter {left rest : Bytes} (h : colon left = .ok rest) :
    rest.length < left.length := by
  have le := skipBlanks_length_le left
  unfold colon at h
  split at h
  · rename_i _ eq
    obtain rfl := Except.ok.inj h
    rw [eq] at le
    simp only [List.length_cons] at le
    omega
  all_goals contradiction

/-- Passes over a key and its colon. -/
def skipKey (left : Bytes) : Except Fault Bytes :=
  match skipBlanks left with
  | Ascii.quote :: rest =>
    match skipText rest with
    | .error f => .error f
    | .ok rest => colon rest
  | [] => .error (.on .endInObject [])
  | rest => .error (.on .keyNotText rest)

/-- A key is taken off. -/
theorem skipKey_shorter {left rest : Bytes} (h : skipKey left = .ok rest) :
    rest.length < left.length := by
  have le := skipBlanks_length_le left
  unfold skipKey at h
  split at h
  · rename_i _ eq
    split at h
    · contradiction
    · rename_i _ ht
      have := skipText_shorter ht
      have := colon_shorter h
      rw [eq] at le
      simp only [List.length_cons] at le
      omega
  all_goals contradiction

/-- Passes over the start of the next entry of a bracket: a list entry is its value, and an object
entry starts with a key. -/
def Bracket.enter : Bracket → Bytes → Except Fault Bytes
  | list, left => .ok left
  | object, left => skipKey left

/-- Entering reads no more than there is. -/
theorem Bracket.enter_length_le {k : Bracket} {left rest : Bytes} (h : k.enter left = .ok rest) :
    rest.length ≤ left.length := by
  cases k with
  | list => obtain rfl := Except.ok.inj h; exact Nat.le_refl _
  | object => exact Nat.le_of_lt (skipKey_shorter h)

mutual

/-- Passes over a value, and over what is left inside of the open brackets around it. -/
def skipValue (stack : List Bracket) (left : Bytes) : Except Fault Bytes :=
  match h : skipBlanks left with
  | [] => .error (.on .endInValue [])
  | b :: rest =>
    have : (b :: rest).length ≤ left.length := h ▸ skipBlanks_length_le left
    if b = Ascii.openBracket then skipEntries (.list :: stack) false rest
    else if b = Ascii.openBrace then skipEntries (.object :: stack) false rest
    else
      match hs : skipScalar (b :: rest) with
      | .error f => .error f
      | .ok rest' =>
        have := skipScalar_shorter hs
        skipEntries stack true rest'
termination_by (left.length, 0)
decreasing_by all_goals simp only [List.length_cons] at *; omega

/-- Passes over what is left inside of the open brackets. Behind an entry a comma must come before
the next one. -/
def skipEntries (stack : List Bracket) (behindEntry : Bool) (left : Bytes) :
    Except Fault Bytes :=
  match stack with
  | [] => .ok left
  | bracket :: outer =>
    match h : skipBlanks left with
    | [] => .error (.on bracket.ended [])
    | b :: rest =>
      have : (b :: rest).length ≤ left.length := h ▸ skipBlanks_length_le left
      if b = Ascii.comma && behindEntry then
        match he : bracket.enter rest with
        | .error f => .error f
        | .ok rest' =>
          have := bracket.enter_length_le he
          skipValue (bracket :: outer) rest'
      else if b = bracket.closer then skipEntries outer true rest
      else if behindEntry then .error (.on bracket.unseparated (b :: rest))
      else
        match he : bracket.enter (b :: rest) with
        | .error f => .error f
        | .ok rest' =>
          have := bracket.enter_length_le he
          skipValue (bracket :: outer) rest'
termination_by (left.length, 1)
decreasing_by all_goals simp only [List.length_cons] at *; omega

end

/-- How a value is passed over, by its first octet that is not blank. -/
theorem skipValue_eq (stack : List Bracket) (left : Bytes) :
    skipValue stack left =
      match skipBlanks left with
      | [] => .error (.on .endInValue [])
      | b :: rest =>
        if b = Ascii.openBracket then skipEntries (.list :: stack) false rest
        else if b = Ascii.openBrace then skipEntries (.object :: stack) false rest
        else (skipScalar (b :: rest)).bind (skipEntries stack true) := by
  rw [skipValue.eq_def]
  split
  · rename_i h; simp only [h]
  · rename_i b rest h
    simp only [h]
    split <;> try rfl
    split <;> try rfl
    split <;> rename_i hs <;> rw [hs] <;> rfl

/-- How what is left inside of a bracket is passed over. -/
theorem skipEntries_cons (bracket : Bracket) (outer : List Bracket) (behindEntry : Bool)
    (left : Bytes) :
    skipEntries (bracket :: outer) behindEntry left =
      match skipBlanks left with
      | [] => .error (.on bracket.ended [])
      | b :: rest =>
        if b = Ascii.comma && behindEntry then
          (bracket.enter rest).bind (skipValue (bracket :: outer))
        else if b = bracket.closer then skipEntries outer true rest
        else if behindEntry then .error (.on bracket.unseparated (b :: rest))
        else (bracket.enter (b :: rest)).bind (skipValue (bracket :: outer)) := by
  rw [skipEntries.eq_def]
  simp only
  split
  · rename_i h; simp only [h]
  · rename_i b rest h
    simp only [h]
    split
    · split <;> rename_i hs <;> rw [hs] <;> rfl
    · split <;> try rfl
      split <;> try rfl
      split <;> rename_i hs <;> rw [hs] <;> rfl

/-- Outside of all brackets nothing is left to pass over. -/
theorem skipEntries_nil (behindEntry : Bool) (left : Bytes) :
    skipEntries [] behindEntry left = .ok left := by
  rw [skipEntries.eq_def]

/-- Passing over values reads no more than there is. -/
theorem skip_length_le :
    (∀ stack left, ∀ rest, skipValue stack left = .ok rest → rest.length ≤ left.length) ∧
    ∀ stack behindEntry left, ∀ rest, skipEntries stack behindEntry left = .ok rest →
      rest.length ≤ left.length := by
  apply skipValue.mutual_induct
    (fun stack left => ∀ rest, skipValue stack left = .ok rest → rest.length ≤ left.length)
    (fun stack behindEntry left => ∀ rest, skipEntries stack behindEntry left = .ok rest →
      rest.length ≤ left.length)
  all_goals
    intros
    rename_i h
    first | rw [skipValue_eq] at h | rw [skipEntries_cons] at h | rw [skipEntries_nil] at h
    simp_all [Except.bind, Bracket.closer_ne_comma]
    try omega

end Consent.Json
