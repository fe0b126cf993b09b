import Consent.Json.Skip

set_option autoImplicit false

/-!
# Structures in a JSON body

A structure is written as an object, whose members may come in any order and may include unknown
ones, or as a list of the members' values in their fixed order. A *slot* says how one member is
recognised and read; a *shape* is a structure given by its slots.

A complaint about a structure as a whole (a member twice, a missing member, a short list) has no
place of its own: it is placed where the structure's closing bracket leaves off.

## Main definitions

* `Consent.Json.flag`, `Consent.Json.textValue`, `Consent.Json.optionalFlag` — readers of values.
* `Consent.Json.Slot`, `Consent.Json.Shape` — members and structures.
* `Consent.Json.Shape.read` — reads a structure.
* `Consent.Json.readAll` — reads a whole body.

## Main results

* `Consent.Json.flag_shorter`, `Consent.Json.textValue_shorter` — value readers move on.
-/

namespace Consent.Json

/-- The fault of a value of another kind than the expected one. The value is read far enough to say
what it is. -/
def mismatch (expected : String) : Bytes → Fault
  | [] => .on .valueExpected []
  | b :: rest =>
    let wrong (found : Found) (left : Bytes) : Fault := .at (.invalidType found expected) left
    let wrongWord (letters : List UInt8) (found : Found) : Fault :=
      match word letters rest with
      | .ok left => wrong found left
      | .error f => f
    if b = Ascii.lowerN then wrongWord nullTail .null
    else if b = Ascii.lowerT then wrongWord trueTail (.boolean true)
    else if b = Ascii.lowerF then wrongWord falseTail (.boolean false)
    else if b = Ascii.minus || Ascii.isDigit b then
      match number (b :: rest) with
      | .ok (n, left) => wrong n.found left
      | .error f => f
    else if b = Ascii.quote then
      match text rest with
      | .ok (s, left) => wrong (.text s) left
      | .error f => f
    else if b = Ascii.openBracket then wrong .sequence (b :: rest)
    else if b = Ascii.openBrace then wrong .map (b :: rest)
    else .on .valueExpected (b :: rest)

/-- Reads a truth value. -/
def flag : Reader Bool := fun left =>
  match skipBlanks left with
  | [] => .error (.on .endInValue [])
  | b :: rest =>
    if b = Ascii.lowerT then (word trueTail rest).map (true, ·)
    else if b = Ascii.lowerF then (word falseTail rest).map (false, ·)
    else .error (mismatch "a boolean" (b :: rest))

/-- Reads a text. -/
def textValue : Reader String := fun left =>
  match skipBlanks left with
  | [] => .error (.on .endInValue [])
  | b :: rest =>
    if b = Ascii.quote then text rest else .error (mismatch "a string" (b :: rest))

/-- Reads a truth value or `null`. -/
def optionalFlag : Reader (Option Bool) := fun left =>
  match skipBlanks left with
  | Ascii.lowerN :: rest => (word nullTail rest).map (none, ·)
  | _ => (flag left).map fun (b, rest) => (some b, rest)

/-- A value mapped over a reading comes from a reading. -/
theorem ok_of_map_eq_ok {ε α β : Type} {e : Except ε α} {g : α → β} {b : β}
    (h : e.map g = .ok b) : ∃ a, e = .ok a ∧ g a = b := by
  cases e with
  | error => contradiction
  | ok a => exact ⟨a, rfl, Except.ok.inj h⟩

/-- A truth value is taken off. -/
theorem flag_shorter {left rest : Bytes} {b : Bool} (h : flag left = .ok (b, rest)) :
    rest.length < left.length := by
  have le := skipBlanks_length_le left
  unfold flag at h
  split at h
  · contradiction
  · rename_i _ _ eq
    rw [eq, List.length_cons] at le
    repeat' split at h
    · obtain ⟨r, hr, eq⟩ := ok_of_map_eq_ok h
      cases eq
      have := word_length_le hr
      omega
    · obtain ⟨r, hr, eq⟩ := ok_of_map_eq_ok h
      cases eq
      have := word_length_le hr
      omega
    · contradiction

/-- A text is taken off. -/
theorem textValue_shorter {left rest : Bytes} {s : String} (h : textValue left = .ok (s, rest)) :
    rest.length < left.length := by
  have le := skipBlanks_length_le left
  unfold textValue at h
  split at h
  · contradiction
  · rename_i _ _ eq
    rw [eq, List.length_cons] at le
    split at h
    · have := text_shorter h
      omega
    · contradiction

/-- A truth value or `null` is taken off. -/
theorem optionalFlag_shorter {left rest : Bytes} {b : Option Bool}
    (h : optionalFlag left = .ok (b, rest)) : rest.length < left.length := by
  have le := skipBlanks_length_le left
  unfold optionalFlag at h
  split at h
  · rename_i _ eq
    rw [eq, List.length_cons] at le
    obtain ⟨r, hr, eq⟩ := ok_of_map_eq_ok h
    cases eq
    have := word_length_le hr
    omega
  · obtain ⟨⟨_, r⟩, hr, eq⟩ := ok_of_map_eq_ok h
    cases eq
    exact flag_shorter hr

/-- How one member of a structure is recognised and read into what is known so far. -/
structure Slot (σ : Type) where
  /-- The member's name in a complaint. -/
  name : String
  /-- Other keys that name it. -/
  otherNames : List String
  /-- Whether a list may end before its value. -/
  mayBeCut : Bool
  /-- Whether it has been read already. -/
  filled : σ → Bool
  /-- Reads its value. -/
  read : σ → Reader σ
  /-- Reading a value moves on. -/
  read_shorter : ∀ {s s' : σ} {left rest : Bytes}, read s left = .ok (s', rest) →
    rest.length < left.length

/-- Whether a key names the member. -/
def Slot.answersTo {σ : Type} (slot : Slot σ) (key : String) : Bool :=
  key = slot.name || slot.otherNames.contains key

/-- A slot whose value is read by `reader` and put in by `put`. -/
def Slot.ofReader {σ α : Type} (name : String) (otherNames : List String) (mayBeCut : Bool)
    (filled : σ → Bool) (put : σ → α → σ) (reader : Reader α)
    (shorter : ∀ {a : α} {left rest : Bytes}, reader left = .ok (a, rest) →
      rest.length < left.length) : Slot σ where
  name := name
  otherNames := otherNames
  mayBeCut := mayBeCut
  filled := filled
  read s left := (reader left).map fun (a, rest) => (put s a, rest)
  read_shorter h := by
    obtain ⟨⟨a, r⟩, hr, eq⟩ := ok_of_map_eq_ok h
    cases eq
    exact shorter hr

/-- What reading the inside of a structure comes to: the members known at its end, or a complaint
about the structure. -/
abbrev Inside (σ : Type) := Except Cause σ × Bytes

/-- Reads the next key of an object, or finds that there is none. -/
def nextKey (isFirst : Bool) (left : Bytes) : Except Fault (Option String × Bytes) :=
  let key (left : Bytes) : Except Fault (Option String × Bytes) :=
    match left with
    | Ascii.quote :: rest => (text rest).map fun (s, rest) => (some s, rest)
    | Ascii.closeBrace :: _ => .error (.on .trailingComma left)
    | [] => .error (.on .endInValue [])
    | _ => .error (.on .keyNotText left)
  match skipBlanks left with
  | [] => .error (.on .endInObject [])
  | b :: rest =>
    if b = Ascii.closeBrace then .ok (none, b :: rest)
    else if isFirst then key (b :: rest)
    else if b = Ascii.comma then key (skipBlanks rest)
    else .error (.on .objectCommaOrEndExpected (b :: rest))

/-- A key is taken off. -/
theorem nextKey_shorter {isFirst : Bool} {left rest : Bytes} {s : String}
    (h : nextKey isFirst left = .ok (some s, rest)) : rest.length < left.length := by
  have le := skipBlanks_length_le left
  have keyCase : ∀ {l : Bytes}, (match l with
      | Ascii.quote :: rest => (text rest).map fun (s, rest) => (some s, rest)
      | Ascii.closeBrace :: _ => .error (.on .trailingComma l)
      | [] => .error (.on .endInValue [])
      | _ => .error (.on .keyNotText l) : Except Fault (Option String × Bytes)) =
        .ok (some s, rest) → rest.length < l.length := by
    intro l hl
    split at hl
    · obtain ⟨⟨a, r⟩, hr, eq⟩ := ok_of_map_eq_ok hl
      cases eq
      have := text_shorter hr
      simp only [List.length_cons]; omega
    all_goals contradiction
  unfold nextKey at h
  extract_lets key at h
  split at h
  · contradiction
  · rename_i b r eq
    rw [eq] at le
    split at h
    · simp at h
    · split at h
      · exact Nat.lt_of_lt_of_le (keyCase h) le
      · split at h
        · have := keyCase h
          have := skipBlanks_length_le r
          rw [List.length_cons] at le
          omega
        · contradiction

/-- Reads what follows a key: a known member is put in, once, and an unknown one passed over. -/
def member {σ : Type} (slots : List (Slot σ)) (s : σ) (key : String) (left : Bytes) :
    Except Fault (Inside σ) :=
  match slots.find? (·.answersTo key) with
  | none =>
    match colon left with
    | .error f => .error f
    | .ok rest => (skipValue [] rest).map (.ok s, ·)
  | some slot =>
    if slot.filled s then .ok (.error (.duplicateField slot.name), left)
    else
      match colon left with
      | .error f => .error f
      | .ok rest => (slot.read s rest).map fun (s, rest) => (.ok s, rest)

/-- Reading a member reads no more than there is. -/
theorem member_length_le {σ : Type} {slots : List (Slot σ)} {s : σ} {key : String}
    {left rest : Bytes} {outcome : Except Cause σ}
    (h : member slots s key left = .ok (outcome, rest)) : rest.length ≤ left.length := by
  unfold member at h
  split at h
  · split at h
    · contradiction
    · rename_i _ hc
      obtain ⟨r, hr, eq⟩ := ok_of_map_eq_ok h
      cases eq
      have := colon_shorter hc
      have := skip_length_le.1 _ _ _ hr
      omega
  · split at h
    · obtain ⟨-, rfl⟩ : _ ∧ _ := by simpa using h
      exact Nat.le_refl _
    · split at h
      · contradiction
      · rename_i slot _ _ _ _ hc
        obtain ⟨⟨a, r⟩, hr, eq⟩ := ok_of_map_eq_ok h
        cases eq
        have := colon_shorter hc
        have := slot.read_shorter hr
        omega

/-- Reads the members of an object up to its closing brace. -/
def members {σ : Type} (slots : List (Slot σ)) (isFirst : Bool) (s : σ) (left : Bytes) :
    Except Fault (Inside σ) :=
  match h : nextKey isFirst left with
  | .error f => .error f
  | .ok (none, rest) => .ok (.ok s, rest)
  | .ok (some key, rest) =>
    match hm : member slots s key rest with
    | .error f => .error f
    | .ok (.error c, rest) => .ok (.error c, rest)
    | .ok (.ok s, rest) =>
      have := nextKey_shorter h
      have := member_length_le hm
      members slots false s rest
termination_by left.length

/-- Finds whether a list has another element, and goes to it. -/
def nextElement (isFirst : Bool) (left : Bytes) : Except Fault (Bool × Bytes) :=
  match skipBlanks left with
  | [] => .error (.on .endInList [])
  | b :: rest =>
    if b = Ascii.closeBracket then .ok (false, b :: rest)
    else if isFirst then .ok (true, b :: rest)
    else if b = Ascii.comma then
      match skipBlanks rest with
      | [] => .error (.on .endInValue [])
      | Ascii.closeBracket :: rest => .error (.on .trailingComma (Ascii.closeBracket :: rest))
      | rest => .ok (true, rest)
    else .error (.on .listCommaOrEndExpected (b :: rest))

/-- Reads the elements of a list into the slots, in order; `index` counts the slots before. -/
def elements {σ : Type} (expected : String) (index : Nat) (s : σ) (left : Bytes) :
    List (Slot σ) → Except Fault (Inside σ)
  | [] => .ok (.ok s, left)
  | slot :: slots =>
    match nextElement (index = 0) left with
    | .error f => .error f
    | .ok (false, left) =>
      if slot.mayBeCut then elements expected (index + 1) s left slots
      else .ok (.error (.invalidLength index expected), left)
    | .ok (true, left) =>
      match slot.read s left with
      | .error f => .error f
      | .ok (s, left) => elements expected (index + 1) s left slots

/-- Closes an object. Gives what is left, and a fault if its brace does not come next. -/
def closeObject (left : Bytes) : Bytes × Option Fault :=
  match skipBlanks left with
  | Ascii.closeBrace :: rest => (rest, none)
  | [] => ([], some (.on .endInObject []))
  | Ascii.comma :: rest =>
    (Ascii.comma :: rest, some (.on .trailingComma (Ascii.comma :: rest)))
  | rest => (rest, some (.on .trailingCharacters rest))

/-- Closes a list. Gives what is left, and a fault if its bracket does not come next. -/
def closeList (left : Bytes) : Bytes × Option Fault :=
  match skipBlanks left with
  | Ascii.closeBracket :: rest => (rest, none)
  | [] => ([], some (.on .endInList []))
  | Ascii.comma :: rest =>
    let rest := skipBlanks rest
    let cause : Cause :=
      if rest.head? = some Ascii.closeBracket then .trailingComma else .trailingCharacters
    (rest, some (.on cause rest))
  | rest => (rest, some (.on .trailingCharacters rest))

/-- A structure: its slots in their order, and what is made of them. -/
structure Shape (σ α : Type) where
  /-- Its name in a complaint. -/
  name : String
  /-- Its members, in the order of a list. -/
  slots : List (Slot σ)
  /-- Nothing read yet. -/
  empty : σ
  /-- What the members make, or a complaint that one is missing. -/
  build : σ → Except Cause α

/-- What was expected of a list that is too short. -/
def Shape.listName {σ α : Type} (shape : Shape σ α) : String :=
  shape.name ++ " with " ++ toString shape.slots.length ++ " elements"

/-- Puts the closing bracket behind the inside of a structure. A fault of the bracket counts unless
there is a complaint, which is placed behind the bracket. -/
def conclude {α : Type} (close : Bytes → Bytes × Option Fault) (outcome : Except Cause α)
    (left : Bytes) : Except Fault (α × Bytes) :=
  let (rest, fault) := close left
  match outcome, fault with
  | .ok a, none => .ok (a, rest)
  | .ok _, some f => .error f
  | .error c, _ => .error (.at c rest)

/-- Reads a structure, as an object or as a list. -/
def Shape.read {σ α : Type} (shape : Shape σ α) : Reader α := fun left =>
  match skipBlanks left with
  | [] => .error (.on .endInValue [])
  | Ascii.openBracket :: rest =>
    match elements shape.listName 0 shape.empty rest shape.slots with
    | .error f => .error f
    | .ok (outcome, rest) => conclude closeList (outcome.bind shape.build) rest
  | Ascii.openBrace :: rest =>
    match members shape.slots true shape.empty rest with
    | .error f => .error f
    | .ok (outcome, rest) => conclude closeObject (outcome.bind shape.build) rest
  | rest => .error (mismatch shape.name rest)

/-- Reads a whole body: behind the value only blanks may come. -/
def readAll {α : Type} (reader : Reader α) (body : Bytes) : Except Error α :=
  match reader body with
  | .error f => .error (f.locate body)
  | .ok (a, rest) =>
    match skipBlanks rest with
    | [] => .ok a
    | rest => .error ((Fault.on .trailingCharacters rest).locate body)

end Consent.Json
