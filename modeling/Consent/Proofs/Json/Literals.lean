import Consent.Proofs.Json.Grammar
import Consent.Proofs.Text.Utf8

set_option autoImplicit false

/-!
# Reading texts

A text is read as the characters that it denotes, and reading it fails when it denotes none. When it
is passed over, what it denotes does not matter.

## Main results

* `Consent.Json.skipText_quoted` — a text is passed over.
* `Consent.Json.text_quoted` — a text is read as what it denotes.
-/

namespace Consent.Json

/-! ### Pieces -/

/-- A short escape stands for its character. -/
lemma shortEscape?_octet (e : ShortEscape) :
    Ascii.octet e.1.1 ≠ Ascii.lowerU ∧ shortEscape? (Ascii.octet e.1.1) = some e.1.2 := by
  have hall : ∀ e ∈ shortEscapes,
      Ascii.octet e.1 ≠ Ascii.lowerU ∧ shortEscape? (Ascii.octet e.1) = some e.2 := by
    decide
  exact hall e.1 e.2

/-- A hexadecimal digit stands for its number, which is below 16. -/
lemma hexValue?_octet (d : HexDigit) :
    Ascii.hexValue? (Ascii.octet d.1.1) = some d.1.2 ∧ d.1.2 < 16 := by
  have hall : ∀ d ∈ hexDigits, Ascii.hexValue? (Ascii.octet d.1) = some d.2 ∧ d.2 < 16 := by
    decide
  exact hall d.1 d.2

/-- A unit is read as its number. -/
lemma hexUnit_octets (u : HexUnit) (left : Bytes) :
    hexUnit (u.octets ++ left) = .ok (u.value, left) := by
  simp only [HexUnit.octets, List.cons_append, List.nil_append, hexUnit, (hexValue?_octet _).1,
    HexUnit.value]

/-- A unit has sixteen bits. -/
lemma HexUnit.value_lt (u : HexUnit) : u.value < 0x10000 := by
  have ha := (hexValue?_octet u.a).2
  have hb := (hexValue?_octet u.b).2
  have hc := (hexValue?_octet u.c).2
  have hd := (hexValue?_octet u.d).2
  rw [value]
  omega

/-- A unit that is no half of a pair is a character. -/
lemma unitChar?_eq (u : HexUnit) :
    unitChar? u.value =
      if isLowSurrogate u.value || isHighSurrogate u.value then none
      else some (Char.ofNat u.value) := by
  have hlt := u.value_lt
  simp only [unitChar?, Nat.isValidChar, isLowSurrogate, isHighSurrogate, Bool.or_eq_true,
    Bool.and_eq_true, decide_eq_true_eq]
  by_cases h : u.value < 0xd800 ∨ 0xdfff < u.value ∧ u.value < 0x110000
  · rw [if_pos h, if_neg (by omega)]
  · rw [if_neg h, if_pos (by omega)]

/-- What a unit that is no half of a pair denotes does not depend on what follows it. -/
lemma denote?_unit {u : HexUnit} {c : Char} (h : unitChar? u.value = some c) (ps : List Piece) :
    denote? (.unit u :: ps) = (denote? ps).map (c :: ·) := by
  cases hhigh : isHighSurrogate u.value with
  | true => simp [unitChar?_eq, hhigh] at h
  | false =>
    cases ps with
    | nil => simp [denote?, h]
    | cons p ps => cases p <;> simp [denote?, h, hhigh]

/-- An octet of a character that stands for itself has no meaning of its own within a text. -/
lemma plain_octet {c : Char} (hc : c ≠ '"' ∧ c ≠ '\\' ∧ 0x20 ≤ c.toNat) {b : UInt8}
    (hb : b ∈ String.utf8EncodeChar c) :
    b ≠ Ascii.quote ∧ b ≠ Ascii.backslash ∧ ¬ b < 0x20 := by
  obtain ⟨hquote, hbackslash, hcontrol⟩ := hc
  have hquote' : c.toNat ≠ 0x22 := fun h => hquote (Char.toNat_inj.mp h)
  have hbackslash' : c.toNat ≠ 0x5c := fun h => hbackslash (Char.toNat_inj.mp h)
  have hb' := Utf8.mem_utf8EncodeChar hb
  simp only [Ascii.quote, Ascii.backslash, ne_eq, ← UInt8.toNat_inj, UInt8.lt_iff_toNat_lt,
    UInt8.reduceToNat]
  omega

/-! ### Passing over a text -/

/-- Octets that have no meaning of their own are passed over. -/
lemma skipText_plain {bs : Bytes}
    (h : ∀ b ∈ bs, b ≠ Ascii.quote ∧ b ≠ Ascii.backslash ∧ ¬ b < 0x20) (left : Bytes) :
    skipText (bs ++ left) = skipText left := by
  induction bs with
  | nil => rfl
  | cons b bs ih =>
    obtain ⟨hquote, hbackslash, hcontrol⟩ := h b List.mem_cons_self
    rw [List.cons_append, skipText.eq_def]
    simp only [if_neg hquote, if_neg hbackslash, if_neg hcontrol]
    exact ih fun b' hb' => h b' (List.mem_cons_of_mem _ hb')

/-- A piece of a text is passed over. -/
lemma skipText_piece (p : Piece) (left : Bytes) : skipText (p.octets ++ left) = skipText left := by
  cases p with
  | plain c h => exact skipText_plain (fun b hb => plain_octet h hb) left
  | short e =>
    obtain ⟨hunit, hshort⟩ := shortEscape?_octet e
    rw [Piece.octets, List.cons_append, List.cons_append, List.nil_append, skipText.eq_def]
    simp [Ascii.quote, Ascii.backslash, hunit, hshort]
  | unit u =>
    rw [Piece.octets, List.cons_append, List.cons_append, skipText.eq_def]
    simp [Ascii.quote, Ascii.backslash, HexUnit.octets, hexValue?_octet]

/-- **A text is passed over**, whatever it denotes. -/
lemma skipText_quoted (ps : List Piece) (left : Bytes) :
    skipText (ps.flatMap Piece.octets ++ Ascii.quote :: left) = .ok left := by
  induction ps with
  | nil => rw [List.flatMap_nil, List.nil_append, skipText.eq_def]; simp
  | cons p ps ih => rw [List.flatMap_cons, List.append_assoc, skipText_piece, ih]

/-! ### Reading a text -/

/-- What a reading that is changed afterwards gives. -/
lemma toOption_map {ε α β : Type} (e : Except ε α) (g : α → β) :
    (e.map g).toOption = e.toOption.map g := by
  cases e <;> rfl

/-- Octets that have no meaning of their own are kept. -/
lemma content_plain {bs : Bytes}
    (h : ∀ b ∈ bs, b ≠ Ascii.quote ∧ b ≠ Ascii.backslash ∧ ¬ b < 0x20) (left : Bytes) :
    content (bs ++ left) = (content left).map fun p => (bs ++ p.1, p.2) := by
  induction bs with
  | nil =>
    rw [List.nil_append]
    cases content left <;> rfl
  | cons b bs ih =>
    obtain ⟨hquote, hbackslash, hcontrol⟩ := h b List.mem_cons_self
    rw [List.cons_append, content.eq_def]
    simp only [if_neg hquote, if_neg hbackslash, if_neg hcontrol]
    rw [ih fun b' hb' => h b' (List.mem_cons_of_mem _ hb')]
    cases content left <;> rfl

/-- How an escape within a text is read. -/
lemma content_escape (left : Bytes) :
    content (Ascii.backslash :: left) =
      (escape left).bind fun p =>
        (content p.2).map fun q => (String.utf8EncodeChar p.1 ++ q.1, q.2) := by
  have hquote : Ascii.backslash ≠ Ascii.quote := by decide
  rw [content.eq_def]
  simp only [if_neg hquote, if_true]
  split <;> rename_i heq <;> rw [heq] <;> rfl

/-- A character in front of a text that is read. -/
def prepend (c : Char) (p : Bytes × Bytes) : Bytes × Bytes := (String.utf8EncodeChar c ++ p.1, p.2)

/-- A character that stands for itself is read as it is. -/
lemma content_char {c : Char} (h : c ≠ '"' ∧ c ≠ '\\' ∧ 0x20 ≤ c.toNat) (left : Bytes) :
    content ((Piece.plain c h).octets ++ left) = (content left).map (prepend c) :=
  content_plain (fun _ hb => plain_octet h hb) left

/-- A short escape is read as its character. -/
lemma content_short (e : ShortEscape) (left : Bytes) :
    content ((Piece.short e).octets ++ left) = (content left).map (prepend e.1.2) := by
  obtain ⟨hunit, hshort⟩ := shortEscape?_octet e
  rw [Piece.octets, List.cons_append, List.cons_append, List.nil_append, content_escape, escape]
  simp only [if_neg hunit, hshort]
  rfl

/-- A unit is read as a character, unless it is a half of a pair. -/
lemma content_unit (u : HexUnit) (left : Bytes) :
    content ((Piece.unit u).octets ++ left) =
      if isLowSurrogate u.value then .error (.at .loneSurrogate left)
      else if isHighSurrogate u.value then
        (secondUnit u.value left).bind fun p => (content p.2).map (prepend p.1)
      else (content left).map (prepend (Char.ofNat u.value)) := by
  rw [Piece.octets, List.cons_append, List.cons_append, content_escape, escape]
  simp only [if_true, hexUnit_octets]
  split
  · rfl
  · split <;> rfl

/-- The second half of a pair is read. -/
lemma secondUnit_unit (n : Nat) (u : HexUnit) (left : Bytes) :
    secondUnit n ((Piece.unit u).octets ++ left) =
      if isLowSurrogate u.value then .ok (pairChar n u.value, left)
      else .error (.at .loneSurrogate left) := by
  have hchar : pairChar n u.value =
      Char.ofNat ((n - 0xd800) * 1024 + (u.value - 0xdc00) + 0x10000) := by
    exact congrArg Char.ofNat (by omega)
  refine (secondUnit.eq_1 n (u.octets ++ left)).trans ?_
  rw [hexUnit_octets, hchar]

/-- What is no unit is no second half of a pair. -/
lemma secondUnit_of_not_unit (n : Nat) {left : Bytes}
    (h : left.take 2 ≠ [Ascii.backslash, Ascii.lowerU]) :
    (secondUnit n left).toOption = none := by
  unfold secondUnit
  split
  · simp at h
  all_goals rfl

/-- What follows a unit does not look like one if the next piece is none. -/
lemma take_two_ne_of_not_unit {ps : List Piece} (h : ∀ u ps', ps ≠ .unit u :: ps') (left : Bytes) :
    (ps.flatMap Piece.octets ++ Ascii.quote :: left).take 2 ≠ [Ascii.backslash, Ascii.lowerU] := by
  have hquote : Ascii.quote ≠ Ascii.backslash := by decide
  cases ps with
  | nil => simp [hquote]
  | cons p ps =>
    cases p with
    | plain c hc =>
      have hsize : (String.utf8EncodeChar c).length = c.utf8Size := String.length_utf8EncodeChar c
      cases hoctets : String.utf8EncodeChar c with
      | nil =>
        have hpos := c.utf8Size_pos
        rw [hoctets, List.length_nil] at hsize
        omega
      | cons b bs =>
        have hb := (plain_octet hc (hoctets ▸ List.mem_cons_self)).2.1
        simp [Piece.octets, hoctets, hb]
    | short e =>
      have hletter := (shortEscape?_octet e).1
      simp [Piece.octets, hletter]
    | unit u => exact absurd rfl (h u ps)

/-- A unit that is not followed by its other half is read as a character, if it is one. -/
lemma content_lone_unit (u : HexUnit) {left : Bytes}
    (h : isHighSurrogate u.value = true → (secondUnit u.value left).toOption = none) :
    (content ((Piece.unit u).octets ++ left)).toOption =
      (unitChar? u.value).bind fun c => (content left).toOption.map (prepend c) := by
  rw [content_unit, unitChar?_eq]
  cases hlow : isLowSurrogate u.value with
  | true => simp [Except.toOption]
  | false =>
    cases hhigh : isHighSurrogate u.value with
    | true =>
      have hnone := h hhigh
      cases hsecond : secondUnit u.value left with
      | error f => simp [Except.bind, Except.toOption]
      | ok p => simp [hsecond, Except.toOption] at hnone
    | false => cases content left <;> simp [Except.map, Except.toOption]

/-- **A text is read up to its closing quote** as the octets of what it denotes.

**Proof sketch.** The induction is the one by which pieces denote characters. A unit that would
begin a pair is followed by its other half, by another unit, or by what is no unit. -/
lemma content_quoted (ps : List Piece) (left : Bytes) :
    (content (ps.flatMap Piece.octets ++ Ascii.quote :: left)).toOption =
      (denote? ps).map fun cs => (Utf8.encode cs, left) := by
  have hprepend : ∀ (c : Char) (o : Option (List Char)),
      (o.map fun cs => (Utf8.encode cs, left)).map (prepend c) =
        (o.map (c :: ·)).map fun cs => (Utf8.encode cs, left) := by
    intro c o
    cases o <;> rfl
  fun_induction denote? ps with
  | case1 =>
    rw [List.flatMap_nil, List.nil_append, content.eq_def]
    rfl
  | case2 c h ps ih =>
    rw [List.flatMap_cons, List.append_assoc, content_char, toOption_map, ih, hprepend]
  | case3 e ps ih =>
    rw [List.flatMap_cons, List.append_assoc, content_short, toOption_map, ih, hprepend]
  | case4 u v ps hpair ih =>
    obtain ⟨hhigh, hlow⟩ := Bool.and_eq_true_iff.mp hpair
    have hnot : isLowSurrogate u.value = false := by
      simp only [isHighSurrogate, isLowSurrogate, Bool.and_eq_true, decide_eq_true_eq,
        Bool.and_eq_false_iff, decide_eq_false_iff_not] at hhigh ⊢
      omega
    rw [List.flatMap_cons, List.flatMap_cons, List.append_assoc, List.append_assoc, content_unit,
      hnot, hhigh, secondUnit_unit, hlow]
    simp only [Bool.false_eq_true, if_false, if_true, Except.bind]
    rw [toOption_map, ih, hprepend]
  | case5 u v ps hpair ih =>
    rw [List.flatMap_cons, List.append_assoc, content_lone_unit, ih]
    · cases unitChar? u.value with
      | none => rfl
      | some c => exact hprepend c _
    · intro hhigh
      rw [List.flatMap_cons, List.append_assoc, secondUnit_unit, if_neg]
      · rfl
      · exact fun hlow => hpair (Bool.and_eq_true_iff.mpr ⟨hhigh, hlow⟩)
  | case6 u ps hnext ih =>
    rw [List.flatMap_cons, List.append_assoc, content_lone_unit, ih]
    · cases unitChar? u.value with
      | none => rfl
      | some c => exact hprepend c _
    · intro _
      exact secondUnit_of_not_unit _ (take_two_ne_of_not_unit (fun v ps' h => hnext v ps' h) left)

/-- **A text is read as what it denotes**, and reading it fails if it denotes nothing. -/
lemma text_quoted {ps : List Piece} {left rest : Bytes} {s : String} :
    text (ps.flatMap Piece.octets ++ Ascii.quote :: left) = .ok (s, rest) ↔
      denote? ps = some s.toList ∧ rest = left := by
  have hcontent := content_quoted ps left
  rw [text]
  cases hread : content (ps.flatMap Piece.octets ++ Ascii.quote :: left) with
  | error f =>
    rw [hread] at hcontent
    cases hps : denote? ps with
    | none => simp
    | some cs => simp [hps, Except.toOption] at hcontent
  | ok p =>
    rw [hread] at hcontent
    cases hps : denote? ps with
    | none => simp [hps, Except.toOption] at hcontent
    | some cs =>
      rw [hps] at hcontent
      obtain rfl : p = (Utf8.encode cs, left) := Option.some.inj hcontent
      simp only [Utf8.string?_encode, Except.ok.injEq, Prod.mk.injEq, Option.some.injEq]
      constructor
      · rintro ⟨rfl, rfl⟩
        exact ⟨String.toList_ofList.symm, rfl⟩
      · rintro ⟨rfl, rfl⟩
        exact ⟨String.ofList_toList, rfl⟩

/-- What a text denotes does not depend on the pieces that it is cut into. -/
lemma isText_quoted {ps : List Piece} {s : String} :
    IsText (quoted ps) s ↔ denote? ps = some s.toList := by
  constructor
  · rintro ⟨ps', hps, hdenote⟩
    have hread : text (ps'.flatMap Piece.octets ++ [Ascii.quote]) = .ok (s, []) :=
      text_quoted.mpr ⟨hdenote, rfl⟩
    rw [← (List.cons.inj hps).2] at hread
    exact (text_quoted.mp hread).1
  · exact fun hdenote => ⟨ps, rfl, hdenote⟩

end Consent.Json
