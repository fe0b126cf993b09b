import Consent.Json.Shape
import Consent.Proofs.Json.Literals
import Mathlib.Tactic.SplitIfs

set_option autoImplicit false

/-!
# What is read as a text

Whatever octets are read as a text are pieces between quotes that denote it. Together with the
reading of pieces, this tells the texts that are read by how they are written.

## Main results

* `Consent.Json.exists_escape` — what is read as an escape is made of pieces.
* `Consent.Json.exists_quoted` — what is read as a text is one.
-/

namespace Consent.Json

/-! ### Escapes -/

/-- What is read as a hexadecimal digit is one. -/
lemma exists_hexDigit {b : UInt8} {n : Nat} (h : Ascii.hexValue? b = some n) :
    ∃ d : HexDigit, Ascii.octet d.1.1 = b ∧ d.1.2 = n := by
  have hdecimal : ∀ m < 10, ∃ d ∈ hexDigits, Ascii.octet d.1 = UInt8.ofNat (0x30 + m) ∧
      d.2 = m := by decide
  have hupper : ∀ m < 6, ∃ d ∈ hexDigits, Ascii.octet d.1 = UInt8.ofNat (0x41 + m) ∧
      d.2 = m + 10 := by decide
  have hlower : ∀ m < 6, ∃ d ∈ hexDigits, Ascii.octet d.1 = UInt8.ofNat (0x61 + m) ∧
      d.2 = m + 10 := by decide
  -- An octet of a range is the first of the range plus its distance from it.
  have hoffset : ∀ k, k ≤ b.toNat → UInt8.ofNat (k + (b.toNat - k)) = b := fun k hk => by
    rw [Nat.add_sub_cancel' hk, UInt8.ofNat_toNat]
  unfold Ascii.hexValue? at h
  simp only [Bool.and_eq_true, decide_eq_true_eq, UInt8.le_iff_toNat_le, UInt8.reduceToNat] at h
  split_ifs at h with hd hu hl <;> obtain rfl := Option.some.inj h
  · obtain ⟨d, hd, hoctet, hn⟩ := hdecimal (b.toNat - 0x30) (by omega)
    exact ⟨⟨d, hd⟩, by rw [hoctet, hoffset _ (by omega)], hn⟩
  · obtain ⟨d, hd, hoctet, hn⟩ := hupper (b.toNat - 0x41) (by omega)
    exact ⟨⟨d, hd⟩, by rw [hoctet, hoffset _ (by omega)], hn⟩
  · obtain ⟨d, hd, hoctet, hn⟩ := hlower (b.toNat - 0x61) (by omega)
    exact ⟨⟨d, hd⟩, by rw [hoctet, hoffset _ (by omega)], hn⟩

/-- What is read as a short escape is one. -/
lemma exists_shortEscape {b : UInt8} {c : Char} (h : shortEscape? b = some c) :
    ∃ e : ShortEscape, Ascii.octet e.1.1 = b ∧ e.1.2 = c := by
  suffices ∃ e ∈ shortEscapes, Ascii.octet e.1 = b ∧ e.2 = c by
    obtain ⟨e, he, hoctet, hc⟩ := this
    exact ⟨⟨e, he⟩, hoctet, hc⟩
  unfold shortEscape? at h
  split_ifs at h <;> obtain rfl := Option.some.inj h <;> subst b <;> decide

/-- What is read as a unit is one. -/
lemma exists_hexUnit {left rest : Bytes} {n : Nat} (h : hexUnit left = .ok (n, rest)) :
    ∃ u : HexUnit, left = u.octets ++ rest ∧ u.value = n := by
  unfold hexUnit at h
  split at h
  · split at h
    · rename_i ha hb hc hd
      obtain ⟨rfl, rfl⟩ := Prod.mk.inj (Except.ok.inj h)
      obtain ⟨a, rfl, rfl⟩ := exists_hexDigit ha
      obtain ⟨b, rfl, rfl⟩ := exists_hexDigit hb
      obtain ⟨c, rfl, rfl⟩ := exists_hexDigit hc
      obtain ⟨d, rfl, rfl⟩ := exists_hexDigit hd
      exact ⟨⟨a, b, c, d⟩, rfl, rfl⟩
    · cases h
  · cases h

/-- What is read as the second half of a pair is a unit. -/
lemma exists_secondUnit {high : Nat} {left rest : Bytes} {c : Char}
    (h : secondUnit high left = .ok (c, rest)) :
    ∃ v : HexUnit, left = (Piece.unit v).octets ++ rest ∧ isLowSurrogate v.value = true ∧
      pairChar high v.value = c := by
  unfold secondUnit at h
  split at h
  · split at h
    · cases h
    · rename_i hunit
      split at h
      · rename_i hlow
        obtain ⟨rfl, rfl⟩ := Prod.mk.inj (Except.ok.inj h)
        obtain ⟨v, rfl, rfl⟩ := exists_hexUnit hunit
        exact ⟨v, rfl, hlow, congrArg Char.ofNat (by omega)⟩
      · cases h
  all_goals cases h

/-- **What is read as an escape is a piece, or two, that denote its character.** -/
lemma exists_escape {left rest : Bytes} {c : Char} (h : escape left = .ok (c, rest)) :
    ∃ ps : List Piece, Ascii.backslash :: left = ps.flatMap Piece.octets ++ rest ∧
      ∀ ps', denote? (ps ++ ps') = (denote? ps').map (c :: ·) := by
  unfold escape at h
  split at h
  · cases h
  · split at h
    · rename_i hu
      subst hu
      split at h
      · cases h
      · rename_i hunit
        obtain ⟨u, rfl, rfl⟩ := exists_hexUnit hunit
        split at h
        · cases h
        · rename_i hlow
          split at h
          · rename_i hhigh
            obtain ⟨v, rfl, hv, rfl⟩ := exists_secondUnit h
            refine ⟨[.unit u, .unit v], ?_, fun ps' => ?_⟩
            · simp [Piece.octets]
            · simp [denote?, hhigh, hv]
          · rename_i hhigh
            obtain ⟨rfl, rfl⟩ := Prod.mk.inj (Except.ok.inj h)
            have hchar : unitChar? u.value = some (Char.ofNat u.value) := by
              simp [unitChar?_eq, hlow, hhigh]
            refine ⟨[.unit u], ?_, denote?_unit hchar⟩
            simp [Piece.octets]
    · split at h
      · rename_i hshort
        obtain ⟨rfl, rfl⟩ := Prod.mk.inj (Except.ok.inj h)
        obtain ⟨e, rfl, rfl⟩ := exists_shortEscape hshort
        exact ⟨[.short e], rfl, fun ps' => rfl⟩
      · cases h

/-! ### Up to the closing quote -/

/-- How the octets up to the closing quote begin. -/
lemma content_cases {left octets rest : Bytes} (h : content left = .ok (octets, rest)) :
    octets = [] ∧ left = Ascii.quote :: rest ∨
    (∃ l c l' os, left = Ascii.backslash :: l ∧ escape l = .ok (c, l') ∧
      content l' = .ok (os, rest) ∧ octets = String.utf8EncodeChar c ++ os) ∨
    ∃ b l os, left = b :: l ∧ b ≠ Ascii.quote ∧ b ≠ Ascii.backslash ∧ ¬ b < 0x20 ∧
      content l = .ok (os, rest) ∧ octets = b :: os := by
  cases left with
  | nil => rw [content.eq_def] at h; cases h
  | cons b l =>
    by_cases hquote : b = Ascii.quote
    · subst hquote
      rw [content.eq_def] at h
      obtain ⟨rfl, rfl⟩ := Prod.mk.inj (Except.ok.inj h)
      exact .inl ⟨rfl, rfl⟩
    by_cases hbackslash : b = Ascii.backslash
    · subst hbackslash
      rw [content_escape] at h
      cases hescape : escape l with
      | error f => rw [hescape] at h; cases h
      | ok p =>
        rw [hescape] at h
        obtain ⟨q, hq, heq⟩ := ok_of_map_eq_ok h
        obtain ⟨rfl, rfl⟩ := Prod.mk.inj heq
        exact .inr (.inl ⟨l, p.1, p.2, q.1, rfl, hescape, hq, rfl⟩)
    · rw [content.eq_def] at h
      simp only [if_neg hquote, if_neg hbackslash] at h
      split at h
      · cases h
      · rename_i hcontrol
        obtain ⟨q, hq, heq⟩ := ok_of_map_eq_ok h
        obtain ⟨rfl, rfl⟩ := Prod.mk.inj heq
        exact .inr (.inr ⟨b, l, q.1, rfl, hquote, hbackslash, hcontrol, hq, rfl⟩)

/-- Continuation octets have no meaning of their own within a text. -/
lemma content_tails {ts : Bytes} (hts : ∀ t ∈ ts, Utf8.isTail t = true) {left os rest : Bytes}
    (h : content left = .ok (ts ++ os, rest)) :
    ∃ l, left = ts ++ l ∧ content l = .ok (os, rest) := by
  induction ts generalizing left with
  | nil => exact ⟨left, rfl, h⟩
  | cons t ts ih =>
    rcases content_cases h with ⟨hnil, -⟩ | ⟨l, c, l', os', -, -, -, heq⟩ |
      ⟨b, l, os', rfl, -, -, -, hl, heq⟩
    · cases hnil
    · obtain ⟨b, bs, hc, hlead, -⟩ := Utf8.utf8EncodeChar_cons c
      rw [hc] at heq
      have htail := hts t List.mem_cons_self
      rw [(List.cons.inj heq).1, hlead] at htail
      cases htail
    · obtain ⟨rfl, rfl⟩ := List.cons.inj heq
      obtain ⟨l', rfl, hl'⟩ := ih (fun t' ht' => hts t' (List.mem_cons_of_mem _ ht')) hl
      exact ⟨l', rfl, hl'⟩

/-- A character whose first octet has no meaning of its own stands for itself. -/
lemma plain_of_octet {c : Char} {b : UInt8} {ts : Bytes}
    (hc : String.utf8EncodeChar c = b :: ts) (hquote : b ≠ Ascii.quote)
    (hbackslash : b ≠ Ascii.backslash) (hcontrol : ¬ b < 0x20) :
    c ≠ '"' ∧ c ≠ '\\' ∧ 0x20 ≤ c.toNat := by
  refine ⟨?_, ?_, ?_⟩
  · rintro rfl
    exact hquote (List.cons.inj hc).1.symm
  · rintro rfl
    exact hbackslash (List.cons.inj hc).1.symm
  · refine Nat.le_of_not_lt fun hlt => ?_
    rw [Utf8.utf8EncodeChar_of_lt (by omega)] at hc
    have hb : b.toNat = c.toNat := by
      rw [← (List.cons.inj hc).1, Ascii.octet, Nat.toUInt8, UInt8.toNat_ofNat']
      omega
    have hlow : b.toNat < 0x20 := by omega
    exact hcontrol hlow

/-- **What is read up to a closing quote is a text** that denotes the characters read.

**Proof sketch.** By induction on the characters. The first one comes from an escape, or its first
octet stands for itself; the other octets of a character that is not ASCII begin no escape, and so
they stand for themselves as well. -/
lemma exists_pieces {cs : List Char} {left rest : Bytes}
    (h : content left = .ok (Utf8.encode cs, rest)) :
    ∃ ps : List Piece, left = ps.flatMap Piece.octets ++ Ascii.quote :: rest ∧
      denote? ps = some cs := by
  induction cs generalizing left with
  | nil =>
    rcases content_cases h with ⟨-, rfl⟩ | ⟨l, c, l', os, -, -, -, heq⟩ |
      ⟨b, l, os, -, -, -, -, -, heq⟩
    · exact ⟨[], rfl, rfl⟩
    · obtain ⟨b, bs, hc, -⟩ := Utf8.utf8EncodeChar_cons c
      rw [hc] at heq
      cases heq
    · cases heq
  | cons c cs ih =>
    have hcons : Utf8.encode (c :: cs) = String.utf8EncodeChar c ++ Utf8.encode cs := rfl
    rw [hcons] at h
    obtain ⟨b, ts, hc, -, htails⟩ := Utf8.utf8EncodeChar_cons c
    rcases content_cases h with ⟨hnil, -⟩ | ⟨l, d, l', os, rfl, hescape, hread, heq⟩ |
      ⟨b', l, os, rfl, hquote, hbackslash, hcontrol, hread, heq⟩
    · rw [hc] at hnil
      cases hnil
    · obtain ⟨rfl, rfl⟩ := Utf8.utf8EncodeChar_append_inj heq
      obtain ⟨ps, rfl, hps⟩ := ih hread
      obtain ⟨front, hfront, hdenote⟩ := exists_escape hescape
      refine ⟨front ++ ps, ?_, by rw [hdenote, hps, Option.map_some]⟩
      rw [hfront, List.flatMap_append, List.append_assoc]
    · rw [hc] at heq
      obtain ⟨rfl, rfl⟩ := List.cons.inj heq
      obtain ⟨l', rfl, hl'⟩ := content_tails htails hread
      obtain ⟨ps, rfl, hps⟩ := ih hl'
      refine ⟨.plain c (plain_of_octet hc hquote hbackslash hcontrol) :: ps, ?_, ?_⟩
      · rw [List.flatMap_cons, Piece.octets, hc, List.append_assoc]
        rfl
      · rw [denote?, hps, Option.map_some]

/-- **What is read as a text is one**, and denotes what it is read as. -/
lemma exists_quoted {left rest : Bytes} {s : String} (h : text left = .ok (s, rest)) :
    ∃ ps : List Piece, Ascii.quote :: left = quoted ps ++ rest ∧ denote? ps = some s.toList := by
  rw [text] at h
  cases hread : content left with
  | error f => simp [hread] at h
  | ok p =>
    obtain ⟨octets, rest'⟩ := p
    simp only [hread] at h
    split at h
    · rename_i s' hs
      obtain ⟨rfl, rfl⟩ := Prod.mk.inj (Except.ok.inj h)
      have hoctets : octets = Utf8.encode s'.toList := (Utf8.ofString_of_string? hs).symm
      rw [hoctets] at hread
      obtain ⟨ps, rfl, hps⟩ := exists_pieces hread
      exact ⟨ps, by simp [quoted], hps⟩
    · cases h

end Consent.Json
