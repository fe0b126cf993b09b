import Consent.Ascii
import Consent.Text.Utf8
import Mathlib.Tactic.Lemma

set_option autoImplicit false

/-!
# Characters and octets

The strict reading of octets is the inverse of writing characters: the octets of a character are
read as this character, whatever follows, and octets that are read as characters are theirs. Either
reading looks ahead by four octets at most.

## Main results

* `Consent.Utf8.pieces_utf8EncodeChar` — the octets of a character are one piece.
* `Consent.Utf8.string?_encode` — the octets of some characters are read as their text.
* `Consent.Utf8.ofString_of_string?` — octets that are read as a text are its octets.
* `Consent.Utf8.exists_pieces_more`, `Consent.Utf8.exists_decodeLossy_more` — octets that come late
  do not change the first pieces and characters.
-/

namespace Consent.Utf8

/-- Six bits make a continuation octet. -/
@[simp] lemma isTail_ofNat (n : Nat) : isTail (UInt8.ofNat (n % 64 + 128)) = true := by
  have hn : (UInt8.ofNat (n % 64 + 128)).toNat = n % 64 + 128 := by
    rw [UInt8.toNat_ofNat']
    omega
  simp only [isTail, UInt8.le_iff_toNat_le, hn, UInt8.reduceToNat, Bool.and_eq_true,
    decide_eq_true_eq]
  omega

/-- A continuation octet keeps its six bits. -/
@[simp] lemma tailBits_ofNat (n : Nat) : tailBits (UInt8.ofNat (n % 64 + 128)) = n % 64 := by
  rw [tailBits, UInt8.toNat_ofNat']
  omega

/-- The octets of a character: one that is the character, or only ones that no ASCII character
has. -/
lemma mem_utf8EncodeChar {c : Char} {b : UInt8} (h : b ∈ String.utf8EncodeChar c) :
    b.toNat = c.toNat ∨ 0x80 ≤ b.toNat := by
  have hc : c.val.toNat = c.toNat := rfl
  simp only [String.utf8EncodeChar, hc] at h
  split at h
  · obtain rfl := List.mem_singleton.mp h
    left
    rw [UInt8.toNat_ofNat']
    omega
  · right
    split at h
    · simp only [List.mem_cons, List.not_mem_nil, or_false] at h
      rcases h with rfl | rfl <;> rw [UInt8.toNat_ofNat'] <;> omega
    · split at h
      · simp only [List.mem_cons, List.not_mem_nil, or_false] at h
        rcases h with rfl | rfl | rfl <;> rw [UInt8.toNat_ofNat'] <;> omega
      · simp only [List.mem_cons, List.not_mem_nil, or_false] at h
        rcases h with rfl | rfl | rfl | rfl <;> rw [UInt8.toNat_ofNat'] <;> omega

/-- An ASCII character is one octet. -/
lemma utf8EncodeChar_of_lt {c : Char} (h : c.toNat < 0x80) :
    String.utf8EncodeChar c = [Ascii.octet c] := by
  have hc : c.val.toNat = c.toNat := rfl
  simp only [String.utf8EncodeChar, hc]
  rw [if_pos (by omega)]
  rfl

/-- The octets of characters stand one after the other. -/
lemma encode_append (cs ds : List Char) : encode (cs ++ ds) = encode cs ++ encode ds :=
  List.flatMap_append

/-- Lean counts the same octets. -/
lemma length_encode (cs : List Char) : (encode cs).length = (String.ofList cs).utf8ByteSize := by
  rw [← String.size_toByteArray, String.toByteArray_ofList, List.utf8Encode,
    List.size_toByteArray, encode]

/-- The first characters are in the first octets. -/
lemma take_encode (cs : List Char) (n : Nat) :
    (encode cs).take (String.ofList (cs.take n)).utf8ByteSize = encode (cs.take n) := by
  have hsplit : encode cs = encode (cs.take n) ++ encode (cs.drop n) := by
    rw [← encode_append, List.take_append_drop]
  rw [hsplit, ← length_encode, List.take_left]

/-- ASCII characters are one octet each. -/
lemma encode_of_lt {cs : List Char} (h : ∀ c ∈ cs, c.toNat < 0x80) :
    encode cs = cs.map Ascii.octet := by
  induction cs with
  | nil => rfl
  | cons c cs ih =>
    rw [encode, List.flatMap_cons, utf8EncodeChar_of_lt (h c List.mem_cons_self), ← encode,
      ih fun c' hc' => h c' (List.mem_cons_of_mem _ hc')]
    rfl

/-! ### Characters are read as they are written -/

section

variable {v : Nat}

/-- One octet is a character by itself. -/
lemma pieces_one (h : v ≤ 127) (rest : Bytes) :
    pieces (UInt8.ofNat v :: rest) = some (Char.ofNat v) :: pieces rest := by
  have hv : (UInt8.ofNat v).toNat = v := by
    rw [UInt8.toNat_ofNat']
    omega
  have hlow : UInt8.ofNat v < 0x80 := by
    simp only [UInt8.lt_iff_toNat_lt, hv, UInt8.reduceToNat]
    omega
  rw [pieces.eq_def]
  simp only [if_pos hlow, hv]

/-- Two octets are one character. -/
lemma pieces_two (h : 127 < v) (h' : v ≤ 2047) (rest : Bytes) :
    pieces (UInt8.ofNat (v / 64 % 32 + 192) :: UInt8.ofNat (v % 64 + 128) :: rest) =
      some (Char.ofNat v) :: pieces rest := by
  have hlead : (UInt8.ofNat (v / 64 % 32 + 192)).toNat = v / 64 % 32 + 192 := by
    rw [UInt8.toNat_ofNat']
    omega
  rw [pieces.eq_def]
  simp only [UInt8.lt_iff_toNat_lt, UInt8.le_iff_toNat_le, hlead, UInt8.reduceToNat,
    Bool.and_eq_true, decide_eq_true_eq, isTail_ofNat, tailBits_ofNat, if_true]
  rw [if_neg (by omega), if_pos (by omega)]
  congr 3
  omega

/-- Three octets are one character, unless its number is a surrogate. -/
lemma pieces_three (h : 2047 < v) (h' : v ≤ 65535) (hunit : v < 0xd800 ∨ 0xdfff < v)
    (rest : Bytes) :
    pieces (UInt8.ofNat (v / 4096 % 16 + 224) :: UInt8.ofNat (v / 64 % 64 + 128) ::
        UInt8.ofNat (v % 64 + 128) :: rest) =
      some (Char.ofNat v) :: pieces rest := by
  have hlead : (UInt8.ofNat (v / 4096 % 16 + 224)).toNat = v / 4096 % 16 + 224 := by
    rw [UInt8.toNat_ofNat']
    omega
  have hnext : (UInt8.ofNat (v / 64 % 64 + 128)).toNat = v / 64 % 64 + 128 := by
    rw [UInt8.toNat_ofNat']
    omega
  have hsecond : isSecondOfThree (UInt8.ofNat (v / 4096 % 16 + 224))
      (UInt8.ofNat (v / 64 % 64 + 128)) = true := by
    simp only [isSecondOfThree, isTail_ofNat, ← UInt8.toNat_inj, UInt8.le_iff_toNat_le, hlead,
      hnext, UInt8.reduceToNat]
    split
    · simp only [Bool.and_eq_true, decide_eq_true_eq]
      omega
    · split
      · simp only [Bool.and_eq_true, decide_eq_true_eq]
        omega
      · rfl
  rw [pieces.eq_def]
  simp only [UInt8.lt_iff_toNat_lt, UInt8.le_iff_toNat_le, hlead, UInt8.reduceToNat,
    Bool.and_eq_true, decide_eq_true_eq, isTail_ofNat, tailBits_ofNat, hsecond, if_true]
  rw [if_neg (by omega), if_neg (by omega), if_pos (by omega)]
  congr 3
  omega

/-- Four octets are one character, unless its number is too large. -/
lemma pieces_four (h : 65535 < v) (h' : v < 0x110000) (rest : Bytes) :
    pieces (UInt8.ofNat (v / 262144 % 8 + 240) :: UInt8.ofNat (v / 4096 % 64 + 128) ::
        UInt8.ofNat (v / 64 % 64 + 128) :: UInt8.ofNat (v % 64 + 128) :: rest) =
      some (Char.ofNat v) :: pieces rest := by
  have hlead : (UInt8.ofNat (v / 262144 % 8 + 240)).toNat = v / 262144 % 8 + 240 := by
    rw [UInt8.toNat_ofNat']
    omega
  have hnext : (UInt8.ofNat (v / 4096 % 64 + 128)).toNat = v / 4096 % 64 + 128 := by
    rw [UInt8.toNat_ofNat']
    omega
  have hsecond : isSecondOfFour (UInt8.ofNat (v / 262144 % 8 + 240))
      (UInt8.ofNat (v / 4096 % 64 + 128)) = true := by
    simp only [isSecondOfFour, isTail_ofNat, ← UInt8.toNat_inj, UInt8.le_iff_toNat_le, hlead,
      hnext, UInt8.reduceToNat]
    split
    · simp only [Bool.and_eq_true, decide_eq_true_eq]
      omega
    · split
      · simp only [Bool.and_eq_true, decide_eq_true_eq]
        omega
      · rfl
  rw [pieces.eq_def]
  simp only [UInt8.lt_iff_toNat_lt, UInt8.le_iff_toNat_le, hlead, UInt8.reduceToNat,
    Bool.and_eq_true, decide_eq_true_eq, isTail_ofNat, tailBits_ofNat, hsecond, if_true]
  rw [if_neg (by omega), if_neg (by omega), if_neg (by omega), if_pos (by omega)]
  congr 3
  omega

end

/-- **The octets of a character are one piece**, whatever follows.

**Proof sketch.** The number of a character is no surrogate and not too large, so it has one of the
four forms. -/
lemma pieces_utf8EncodeChar (c : Char) (rest : Bytes) :
    pieces (String.utf8EncodeChar c ++ rest) = some c :: pieces rest := by
  have hvalid : c.val.toNat < 0xd800 ∨ 0xdfff < c.val.toNat ∧ c.val.toNat < 0x110000 := c.valid
  have hchar : some (Char.ofNat c.val.toNat) = some c := congrArg some (Char.ofNat_toNat c)
  rw [← hchar]
  simp only [String.utf8EncodeChar]
  by_cases h1 : c.val.toNat ≤ 127
  · rw [if_pos h1]
    exact pieces_one h1 rest
  by_cases h2 : c.val.toNat ≤ 2047
  · rw [if_neg h1, if_pos h2]
    exact pieces_two (by omega) h2 rest
  by_cases h3 : c.val.toNat ≤ 65535
  · rw [if_neg h1, if_neg h2, if_pos h3]
    exact pieces_three (by omega) h3 (by omega) rest
  · rw [if_neg h1, if_neg h2, if_neg h3]
    exact pieces_four (by omega) (by omega) rest

/-- The octets of some characters are these characters, whatever follows. -/
lemma pieces_encode_append (cs : List Char) (rest : Bytes) :
    pieces (encode cs ++ rest) = cs.map some ++ pieces rest := by
  induction cs with
  | nil => rfl
  | cons c cs ih =>
    rw [encode, List.flatMap_cons, List.append_assoc, pieces_utf8EncodeChar, ← encode, ih,
      List.map_cons, List.cons_append]

/-- The octets of some characters are these characters. -/
lemma pieces_encode (cs : List Char) : pieces (encode cs) = cs.map some := by
  rw [← List.append_nil (encode cs), pieces_encode_append, pieces, List.append_nil]

/-- **The octets of some characters are read as these characters.** -/
@[simp] lemma decode?_encode (cs : List Char) : decode? (encode cs) = some cs := by
  have hall : (cs.map some).mapM id = some cs := by
    induction cs with
    | nil => rfl
    | cons c cs ih => simp [List.mapM_cons, ih]
  rw [decode?, pieces_encode, hall]

/-- The octets of some characters are read as their text. -/
@[simp] lemma string?_encode (cs : List Char) : string? (encode cs) = some (String.ofList cs) := by
  rw [string?, decode?_encode, Option.map_some]

/-- A character begins with an octet that is no continuation, and goes on with such ones. -/
lemma utf8EncodeChar_cons (c : Char) : ∃ b ts, String.utf8EncodeChar c = b :: ts ∧
    isTail b = false ∧ ∀ t ∈ ts, isTail t = true := by
  have hlead : ∀ n : Nat, n < 128 ∨ 192 ≤ n ∧ n < 256 → isTail (UInt8.ofNat n) = false := by
    intro n hn
    have hnat : (UInt8.ofNat n).toNat = n := by
      rw [UInt8.toNat_ofNat']
      omega
    simp only [isTail, UInt8.le_iff_toNat_le, hnat, UInt8.reduceToNat, Bool.and_eq_false_iff,
      decide_eq_false_iff_not]
    omega
  have htails : ∀ ns : List Nat, ∀ t ∈ ns.map fun n => UInt8.ofNat (n % 64 + 128),
      isTail t = true := by
    intro ns
    simp only [List.forall_mem_map, isTail_ofNat, implies_true]
  simp only [String.utf8EncodeChar]
  split
  · exact ⟨_, _, rfl, hlead _ (by omega), List.forall_mem_nil _⟩
  · split
    · exact ⟨_, _, rfl, hlead _ (by omega), htails [_]⟩
    · split
      · exact ⟨_, _, rfl, hlead _ (by omega), htails [_, _]⟩
      · exact ⟨_, _, rfl, hlead _ (by omega), htails [_, _, _]⟩

/-- Octets begin with one character at most. -/
lemma utf8EncodeChar_append_inj {c d : Char} {bs ds : Bytes}
    (h : String.utf8EncodeChar c ++ bs = String.utf8EncodeChar d ++ ds) : c = d ∧ bs = ds := by
  have hpieces : some c :: pieces bs = some d :: pieces ds := by
    rw [← pieces_utf8EncodeChar, ← pieces_utf8EncodeChar, h]
  obtain rfl := Option.some.inj (List.cons.inj hpieces).1
  exact ⟨rfl, List.append_cancel_left h⟩

/-! ### What is read as characters -/

/-- The number of a character that has one. -/
lemma toNat_val_ofNat {n : Nat} (h : n < 0xd800 ∨ 0xdfff < n ∧ n < 0x110000) :
    (Char.ofNat n).val.toNat = n := by
  have hvalid : n.isValidChar := h
  rw [Char.ofNat, dif_pos hvalid]
  rfl

/-- A continuation octet is one of 64. -/
lemma isTail_iff {b : UInt8} : isTail b = true ↔ 0x80 ≤ b.toNat ∧ b.toNat ≤ 0xbf := by
  simp [isTail, UInt8.le_iff_toNat_le]

/-- An octet with the number of another one is it. -/
lemma ofNat_eq {b : UInt8} {n : Nat} (h : n = b.toNat) : UInt8.ofNat n = b := by
  rw [h, UInt8.ofNat_toNat]

/-- The octet of a character that one octet denotes. -/
lemma utf8EncodeChar_one {b : UInt8} (hb : b < 0x80) :
    String.utf8EncodeChar (Char.ofNat b.toNat) = [b] := by
  have hb' : b.toNat < 0x80 := hb
  have hval := toNat_val_ofNat (n := b.toNat) (by omega)
  simp only [String.utf8EncodeChar, hval]
  rw [if_pos (by omega), ofNat_eq rfl]

/-- The octets of a character that two octets denote. -/
lemma utf8EncodeChar_two {b t : UInt8} (hb : 0xc2 ≤ b.toNat ∧ b.toNat ≤ 0xdf)
    (ht : isTail t = true) :
    String.utf8EncodeChar (Char.ofNat (b.toNat % 32 * 64 + tailBits t)) = [b, t] := by
  have ht' := isTail_iff.mp ht
  have hbits : tailBits t = t.toNat - 0x80 := by rw [tailBits]; omega
  have hval := toNat_val_ofNat (n := b.toNat % 32 * 64 + tailBits t) (by omega)
  simp only [String.utf8EncodeChar, hval]
  rw [if_neg (by omega), if_pos (by omega), ofNat_eq (b := b) (by omega),
    ofNat_eq (b := t) (by omega)]

/-- The octets of a character that three octets denote: the second one keeps its number from being
too small or a surrogate. -/
lemma utf8EncodeChar_three {b t u : UInt8} (hb : 0xe0 ≤ b.toNat ∧ b.toNat ≤ 0xef)
    (ht : isSecondOfThree b t = true) (hu : isTail u = true) :
    String.utf8EncodeChar (Char.ofNat (b.toNat % 16 * 4096 + tailBits t * 64 + tailBits u)) =
      [b, t, u] := by
  have hu' := isTail_iff.mp hu
  have hubits : tailBits u = u.toNat - 0x80 := by rw [tailBits]; omega
  have ht' : 0x80 ≤ t.toNat ∧ t.toNat ≤ 0xbf ∧ (b.toNat = 0xe0 → 0xa0 ≤ t.toNat) ∧
      (b.toNat = 0xed → t.toNat ≤ 0x9f) := by
    simp only [isSecondOfThree, isTail, ← UInt8.toNat_inj, UInt8.le_iff_toNat_le,
      UInt8.reduceToNat] at ht
    split at ht
    · simp only [Bool.and_eq_true, decide_eq_true_eq] at ht
      omega
    · split at ht <;> simp only [Bool.and_eq_true, decide_eq_true_eq] at ht <;> omega
  have htbits : tailBits t = t.toNat - 0x80 := by rw [tailBits]; omega
  have hval := toNat_val_ofNat (n := b.toNat % 16 * 4096 + tailBits t * 64 + tailBits u) (by omega)
  simp only [String.utf8EncodeChar, hval]
  rw [if_neg (by omega), if_neg (by omega), if_pos (by omega), ofNat_eq (b := b) (by omega),
    ofNat_eq (b := t) (by omega), ofNat_eq (b := u) (by omega)]

/-- The octets of a character that four octets denote: the second one keeps its number from being
too small or too large. -/
lemma utf8EncodeChar_four {b t u v : UInt8} (hb : 0xf0 ≤ b.toNat ∧ b.toNat ≤ 0xf4)
    (ht : isSecondOfFour b t = true) (hu : isTail u = true) (hv : isTail v = true) :
    String.utf8EncodeChar (Char.ofNat (b.toNat % 8 * 262144 + tailBits t * 4096 +
      tailBits u * 64 + tailBits v)) = [b, t, u, v] := by
  have hu' := isTail_iff.mp hu
  have hv' := isTail_iff.mp hv
  have hubits : tailBits u = u.toNat - 0x80 := by rw [tailBits]; omega
  have hvbits : tailBits v = v.toNat - 0x80 := by rw [tailBits]; omega
  have ht' : 0x80 ≤ t.toNat ∧ t.toNat ≤ 0xbf ∧ (b.toNat = 0xf0 → 0x90 ≤ t.toNat) ∧
      (b.toNat = 0xf4 → t.toNat ≤ 0x8f) := by
    simp only [isSecondOfFour, isTail, ← UInt8.toNat_inj, UInt8.le_iff_toNat_le,
      UInt8.reduceToNat] at ht
    split at ht
    · simp only [Bool.and_eq_true, decide_eq_true_eq] at ht
      omega
    · split at ht <;> simp only [Bool.and_eq_true, decide_eq_true_eq] at ht <;> omega
  have htbits : tailBits t = t.toNat - 0x80 := by rw [tailBits]; omega
  have hval := toNat_val_ofNat (n := b.toNat % 8 * 262144 + tailBits t * 4096 +
      tailBits u * 64 + tailBits v) (by omega)
  simp only [String.utf8EncodeChar, hval]
  rw [if_neg (by omega), if_neg (by omega), if_neg (by omega), ofNat_eq (b := b) (by omega),
    ofNat_eq (b := t) (by omega), ofNat_eq (b := u) (by omega), ofNat_eq (b := v) (by omega)]

/-- A character and others, whose octets are known. -/
lemma encode_cons {c d : Char} {cs : List Char} {front rest : Bytes} (hc : some c = some d)
    (hfront : String.utf8EncodeChar d = front) (hrest : encode cs = rest) :
    encode (c :: cs) = front ++ rest := by
  obtain rfl := Option.some.inj hc
  rw [encode, List.flatMap_cons, hfront, ← encode, hrest]

/-- **Octets that are cut into characters only are the octets of these.**

**Proof sketch.** By induction on how the octets are cut. A malformed subpart is no character, and
each of the four forms of a character is the one in which it is written. -/
lemma encode_of_pieces {bs : Bytes} {cs : List Char} (h : pieces bs = cs.map some) :
    encode cs = bs := by
  fun_induction pieces bs generalizing cs
  case case1 =>
    obtain rfl := List.map_eq_nil_iff.mp h.symm
    rfl
  all_goals obtain ⟨c, cs, rfl, hc, hrest⟩ := List.map_eq_cons_iff.mp h.symm
  case case2 b rest hb ih =>
    exact encode_cons hc (utf8EncodeChar_one hb) (ih hrest.symm)
  case case4 b _ hb t rest ht ih =>
    have hb' : 0xc2 ≤ b.toNat ∧ b.toNat ≤ 0xdf := by simpa [UInt8.le_iff_toNat_le] using hb
    exact encode_cons hc (utf8EncodeChar_two hb' ht) (ih hrest.symm)
  case case8 b _ _ hb t ht u rest hu ih =>
    have hb' : 0xe0 ≤ b.toNat ∧ b.toNat ≤ 0xef := by simpa [UInt8.le_iff_toNat_le] using hb
    exact encode_cons hc (utf8EncodeChar_three hb' ht hu) (ih hrest.symm)
  case case14 b _ _ _ hb t ht u hu v rest hv ih =>
    have hb' : 0xf0 ≤ b.toNat ∧ b.toNat ≤ 0xf4 := by simpa [UInt8.le_iff_toNat_le] using hb
    exact encode_cons hc (utf8EncodeChar_four hb' ht hu hv) (ih hrest.symm)
  all_goals cases hc

/-- **Octets that are read as a text are the octets of its characters.** -/
lemma ofString_of_string? {bs : Bytes} {s : String} (h : string? bs = some s) :
    ofString s = bs := by
  obtain ⟨cs, hdecode, rfl⟩ := Option.map_eq_some_iff.mp h
  have hall : ∀ (ps : List (Option Char)) (cs : List Char), ps.mapM id = some cs →
      ps = cs.map some := by
    intro ps
    induction ps with
    | nil =>
      intro cs hcs
      obtain rfl := Option.some.inj hcs
      rfl
    | cons p ps ih =>
      intro cs hcs
      simp only [List.mapM_cons, id, bind, Option.bind_eq_some_iff] at hcs
      obtain ⟨c, hp, cs', hcs', heq⟩ := hcs
      obtain rfl := Option.some.inj heq
      rw [hp, ih cs' hcs', List.map_cons]
  rw [ofString, String.toList_ofList]
  exact encode_of_pieces (hall _ _ hdecode)

/-- Octets decode to the characters that they are the octets of. -/
lemma decode?_eq_some_iff {bs : Bytes} {cs : List Char} :
    decode? bs = some cs ↔ bs = encode cs := by
  constructor
  · intro h
    have hstring : string? bs = some (String.ofList cs) := by rw [string?, h, Option.map_some]
    rw [← ofString_of_string? hstring, ofString, String.toList_ofList]
  · rintro rfl
    exact decode?_encode cs

/-! ### How far pieces reach -/

/-- Only no octets are no pieces. -/
lemma pieces_eq_nil_iff {bs : Bytes} : pieces bs = [] ↔ bs = [] := by
  fun_cases pieces bs
  case case1 => exact iff_of_true rfl rfl
  all_goals exact iff_of_false (List.cons_ne_nil _ _) (List.cons_ne_nil _ _)

/-- **Four octets tell the first piece**, whatever follows them, and it takes no more than these.

**Proof sketch.** By the cases in which octets are cut. A piece is decided by the octets up to the
first one that cannot belong to it, which is the fourth at the latest; where octets run out before
that, there are fewer than four. -/
lemma exists_piece_more {front : Bytes} (hfront : 4 ≤ front.length) : ∃ piece rest,
    pieces front = piece :: pieces rest ∧ front.length ≤ rest.length + 4 ∧
      ∀ more, pieces (front ++ more) = piece :: pieces (rest ++ more) := by
  fun_cases pieces front
  case case1 | case3 | case6 | case7 | case11 | case12 | case13 => simp at hfront
  -- What decides the piece stands in `front`, so it decides it with more behind, too.
  all_goals
    refine ⟨_, _, rfl, by simp, fun more => ?_⟩
    simp only [List.cons_append]
    rw [pieces.eq_def]
    simp only [*, if_true, if_false, Bool.false_eq_true]

/-- Four octets for each of them tell the first pieces. -/
lemma exists_pieces_more (n : Nat) {front : Bytes} (hfront : 4 * n ≤ front.length) : ∃ ps rest,
    ps.length = n ∧ front.length ≤ rest.length + 4 * n ∧
      ∀ more, pieces (front ++ more) = ps ++ pieces (rest ++ more) := by
  induction n generalizing front with
  | zero => exact ⟨[], front, rfl, by omega, fun _ => rfl⟩
  | succ n ih =>
    have hfirst : 4 ≤ front.length := by omega
    obtain ⟨piece, rest, -, hrest, hpiece⟩ := exists_piece_more hfirst
    have hleft : 4 * n ≤ rest.length := by omega
    obtain ⟨ps, rest', rfl, hrest', hps⟩ := ih hleft
    refine ⟨piece :: ps, rest', rfl, by omega, fun more => ?_⟩
    rw [hpiece, hps, List.cons_append]

/-- The first characters of the lenient reading are told by four octets for each of them, and that
there are others by one octet more. -/
lemma exists_decodeLossy_more (n : Nat) {front : Bytes} (hfront : 4 * n < front.length) :
    ∃ cs, cs.length = n ∧ ∀ more, ∃ c left, decodeLossy (front ++ more) = cs ++ c :: left := by
  obtain ⟨ps, rest, hps, hrest, hpieces⟩ := exists_pieces_more n (Nat.le_of_lt hfront)
  refine ⟨ps.map (·.getD replacement), by rw [List.length_map, hps], fun more => ?_⟩
  have hleft : pieces (rest ++ more) ≠ [] := by
    rw [Ne, pieces_eq_nil_iff]
    refine List.ne_nil_of_length_pos ?_
    rw [List.length_append]
    omega
  obtain ⟨piece, others, hothers⟩ := List.exists_cons_of_ne_nil hleft
  refine ⟨piece.getD replacement, others.map (·.getD replacement), ?_⟩
  rw [decodeLossy, hpieces, hothers, List.map_append, List.map_cons]

end Consent.Utf8
