import Consent.Proofs.Json.Lists

set_option autoImplicit false

/-!
# How far readers look ahead

A reader takes the same value off a body when more follows, and leaves what it left before and what
follows. Only a number must be told from what stands behind it, so a value that is passed over must
have something left behind it. Inside of a bracket that is the case, since the bracket is closed
later on; and a structure ends with its bracket.

## Main definitions

* `Consent.Json.Steady` — a reader does not look at what follows.

## Main results

* `Consent.Json.skip_more` — a value is passed over alike when more follows.
* `Consent.Json.Shape.steady_read` — a structure is read alike.
* `Consent.Json.readAll_more` — only blanks may follow a body that is read.
-/

namespace Consent.Json

variable {left rest : Bytes}

/-- A reader takes the same value off a body that goes on. -/
def Steady {α : Type} (reader : Reader α) : Prop :=
  ∀ {left rest : Bytes} {a : α}, reader left = .ok (a, rest) →
    ∀ more, reader (left ++ more) = .ok (a, rest ++ more)

/-! ### Blanks and words -/

/-- What follows does not change where the blanks at the front end. -/
lemma skipBlanks_more {b : UInt8} (h : skipBlanks left = b :: rest) (more : Bytes) :
    skipBlanks (left ++ more) = b :: (rest ++ more) := by
  rw [skipBlanks, List.dropWhile_append, ← skipBlanks, h]
  rfl

/-- A word is read alike when more follows. -/
lemma word_more {letters : List UInt8} (h : word letters left = .ok rest) (more : Bytes) :
    word letters (left ++ more) = .ok (rest ++ more) := by
  fun_induction word letters left with
  | case1 => rw [← Except.ok.inj h]; rfl
  | case2 => cases h
  | case3 letter letters rest ih => simpa [word] using ih h
  | case4 => cases h

/-! ### Texts -/

/-- Four hexadecimal digits are read alike when more follows. -/
lemma steady_hexUnit : Steady hexUnit := by
  intro left rest n h more
  unfold hexUnit at h
  split at h
  · split at h
    · rename_i ha hb hc hd
      obtain ⟨rfl, rfl⟩ := Prod.mk.inj (Except.ok.inj h)
      simp only [List.cons_append, hexUnit, ha, hb, hc, hd]
    · cases h
  · cases h

/-- The second half of a pair is read alike when more follows. -/
lemma steady_secondUnit (high : Nat) : Steady (secondUnit high) := by
  intro left rest c h more
  unfold secondUnit at h
  split at h
  · split at h
    · cases h
    · rename_i hunit
      split at h
      · rename_i hlow
        obtain ⟨rfl, rfl⟩ := Prod.mk.inj (Except.ok.inj h)
        simp only [List.cons_append, secondUnit, steady_hexUnit hunit, if_pos hlow]
      · cases h
  all_goals cases h

/-- An escape is read alike when more follows. -/
lemma steady_escape : Steady escape := by
  intro left rest c h more
  unfold escape at h
  split at h
  · cases h
  · rename_i b left
    rw [List.cons_append, escape]
    split at h
    · rename_i hu
      rw [if_pos hu]
      split at h
      · cases h
      · rename_i hunit
        simp only [steady_hexUnit hunit]
        split at h
        · cases h
        · rename_i hlow
          rw [if_neg hlow]
          split at h
          · rename_i hhigh
            rw [if_pos hhigh, steady_secondUnit _ h]
          · rename_i hhigh
            obtain ⟨rfl, rfl⟩ := Prod.mk.inj (Except.ok.inj h)
            rw [if_neg hhigh]
    · rename_i hu
      rw [if_neg hu]
      split at h
      · obtain ⟨rfl, rfl⟩ := Prod.mk.inj (Except.ok.inj h)
        rfl
      · cases h

/-- The octets up to the closing quote are read alike when more follows. -/
lemma steady_content : Steady content := by
  intro left rest octets h more
  fun_induction content left generalizing octets with
  | case1 => cases h
  | case2 =>
    obtain ⟨rfl, rfl⟩ := Prod.mk.inj (Except.ok.inj h)
    rw [List.cons_append, content, if_pos rfl]
  | case3 => cases h
  | case4 left c left' hescape _ hquote ih =>
    obtain ⟨⟨os, left''⟩, hos, heq⟩ := ok_of_map_eq_ok h
    obtain ⟨rfl, rfl⟩ := Prod.mk.inj heq
    rw [List.cons_append, content.eq_def]
    simp only [if_neg hquote, if_true]
    split
    · rename_i hmore
      rw [steady_escape hescape] at hmore
      cases hmore
    · rename_i hmore
      rw [steady_escape hescape] at hmore
      obtain ⟨rfl, rfl⟩ := Prod.mk.inj (Except.ok.inj hmore)
      rw [ih hos]
      rfl
  | case5 => cases h
  | case6 b left hquote hescape hcontrol ih =>
    obtain ⟨⟨os, left''⟩, hos, heq⟩ := ok_of_map_eq_ok h
    obtain ⟨rfl, rfl⟩ := Prod.mk.inj heq
    rw [List.cons_append, content, if_neg hquote, if_neg hescape, if_neg hcontrol, ih hos]
    rfl

/-- A text is read alike when more follows. -/
lemma steady_text : Steady text := by
  intro left rest s h more
  unfold text at h
  split at h
  · cases h
  · rename_i hcontent
    split at h
    · rename_i hstring
      obtain ⟨rfl, rfl⟩ := Prod.mk.inj (Except.ok.inj h)
      simp only [text, steady_content hcontent, hstring]
    · cases h

/-- A text is passed over alike when more follows. -/
lemma skipText_more (h : skipText left = .ok rest) (more : Bytes) :
    skipText (left ++ more) = .ok (rest ++ more) := by
  fun_induction skipText left with
  | case1 => cases h
  | case2 =>
    rw [← Except.ok.inj h, List.cons_append, skipText.eq_def]
    simp only [if_true]
  | case3 => cases h
  | case4 h₁ h₂ h₃ h₄ left hhex hquote ih =>
    rw [← ih h]
    simp only [List.cons_append]
    rw [skipText.eq_def]
    simp only [if_neg hquote, if_true, if_pos hhex]
  | case5 => cases h
  | case6 => cases h
  | case7 e left hu hshort hquote ih =>
    rw [← ih h]
    simp only [List.cons_append]
    rw [skipText.eq_def]
    simp only [if_neg hquote, if_true, if_neg hu, if_pos hshort]
  | case8 => cases h
  | case9 => cases h
  | case10 b left hquote hescape hcontrol ih =>
    rw [← ih h, List.cons_append, skipText.eq_def]
    simp only [if_neg hquote, if_neg hescape, if_neg hcontrol]

/-! ### Numbers -/

/-- Whether an octet comes next does not depend on what follows. -/
lemma cons_ne_more {b c : UInt8} (h : ∀ l, b :: left = c :: l → False) (more l : Bytes)
    (heq : b :: (left ++ more) = c :: l) : False :=
  h left (by rw [(List.cons.inj heq).1])

/-- Whether a digit comes next does not depend on what follows. -/
lemma startsWithDigit_more (h : left ≠ []) (more : Bytes) :
    startsWithDigit (left ++ more) = startsWithDigit left := by
  cases left with
  | nil => exact absurd rfl h
  | cons b left => rfl

/-- Where something is left behind some digits, they end there. -/
lemma skipDigits_more (h : skipDigits left ≠ []) (more : Bytes) :
    skipDigits (left ++ more) = skipDigits left ++ more := by
  rw [skipDigits, List.dropWhile_append, ← skipDigits, if_neg (by simpa using h)]

/-- An exponent with something left behind it is passed over alike when more follows. -/
lemma skipExponent_more (h : skipExponent left = .ok rest) (hrest : rest ≠ []) (more : Bytes) :
    skipExponent (left ++ more) = .ok (rest ++ more) := by
  -- The digits behind the sign, which may not be there, decide.
  have hdigits : ∀ digits : Bytes, (if startsWithDigit digits then Except.ok (skipDigits digits)
      else .error (Fault.at .invalidNumber (digits.drop 1))) = Except.ok rest →
      (if startsWithDigit (digits ++ more) then Except.ok (skipDigits (digits ++ more))
        else .error (Fault.at .invalidNumber ((digits ++ more).drop 1))) =
          Except.ok (rest ++ more) := by
    intro digits hread
    split at hread
    · rename_i hstarts
      obtain rfl := Except.ok.inj hread
      have hne : digits ≠ [] := by
        rintro rfl
        cases hstarts
      rw [startsWithDigit_more hne, if_pos hstarts, skipDigits_more hrest]
    · cases hread
  unfold skipExponent at h
  split at h
  · exact hdigits _ h
  · exact hdigits _ h
  · rename_i hplus hminus
    cases left with
    | nil => cases h
    | cons b left =>
      rw [List.cons_append, skipExponent]
      · exact hdigits _ h
      · exact cons_ne_more hplus more
      · exact cons_ne_more hminus more

/-- The same goes for an exponent that may not be there. -/
lemma skipExponent?_more (h : skipExponent? left = .ok rest) (hrest : rest ≠ []) (more : Bytes) :
    skipExponent? (left ++ more) = .ok (rest ++ more) := by
  unfold skipExponent? at h
  split at h
  · exact skipExponent_more h hrest more
  · exact skipExponent_more h hrest more
  · rename_i hlower hupper
    obtain rfl := Except.ok.inj h
    cases left with
    | nil => exact absurd rfl hrest
    | cons b left =>
      rw [List.cons_append, skipExponent?]
      · exact cons_ne_more hlower more
      · exact cons_ne_more hupper more

/-- The same goes for a fraction and an exponent. -/
lemma skipAfterInteger_more (h : skipAfterInteger left = .ok rest) (hrest : rest ≠ [])
    (more : Bytes) : skipAfterInteger (left ++ more) = .ok (rest ++ more) := by
  unfold skipAfterInteger at h
  split at h
  · rename_i left
    split at h
    · rename_i hstarts
      have hne : left ≠ [] := by
        rintro rfl
        cases hstarts
      have hdigits : skipDigits left ≠ [] := by
        intro hnil
        rw [hnil] at h
        exact hrest (Except.ok.inj h).symm
      show (if startsWithDigit (left ++ more) then skipExponent? (skipDigits (left ++ more))
        else _) = _
      rw [startsWithDigit_more hne, if_pos hstarts, skipDigits_more hdigits]
      exact skipExponent?_more h hrest more
    · cases h
  · rename_i hpoint
    cases left with
    | nil => exact absurd (Except.ok.inj h).symm hrest
    | cons b left =>
      rw [List.cons_append, skipAfterInteger]
      · exact skipExponent?_more h hrest more
      · exact cons_ne_more hpoint more

/-- The same goes for a number without its sign. -/
lemma skipUnsigned_more (h : skipUnsigned left = .ok rest) (hrest : rest ≠ []) (more : Bytes) :
    skipUnsigned (left ++ more) = .ok (rest ++ more) := by
  have hne : ∀ {left}, skipAfterInteger left = .ok rest → left ≠ [] := by
    rintro _ hafter rfl
    exact hrest (Except.ok.inj hafter).symm
  unfold skipUnsigned at h
  split at h
  · cases h
  · rename_i b left
    rw [List.cons_append, skipUnsigned]
    split at h
    · rename_i hzero
      rw [if_pos hzero]
      split at h
      · cases h
      · rename_i hdigit
        rw [startsWithDigit_more (hne h), if_neg hdigit, skipAfterInteger_more h hrest]
    · rename_i hzero
      rw [if_neg hzero]
      split at h
      · rename_i hdigit
        rw [if_pos hdigit, skipDigits_more (hne h), skipAfterInteger_more h hrest]
      · cases h

/-- **A number with something left behind it is passed over alike when more follows.** -/
lemma skipNumber_more (h : skipNumber left = .ok rest) (hrest : rest ≠ []) (more : Bytes) :
    skipNumber (left ++ more) = .ok (rest ++ more) := by
  unfold skipNumber at h
  split at h
  · exact skipUnsigned_more h hrest more
  · rename_i hminus
    cases left with
    | nil => cases h
    | cons b left =>
      rw [List.cons_append, skipNumber]
      · exact skipUnsigned_more h hrest more
      · exact cons_ne_more hminus more

/-! ### Passing over values -/

/-- A value without brackets, with something left behind it, is passed over alike when more
follows. -/
lemma skipScalar_more (h : skipScalar left = .ok rest) (hrest : rest ≠ []) (more : Bytes) :
    skipScalar (left ++ more) = .ok (rest ++ more) := by
  unfold skipScalar at h
  split at h
  · cases h
  · rename_i b left
    rw [List.cons_append, skipScalar]
    repeat' split at h
    · rename_i hn
      rw [if_pos hn, word_more h]
    · rename_i hn ht
      rw [if_neg hn, if_pos ht, word_more h]
    · rename_i hn ht hf
      rw [if_neg hn, if_neg ht, if_pos hf, word_more h]
    · rename_i hn ht hf hq
      rw [if_neg hn, if_neg ht, if_neg hf, if_pos hq, skipText_more h]
    · rename_i hn ht hf hq hd
      rw [if_neg hn, if_neg ht, if_neg hf, if_neg hq, if_pos hd, ← List.cons_append,
        skipNumber_more h hrest]
    · cases h

/-- A colon is read alike when more follows. -/
lemma colon_more (h : colon left = .ok rest) (more : Bytes) :
    colon (left ++ more) = .ok (rest ++ more) := by
  unfold colon at h
  split at h
  · rename_i heq
    obtain rfl := Except.ok.inj h
    rw [colon, skipBlanks_more heq]
    rfl
  all_goals cases h

/-- A key is passed over alike when more follows. -/
lemma skipKey_more (h : skipKey left = .ok rest) (more : Bytes) :
    skipKey (left ++ more) = .ok (rest ++ more) := by
  unfold skipKey at h
  split at h
  · rename_i heq
    split at h
    · cases h
    · rename_i htext
      rw [skipKey, skipBlanks_more heq]
      simp only [skipText_more htext, colon_more h]
  all_goals cases h

/-- The start of an entry is passed over alike when more follows. -/
lemma Bracket.enter_more {k : Bracket} (h : k.enter left = .ok rest) (more : Bytes) :
    k.enter (left ++ more) = .ok (rest ++ more) := by
  cases k with
  | list =>
    obtain rfl := Except.ok.inj h
    rfl
  | object =>
    exact skipKey_more h more

/-- Behind the last octet nothing can be left. -/
lemma skipEntries_empty {stack : List Bracket} {behindEntry : Bool}
    (h : skipEntries stack behindEntry [] = .ok rest) : rest = [] := by
  cases stack with
  | nil =>
    rw [skipEntries_nil] at h
    exact (Except.ok.inj h).symm
  | cons bracket outer =>
    rw [skipEntries_cons] at h
    cases h

/-- **A value with something left behind it is passed over alike when more follows**, and so is what
is left inside of open brackets.

**Proof sketch.** Induction on the octets that are left, in the order in which they are passed over.
Where a value without brackets ends, something is left, since it is left in the end. -/
lemma skip_more (more : Bytes) :
    (∀ stack left, ∀ rest, skipValue stack left = .ok rest → rest ≠ [] →
      skipValue stack (left ++ more) = .ok (rest ++ more)) ∧
    ∀ stack behindEntry left, ∀ rest, skipEntries stack behindEntry left = .ok rest → rest ≠ [] →
      skipEntries stack behindEntry (left ++ more) = .ok (rest ++ more) := by
  apply skipValue.mutual_induct
    (fun stack left => ∀ rest, skipValue stack left = .ok rest → rest ≠ [] →
      skipValue stack (left ++ more) = .ok (rest ++ more))
    (fun stack behindEntry left => ∀ rest, skipEntries stack behindEntry left = .ok rest →
      rest ≠ [] → skipEntries stack behindEntry (left ++ more) = .ok (rest ++ more))
  case case1 =>
    intro stack left hleft rest h
    rw [skipValue_eq, hleft] at h
    cases h
  case case2 =>
    intro stack left inside hleft _ ih rest h hrest
    rw [skipValue_eq, hleft] at h
    rw [skipValue_eq, skipBlanks_more hleft]
    exact ih rest h hrest
  case case3 =>
    intro stack left inside hleft _ hbracket ih rest h hrest
    rw [skipValue_eq, hleft] at h
    rw [skipValue_eq, skipBlanks_more hleft]
    exact ih rest h hrest
  case case4 =>
    intro stack left b inside hleft _ hbracket hbrace f hscalar rest h
    rw [skipValue_eq, hleft] at h
    simp only [if_neg hbracket, if_neg hbrace, hscalar] at h
    cases h
  case case5 =>
    intro stack left b inside hleft _ hbracket hbrace left' hscalar _ ih rest h hrest
    rw [skipValue_eq, hleft] at h
    simp only [if_neg hbracket, if_neg hbrace, hscalar] at h
    have hleft' : left' ≠ [] := by
      rintro rfl
      exact hrest (skipEntries_empty h)
    have hmore := skipScalar_more hscalar hleft' more
    rw [List.cons_append] at hmore
    rw [skipValue_eq, skipBlanks_more hleft]
    simp only [if_neg hbracket, if_neg hbrace, hmore]
    exact ih rest h hrest
  case case6 =>
    intro behindEntry left rest h _
    rw [skipEntries_nil] at h ⊢
    rw [Except.ok.inj h]
  case case7 =>
    intro behindEntry left bracket outer hleft rest h
    rw [skipEntries_cons, hleft] at h
    cases h
  case case8 =>
    intro behindEntry left bracket outer b inside hleft _ hcomma f henter rest h
    rw [skipEntries_cons, hleft] at h
    simp only [if_pos hcomma, henter] at h
    cases h
  case case9 =>
    intro behindEntry left bracket outer b inside hleft _ hcomma left' henter _ ih rest h hrest
    rw [skipEntries_cons, hleft] at h
    simp only [if_pos hcomma, henter] at h
    rw [skipEntries_cons, skipBlanks_more hleft]
    simp only [if_pos hcomma, Bracket.enter_more henter]
    exact ih rest h hrest
  case case10 =>
    intro behindEntry left bracket outer inside hleft _ hcomma ih rest h hrest
    rw [skipEntries_cons, hleft] at h
    simp only [if_neg hcomma, if_true] at h
    rw [skipEntries_cons, skipBlanks_more hleft]
    simp only [if_neg hcomma, if_true]
    exact ih rest h hrest
  case case11 =>
    intro left bracket outer b inside hleft _ hcloser hcomma rest h
    rw [skipEntries_cons, hleft] at h
    simp only [if_neg hcomma, if_neg hcloser] at h
    cases h
  case case12 =>
    intro behindEntry left bracket outer b inside hleft _ hcomma hcloser hbehind f henter rest h
    rw [skipEntries_cons, hleft] at h
    simp only [if_neg hcomma, if_neg hcloser, if_neg hbehind, henter] at h
    cases h
  case case13 =>
    intro behindEntry left bracket outer b inside hleft _ hcomma hcloser hbehind left' henter _ ih
      rest h hrest
    rw [skipEntries_cons, hleft] at h
    simp only [if_neg hcomma, if_neg hcloser, if_neg hbehind, henter] at h
    have hmore := Bracket.enter_more henter more
    rw [List.cons_append] at hmore
    rw [skipEntries_cons, skipBlanks_more hleft]
    simp only [if_neg hcomma, if_neg hcloser, if_neg hbehind, hmore]
    exact ih rest h hrest

/-! ### Values of members -/

/-- A truth value is read alike when more follows. -/
lemma steady_flag : Steady flag := by
  intro left rest b h more
  unfold flag at h
  split at h
  · cases h
  · rename_i hleft
    rw [flag, skipBlanks_more hleft]
    dsimp only
    split at h
    · rename_i ht
      obtain ⟨rest', hword, heq⟩ := ok_of_map_eq_ok h
      obtain ⟨rfl, rfl⟩ := Prod.mk.inj heq
      rw [if_pos ht, word_more hword]
      rfl
    · rename_i ht
      split at h
      · rename_i hf
        obtain ⟨rest', hword, heq⟩ := ok_of_map_eq_ok h
        obtain ⟨rfl, rfl⟩ := Prod.mk.inj heq
        rw [if_neg ht, if_pos hf, word_more hword]
        rfl
      · cases h

/-- A text is read alike when more follows. -/
lemma steady_textValue : Steady textValue := by
  intro left rest s h more
  unfold textValue at h
  split at h
  · cases h
  · rename_i hleft
    rw [textValue, skipBlanks_more hleft]
    dsimp only
    split at h
    · rename_i hquote
      rw [if_pos hquote, steady_text h]
    · cases h

variable {σ α : Type}

/-- A slot is as steady as the reader of its value. -/
lemma steady_ofReader {name : String} {otherNames : List String} {mayBeCut : Bool}
    {filled : σ → Bool} {put : σ → α → σ} {reader : Reader α}
    {shorter : ∀ {a : α} {left rest : Bytes}, reader left = .ok (a, rest) →
      rest.length < left.length} (h : Steady reader) (s : σ) :
    Steady ((Slot.ofReader name otherNames mayBeCut filled put reader shorter).read s) := by
  intro left rest s' hread more
  obtain ⟨⟨a, rest'⟩, ha, heq⟩ := ok_of_map_eq_ok hread
  obtain ⟨rfl, rfl⟩ := Prod.mk.inj heq
  simp only [Slot.ofReader, h ha]
  rfl

/-! ### Structures -/

/-- The next key is read alike when more follows. -/
lemma nextKey_more {isFirst : Bool} {key : Option String}
    (h : nextKey isFirst left = .ok (key, rest)) (more : Bytes) :
    nextKey isFirst (left ++ more) = .ok (key, rest ++ more) := by
  unfold nextKey at h
  extract_lets read at h
  -- A key is a text at the first octet.
  have hkey : ∀ {l : Bytes}, read l = .ok (key, rest) →
      ∃ l' s, l = Ascii.quote :: l' ∧ text l' = .ok (s, rest) ∧ key = some s := by
    intro l hl
    simp only [read] at hl
    split at hl
    · obtain ⟨⟨s, rest'⟩, htext, heq⟩ := ok_of_map_eq_ok hl
      obtain ⟨rfl, rfl⟩ := Prod.mk.inj heq
      exact ⟨_, s, rfl, htext, rfl⟩
    all_goals cases hl
  split at h
  · cases h
  · rename_i b inside hleft
    unfold nextKey
    extract_lets
    rw [skipBlanks_more hleft]
    dsimp only
    split at h
    · rename_i hbrace
      obtain ⟨rfl, rfl⟩ := Prod.mk.inj (Except.ok.inj h)
      rw [if_pos hbrace, List.cons_append]
    · rename_i hbrace
      rw [if_neg hbrace]
      split at h
      · rename_i hfirst
        obtain ⟨l', s, hcons, htext, rfl⟩ := hkey h
        obtain ⟨rfl, rfl⟩ := List.cons.inj hcons
        rw [if_pos hfirst]
        show (text (inside ++ more)).map _ = _
        rw [steady_text htext]
        rfl
      · rename_i hfirst
        rw [if_neg hfirst]
        split at h
        · rename_i hcomma
          obtain ⟨l', s, hcons, htext, rfl⟩ := hkey h
          rw [if_pos hcomma, skipBlanks_more hcons]
          show (text (l' ++ more)).map _ = _
          rw [steady_text htext]
          rfl
        · cases h

/-- What follows a key is read alike when more follows, if something is left behind it. -/
lemma member_more {slots : List (Slot σ)} (hslots : ∀ slot ∈ slots, ∀ s, Steady (slot.read s))
    {s s' : σ} {key : String} (h : member slots s key left = .ok (.ok s', rest))
    (hrest : rest ≠ []) (more : Bytes) :
    member slots s key (left ++ more) = .ok (.ok s', rest ++ more) := by
  unfold member at h
  split at h
  · rename_i hfind
    split at h
    · cases h
    · rename_i hcolon
      obtain ⟨rest', hskip, heq⟩ := ok_of_map_eq_ok h
      obtain ⟨hs, rfl⟩ := Prod.mk.inj heq
      obtain rfl := Except.ok.inj hs
      simp only [member, hfind, colon_more hcolon, (skip_more more).1 _ _ _ hskip hrest]
      rfl
  · rename_i slot hfind
    split at h
    · cases h
    · rename_i hfilled
      split at h
      · cases h
      · rename_i hcolon
        obtain ⟨⟨s'', rest'⟩, hread, heq⟩ := ok_of_map_eq_ok h
        obtain ⟨hs, rfl⟩ := Prod.mk.inj heq
        obtain rfl := Except.ok.inj hs
        have hsteady := hslots slot (List.mem_of_find?_eq_some hfind) s hread more
        simp only [member, hfind, if_neg hfilled, colon_more hcolon, hsteady]
        rfl

/-- The members of an object do not end with the last octet, since their brace is left. -/
lemma members_empty (slots : List (Slot σ)) (isFirst : Bool) (s : σ) {p : Inside σ} :
    members slots isFirst s [] ≠ .ok p := by
  rw [members_eq]
  exact fun h => by cases h

/-- The members of an object are read alike when more follows. -/
lemma members_more {slots : List (Slot σ)} (hslots : ∀ slot ∈ slots, ∀ s, Steady (slot.read s))
    {isFirst : Bool} {s s' : σ} (h : members slots isFirst s left = .ok (.ok s', rest))
    (more : Bytes) : members slots isFirst s (left ++ more) = .ok (.ok s', rest ++ more) := by
  fun_induction members slots isFirst s left with
  | case1 => cases h
  | case2 isFirst s left rest' hkey =>
    obtain ⟨hs, rfl⟩ := Prod.mk.inj (Except.ok.inj h)
    rw [members_eq, nextKey_more hkey, ← hs]
    rfl
  | case3 => cases h
  | case4 => cases h
  | case5 isFirst s left key inside hkey s'' left' hmember _ _ ih =>
    have hleft' : left' ≠ [] := by
      rintro rfl
      exact members_empty _ _ _ h
    rw [members_eq, nextKey_more hkey]
    simp only [Except.bind, member_more hslots hmember hleft' more]
    exact ih h

/-- The next element is found alike when more follows. -/
lemma nextElement_more {isFirst found : Bool} (h : nextElement isFirst left = .ok (found, rest))
    (more : Bytes) : nextElement isFirst (left ++ more) = .ok (found, rest ++ more) := by
  unfold nextElement at h
  split at h
  · cases h
  · rename_i b inside hleft
    rw [nextElement, skipBlanks_more hleft]
    dsimp only
    split at h
    · rename_i hclose
      obtain ⟨rfl, rfl⟩ := Prod.mk.inj (Except.ok.inj h)
      rw [if_pos hclose, List.cons_append]
    · rename_i hclose
      rw [if_neg hclose]
      split at h
      · rename_i hfirst
        obtain ⟨rfl, rfl⟩ := Prod.mk.inj (Except.ok.inj h)
        rw [if_pos hfirst, List.cons_append]
      · rename_i hfirst
        rw [if_neg hfirst]
        split at h
        · rename_i hcomma
          rw [if_pos hcomma]
          split at h
          · cases h
          · cases h
          · rename_i hnone hlast
            obtain ⟨rfl, hrest⟩ := Prod.mk.inj (Except.ok.inj h)
            cases rest with
            | nil => exact absurd hrest hnone
            | cons b' rest =>
              rw [skipBlanks_more hrest]
              split
              · rename_i heq
                cases heq
              · rename_i heq
                exact absurd (hrest.trans (by rw [(List.cons.inj heq).1])) (hlast rest)
              · rfl
        · cases h

/-- The elements of a list are read alike when more follows. -/
lemma elements_more {expected : String} {slots : List (Slot σ)}
    (hslots : ∀ slot ∈ slots, ∀ s, Steady (slot.read s)) {index : Nat} {s s' : σ}
    (h : elements expected index s left slots = .ok (.ok s', rest)) (more : Bytes) :
    elements expected index s (left ++ more) slots = .ok (.ok s', rest ++ more) := by
  induction slots generalizing index s left with
  | nil =>
    obtain ⟨hs, rfl⟩ := Prod.mk.inj (Except.ok.inj h)
    rw [elements, ← hs]
  | cons slot slots ih =>
    have hothers : ∀ slot ∈ slots, ∀ s, Steady (slot.read s) := fun slot hslot =>
      hslots slot (List.mem_cons_of_mem _ hslot)
    rw [elements] at h ⊢
    split at h
    · cases h
    · rename_i hnext
      rw [nextElement_more hnext]
      dsimp only
      split at h
      · rename_i hcut
        rw [if_pos hcut]
        exact ih hothers h
      · cases h
    · rename_i hnext
      rw [nextElement_more hnext]
      dsimp only
      split at h
      · cases h
      · rename_i hread
        simp only [hslots slot List.mem_cons_self s hread]
        exact ih hothers h

/-- The brace of an object is read alike when more follows. -/
lemma closeObject_more (h : closeObject left = (rest, none)) (more : Bytes) :
    closeObject (left ++ more) = (rest ++ more, none) := by
  unfold closeObject at h
  split at h
  · rename_i hleft
    obtain ⟨rfl, -⟩ := Prod.mk.inj h
    rw [closeObject, skipBlanks_more hleft]
    rfl
  all_goals exact absurd (Prod.mk.inj h).2 (by simp)

/-- The bracket of a list is read alike when more follows. -/
lemma closeList_more (h : closeList left = (rest, none)) (more : Bytes) :
    closeList (left ++ more) = (rest ++ more, none) := by
  rw [closeList_eq_iff] at h ⊢
  exact skipBlanks_more h more

/-- What a closing bracket concludes is read alike when more follows. -/
lemma conclude_more {close : Bytes → Bytes × Option Fault}
    (hclose : ∀ {left rest}, close left = (rest, none) →
      ∀ more, close (left ++ more) = (rest ++ more, none))
    {outcome : Except Cause α} {a : α} (h : conclude close outcome left = .ok (a, rest))
    (more : Bytes) : conclude close outcome (left ++ more) = .ok (a, rest ++ more) := by
  unfold conclude at h
  split at h
  rename_i left' fault hleft
  split at h
  · obtain ⟨rfl, rfl⟩ := Prod.mk.inj (Except.ok.inj h)
    simp only [conclude, hclose hleft]
  all_goals cases h

/-- **A structure is read alike when more follows.** -/
lemma Shape.steady_read {shape : Shape σ α}
    (hslots : ∀ slot ∈ shape.slots, ∀ s, Steady (slot.read s)) : Steady shape.read := by
  intro left rest a h more
  unfold Shape.read at h
  split at h
  · cases h
  · rename_i inside hleft
    split at h
    · cases h
    · rename_i outcome left' helements
      cases outcome with
      | error c => exact absurd h (conclude_error _ _ _ _)
      | ok s =>
        rw [Shape.read, skipBlanks_more hleft]
        simp only [elements_more hslots helements]
        exact conclude_more closeList_more h more
  · rename_i inside hleft
    split at h
    · cases h
    · rename_i outcome left' hmembers
      cases outcome with
      | error c => exact absurd h (conclude_error _ _ _ _)
      | ok s =>
        rw [Shape.read, skipBlanks_more hleft]
        simp only [members_more hslots hmembers]
        exact conclude_more closeObject_more h more
  · cases h

/-! ### Whole bodies -/

/-- **A body that is read is still read exactly when blanks follow it**, and as the same value. -/
lemma readAll_more {reader : Reader α} (hsteady : Steady reader) {body more : Bytes} {a b : α}
    (h : readAll reader body = .ok a) :
    readAll reader (body ++ more) = .ok b ↔ Blanks more ∧ b = a := by
  obtain ⟨rest, hread, hrest⟩ := readAll_eq_ok_iff.mp h
  have hblanks : Blanks rest := List.dropWhile_eq_nil_iff.mp hrest
  have hend : skipBlanks (rest ++ more) = [] ↔ Blanks more := by
    rw [skipBlanks_append hblanks]
    exact List.dropWhile_eq_nil_iff
  rw [readAll_eq_ok_iff, hsteady hread more]
  constructor
  · rintro ⟨rest', heq, hnil⟩
    obtain ⟨rfl, rfl⟩ := Prod.mk.inj (Except.ok.inj heq)
    exact ⟨hend.mp hnil, rfl⟩
  · rintro ⟨hmore, rfl⟩
    exact ⟨_, rfl, hend.mpr hmore⟩

end Consent.Json
