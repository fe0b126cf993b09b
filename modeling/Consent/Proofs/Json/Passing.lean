import Consent.Proofs.Json.Literals

set_option autoImplicit false

/-!
# Passing over well-formed values

A value that is passed over may be any well-formed value, nested to any depth. What follows it must
not belong to it: a number ends where no digit, point or exponent follows.

## Main definitions

* `Consent.Json.Ends` — what a number may be followed by.

## Main results

* `Consent.Json.skipNumber_append` — a number is passed over.
* `Consent.Json.WellFormed.skip` — a value, or the entries of a bracket, are passed over.
-/

namespace Consent.Json

/-! ### Blanks -/

/-- Blanks are skipped. -/
lemma skipBlanks_append {ws : Bytes} (hws : Blanks ws) (left : Bytes) :
    skipBlanks (ws ++ left) = skipBlanks left :=
  List.dropWhile_append_of_pos hws

/-- What is no blank is not skipped. -/
lemma skipBlanks_cons {b : UInt8} (hb : isBlank b = false) (left : Bytes) :
    skipBlanks (b :: left) = b :: left :=
  List.dropWhile_cons_of_neg (by simp [hb])

/-- Blanks do not matter before a value that is passed over. -/
lemma skipValue_skipBlanks (stack : List Bracket) {left left' : Bytes}
    (h : skipBlanks left = skipBlanks left') : skipValue stack left = skipValue stack left' := by
  rw [skipValue_eq, skipValue_eq, h]

/-! ### Numbers -/

/-- What may follow a number: nothing that would belong to it. -/
def Ends (left : Bytes) : Prop :=
  ∀ b, left.head? = some b → Ascii.isDigit b = false ∧ b ≠ Ascii.point ∧ b ≠ Ascii.lowerE ∧
    b ≠ Ascii.upperE

/-- A number ends before blanks, a comma and a closing bracket. -/
lemma ends_append {ws : Bytes} (hws : Blanks ws) {left : Bytes} (h : Ends left) :
    Ends (ws ++ left) := by
  cases ws with
  | nil => exact h
  | cons b ws =>
    intro b' hb'
    obtain rfl := Option.some.inj hb'
    have hblank := hws b List.mem_cons_self
    simp only [isBlank, Bool.or_eq_true, decide_eq_true_eq] at hblank
    rcases hblank with ((rfl | rfl) | rfl) | rfl <;> decide

/-- A number ends before a comma. -/
lemma ends_comma (left : Bytes) : Ends (Ascii.comma :: left) := by
  intro b hb
  obtain rfl := Option.some.inj hb
  decide

/-- A number ends before a closing bracket. -/
lemma ends_closer (k : Bracket) (left : Bytes) : Ends (k.closer :: left) := by
  intro b hb
  obtain rfl := Option.some.inj hb
  cases k <;> decide

/-- Digits are skipped. -/
lemma skipDigits_append {ds : Bytes} (hds : ∀ b ∈ ds, Ascii.isDigit b = true) (left : Bytes) :
    skipDigits (ds ++ left) = skipDigits left :=
  List.dropWhile_append_of_pos hds

/-- No digits are skipped where none comes next. -/
lemma skipDigits_of_not {left : Bytes} (h : startsWithDigit left = false) :
    skipDigits left = left := by
  cases left with
  | nil => rfl
  | cons b left => exact List.dropWhile_cons_of_neg (by simpa [startsWithDigit] using h)

/-- Some digits begin with a digit. -/
lemma Digits.exists_cons {ds : Bytes} (hds : Digits ds) :
    ∃ d ds', ds = d :: ds' ∧ Ascii.isDigit d = true := by
  obtain ⟨hne, hall⟩ := hds
  cases ds with
  | nil => exact absurd rfl hne
  | cons d ds' => exact ⟨d, ds', rfl, hall d List.mem_cons_self⟩

/-- A digit comes next where some digits do. -/
lemma Digits.startsWithDigit {ds : Bytes} (hds : Digits ds) (left : Bytes) :
    Json.startsWithDigit (ds ++ left) = true := by
  obtain ⟨d, ds', rfl, hd⟩ := hds.exists_cons
  exact hd

/-- No digit follows a number. -/
lemma Ends.startsWithDigit {left : Bytes} (h : Ends left) :
    Json.startsWithDigit left = false := by
  cases left with
  | nil => rfl
  | cons b left => exact (h b rfl).1

/-- Some digits are passed over where none follows. -/
lemma Digits.skip {ds left : Bytes} (hds : Digits ds) (h : Json.startsWithDigit left = false) :
    skipDigits (ds ++ left) = left := by
  rw [skipDigits_append hds.2, skipDigits_of_not h]

/-- The digits of an exponent are passed over behind its sign. -/
lemma skipExponent_append {sign ds left : Bytes}
    (hsign : sign = [] ∨ sign = [Ascii.plus] ∨ sign = [Ascii.minus]) (hds : Digits ds)
    (hleft : Ends left) : skipExponent (sign ++ (ds ++ left)) = .ok left := by
  have hdigits : ∀ digits : Bytes, digits = ds ++ left →
      (if startsWithDigit digits then Except.ok (skipDigits digits)
        else .error (Fault.at .invalidNumber (digits.drop 1))) = Except.ok left := by
    rintro digits rfl
    rw [if_pos (hds.startsWithDigit left), hds.skip hleft.startsWithDigit]
  rcases hsign with rfl | rfl | rfl
  · obtain ⟨d, ds', rfl, hd⟩ := hds.exists_cons
    rw [skipExponent]
    · exact hdigits _ rfl
    · intro rest hrest
      exact absurd hd (by rw [(List.cons.inj hrest).1]; decide)
    · intro rest hrest
      exact absurd hd (by rw [(List.cons.inj hrest).1]; decide)
  · exact hdigits _ rfl
  · exact hdigits _ rfl

/-- The exponent of a number is passed over. -/
lemma IsExponent.skip {e left : Bytes} (he : IsExponent e) (hleft : Ends left) :
    skipExponent? (e ++ left) = .ok left := by
  rcases he with rfl | ⟨letter, sign, ds, rfl, hletter, hsign, hds⟩
  · cases left with
    | nil => rfl
    | cons b left =>
      obtain ⟨-, -, hlower, hupper⟩ := hleft b rfl
      rw [List.nil_append, skipExponent?]
      · intro rest hrest
        exact hlower (List.cons.inj hrest).1
      · intro rest hrest
        exact hupper (List.cons.inj hrest).1
  · rw [List.cons_append, List.append_assoc]
    rcases hletter with rfl | rfl <;> exact skipExponent_append hsign hds hleft

/-- No digit comes next where an exponent may be. -/
lemma IsExponent.startsWithDigit {e left : Bytes} (he : IsExponent e) (hleft : Ends left) :
    Json.startsWithDigit (e ++ left) = false := by
  rcases he with rfl | ⟨letter, sign, ds, rfl, rfl | rfl, -, -⟩
  · exact hleft.startsWithDigit
  · rfl
  · rfl

/-- No point comes next where an exponent may be. -/
lemma IsExponent.head?_ne_point {e left : Bytes} (he : IsExponent e) (hleft : Ends left) :
    (e ++ left).head? ≠ some Ascii.point := by
  rcases he with rfl | ⟨letter, sign, ds, rfl, rfl | rfl, -, -⟩
  · exact fun h => (hleft _ h).2.1 rfl
  · exact fun h => absurd (Option.some.inj h) (by decide)
  · exact fun h => absurd (Option.some.inj h) (by decide)

/-- What follows the integer part of a number is passed over. -/
lemma skipAfterInteger_append {f e left : Bytes} (hf : IsFraction f) (he : IsExponent e)
    (hleft : Ends left) : skipAfterInteger (f ++ (e ++ left)) = .ok left := by
  rcases hf with rfl | ⟨ds, rfl, hds⟩
  · have hpoint := he.head?_ne_point hleft
    rw [List.nil_append, skipAfterInteger]
    · exact he.skip hleft
    · intro rest hrest
      exact hpoint (by rw [hrest]; rfl)
  · show (if startsWithDigit (ds ++ (e ++ left)) then skipExponent? (skipDigits (ds ++ (e ++ left)))
      else _) = _
    rw [if_pos (hds.startsWithDigit _), hds.skip (he.startsWithDigit hleft), he.skip hleft]

/-- No digit comes next behind the integer part of a number. -/
lemma startsWithDigit_of_isFraction {f e left : Bytes} (hf : IsFraction f) (he : IsExponent e)
    (hleft : Ends left) : startsWithDigit (f ++ (e ++ left)) = false := by
  rcases hf with rfl | ⟨ds, rfl, -⟩
  · exact he.startsWithDigit hleft
  · rfl

/-- A number behind its sign is passed over. -/
lemma skipUnsigned_append {i f e left : Bytes} (hi : IsInteger i) (hf : IsFraction f)
    (he : IsExponent e) (hleft : Ends left) :
    skipUnsigned (i ++ (f ++ (e ++ left))) = .ok left := by
  have hafter := skipAfterInteger_append hf he hleft
  have hdigit := startsWithDigit_of_isFraction hf he hleft
  obtain ⟨⟨hne, hall⟩, hzero⟩ := hi
  cases i with
  | nil => exact absurd rfl hne
  | cons b ds =>
    rw [List.cons_append, skipUnsigned]
    by_cases hb : b = Ascii.zero
    · obtain rfl : ds = [] := (List.cons.inj (hzero (congrArg some hb))).2
      rw [if_pos hb, List.nil_append, if_neg (by simp [hdigit]), hafter]
    · have hds : ∀ b' ∈ ds, Ascii.isDigit b' = true := fun b' hb' =>
        hall b' (List.mem_cons_of_mem _ hb')
      rw [if_neg hb, if_pos (hall b List.mem_cons_self), skipDigits_append hds,
        skipDigits_of_not hdigit, hafter]

/-- **A number is passed over.** -/
lemma IsNumber.skip {n left : Bytes} (hn : IsNumber n) (hleft : Ends left) :
    skipNumber (n ++ left) = .ok left := by
  obtain ⟨sign, i, f, e, rfl, hsign, hi, hf, he⟩ := hn
  have hunsigned := skipUnsigned_append hi hf he hleft
  rw [List.append_assoc, List.append_assoc, List.append_assoc]
  rcases hsign with rfl | rfl
  · obtain ⟨d, ds, rfl, hd⟩ := hi.1.exists_cons
    rw [List.nil_append, List.cons_append, skipNumber]
    · exact hunsigned
    · intro rest hrest
      exact absurd hd (by rw [(List.cons.inj hrest).1]; decide)
  · exact hunsigned

/-! ### Values without brackets -/

/-- A word is read. -/
lemma word_append (letters left : Bytes) : word letters (letters ++ left) = .ok left := by
  induction letters with
  | nil => rfl
  | cons b letters ih => simpa [word] using ih

/-- A number begins with a sign or a digit. -/
lemma IsNumber.exists_cons {n : Bytes} (hn : IsNumber n) :
    ∃ b bs, n = b :: bs ∧ (b = Ascii.minus ∨ Ascii.isDigit b = true) := by
  obtain ⟨sign, i, f, e, rfl, rfl | rfl, hi, -, -⟩ := hn
  · obtain ⟨d, ds, rfl, hd⟩ := hi.1.exists_cons
    exact ⟨d, _, rfl, .inr hd⟩
  · exact ⟨_, _, rfl, .inl rfl⟩

/-- A number is passed over among the values without brackets. -/
lemma skipScalar_number {n left : Bytes} (hn : IsNumber n) (hleft : Ends left) :
    skipScalar (n ++ left) = .ok left := by
  have hskip := hn.skip hleft
  obtain ⟨b, bs, rfl, hb⟩ := hn.exists_cons
  have hother : b ≠ Ascii.lowerN ∧ b ≠ Ascii.lowerT ∧ b ≠ Ascii.lowerF ∧ b ≠ Ascii.quote := by
    refine ⟨?_, ?_, ?_, ?_⟩ <;> rintro rfl <;> revert hb <;> decide
  obtain ⟨hnull, htrue, hfalse, hquote⟩ := hother
  have hnumber : (b = Ascii.minus || Ascii.isDigit b) = true := by simpa using hb
  rw [List.cons_append] at hskip ⊢
  rw [skipScalar, if_neg hnull, if_neg htrue, if_neg hfalse, if_neg hquote, if_pos hnumber, hskip]

/-- A text is passed over among the values without brackets. -/
lemma skipScalar_quoted (ps : List Piece) (left : Bytes) :
    skipScalar (quoted ps ++ left) = .ok left := by
  rw [quoted, List.cons_append, List.append_assoc, List.singleton_append]
  exact skipText_quoted ps left

/-- A value without brackets is passed over. -/
lemma skipValue_of_skipScalar (stack : List Bracket) {b : UInt8} {bs left : Bytes}
    (hblank : isBlank b = false) (hbracket : b ≠ Ascii.openBracket) (hbrace : b ≠ Ascii.openBrace)
    (h : skipScalar (b :: bs) = .ok left) :
    skipValue stack (b :: bs) = skipEntries stack true left := by
  rw [skipValue_eq, skipBlanks_cons hblank]
  simp only [if_neg hbracket, if_neg hbrace, h]
  rfl

/-! ### First octets -/

/-- What a value may begin with: neither a blank, nor what ends or separates values. -/
def Starts (b : UInt8) : Prop := isBlank b = false ∧ b ≠ Ascii.comma ∧ ∀ k : Bracket, b ≠ k.closer

/-- A sign or a digit may begin a value. -/
lemma starts_of_number {b : UInt8} (hb : b = Ascii.minus ∨ Ascii.isDigit b = true) : Starts b := by
  refine ⟨Bool.eq_false_iff.mpr ?_, ?_, ?_⟩
  · intro hblank
    simp only [isBlank, Bool.or_eq_true, decide_eq_true_eq] at hblank
    rcases hblank with ((rfl | rfl) | rfl) | rfl <;> revert hb <;> decide
  · rintro rfl
    revert hb
    decide
  · rintro k rfl
    revert hb
    cases k <;> decide

/-- How a value begins. -/
lemma WellFormed.exists_cons {v : Bytes} (hv : WellFormed .value v) :
    ∃ b bs, v = b :: bs ∧ Starts b := by
  have hclosers : ∀ b : UInt8, b ≠ Ascii.closeBracket → b ≠ Ascii.closeBrace →
      ∀ k : Bracket, b ≠ k.closer := by
    rintro b hlist hobject (_ | _)
    · exact hlist
    · exact hobject
  cases hv with
  | null => exact ⟨_, _, rfl, by decide, by decide, hclosers _ (by decide) (by decide)⟩
  | flag b =>
    cases b <;> exact ⟨_, _, rfl, by decide, by decide, hclosers _ (by decide) (by decide)⟩
  | number hn =>
    obtain ⟨b, bs, rfl, hb⟩ := hn.exists_cons
    exact ⟨b, bs, rfl, starts_of_number hb⟩
  | text ps => exact ⟨_, _, rfl, by decide, by decide, hclosers _ (by decide) (by decide)⟩
  | empty k hws =>
    cases k <;> exact ⟨_, _, rfl, by decide, by decide, hclosers _ (by decide) (by decide)⟩
  | @enclosed k es hes =>
    cases k <;> exact ⟨_, _, rfl, by decide, by decide, hclosers _ (by decide) (by decide)⟩

/-- How the entry of a bracket begins. -/
lemma Lead.exists_cons {k : Bracket} {lead v : Bytes} (hlead : Lead k lead)
    (hv : WellFormed .value v) (left : Bytes) :
    ∃ b bs, skipBlanks (lead ++ (v ++ left)) = b :: bs ∧ Starts b := by
  cases hlead with
  | list hws =>
    obtain ⟨b, bs, rfl, hb⟩ := hv.exists_cons
    exact ⟨b, bs ++ left, by rw [skipBlanks_append hws, List.cons_append, skipBlanks_cons hb.1], hb⟩
  | @object key _ hlead =>
    obtain ⟨hws, hws', hws''⟩ := hlead
    obtain ⟨b, bs, hkey, hb⟩ := (WellFormed.text key).exists_cons
    rw [List.append_assoc, skipBlanks_append hws, hkey, List.append_assoc, List.cons_append,
      skipBlanks_cons hb.1]
    exact ⟨b, _, rfl, hb⟩

/-- How the entries of a bracket begin. -/
lemma WellFormed.exists_cons_entries {k : Bracket} {es : Bytes} (hes : WellFormed (.entries k) es)
    (left : Bytes) : ∃ b bs, skipBlanks (es ++ left) = b :: bs ∧ Starts b := by
  cases hes with
  | single hlead hv hws =>
    rw [List.append_assoc, List.append_assoc]
    exact hlead.exists_cons hv _
  | more hlead hv hws _ =>
    rw [List.append_assoc, List.append_assoc]
    exact hlead.exists_cons hv _

/-! ### Entries -/

/-- A colon is read. -/
lemma colon_append {ws : Bytes} (hws : Blanks ws) (left : Bytes) :
    colon (ws ++ Ascii.colon :: left) = .ok left := by
  rw [colon, skipBlanks_append hws, skipBlanks_cons (by decide)]
  rfl

/-- How an entry of an object begins: with a key, and then a colon. -/
lemma Keyed.skipBlanks {key : List Piece} {lead : Bytes} (hlead : Keyed key lead) (left : Bytes) :
    ∃ ws ws', Blanks ws ∧ Blanks ws' ∧ Json.skipBlanks (lead ++ left) =
      Ascii.quote :: (key.flatMap Piece.octets ++
        Ascii.quote :: (ws ++ Ascii.colon :: (ws' ++ left))) := by
  obtain @⟨ws, ws', ws'', hws, hws', hws''⟩ := hlead
  refine ⟨ws', ws'', hws', hws'', ?_⟩
  rw [List.append_assoc, skipBlanks_append hws, quoted, List.cons_append, List.cons_append,
    skipBlanks_cons (by decide)]
  simp

/-- What stands before the value of an object's entry is passed over, up to blanks. -/
lemma Keyed.skip {key : List Piece} {lead : Bytes} (hlead : Keyed key lead) (left : Bytes) :
    ∃ ws, Blanks ws ∧ skipKey (lead ++ left) = .ok (ws ++ left) := by
  obtain ⟨ws, ws', hws, hws', hquote⟩ := hlead.skipBlanks left
  refine ⟨ws', hws', ?_⟩
  rw [skipKey, hquote]
  split
  · rename_i h
    obtain rfl := (List.cons.inj h).2
    rw [skipText_quoted]
    exact colon_append hws _
  · rename_i h
    nomatch h
  · rename_i h _
    exact absurd rfl (h _)

/-- What stands before the value of an entry is passed over. -/
lemma Lead.enter {k : Bracket} {lead : Bytes} (hlead : Lead k lead) (stack : List Bracket)
    (left : Bytes) : (k.enter (lead ++ left)).bind (skipValue stack) = skipValue stack left := by
  cases hlead with
  | list hws => exact skipValue_skipBlanks stack (skipBlanks_append hws left)
  | object hlead =>
    obtain ⟨ws, hws, hkey⟩ := hlead.skip left
    rw [Bracket.enter, hkey]
    exact skipValue_skipBlanks stack (skipBlanks_append hws left)

/-- Blanks do not matter where an entry begins. -/
lemma enter_skipBlanks (k : Bracket) (stack : List Bracket) {left : Bytes} {b : UInt8} {bs : Bytes}
    (h : skipBlanks left = b :: bs) (hb : isBlank b = false) :
    (k.enter (b :: bs)).bind (skipValue stack) = (k.enter left).bind (skipValue stack) := by
  have hsame : skipBlanks (b :: bs) = skipBlanks left := by rw [skipBlanks_cons hb, h]
  cases k with
  | list => exact skipValue_skipBlanks stack hsame
  | object => simp only [Bracket.enter, skipKey, hsame]

/-- Behind an entry, the closing bracket may come. -/
lemma skipEntries_closer {k : Bracket} {stack : List Bracket} {ws : Bytes} (hws : Blanks ws)
    (behind : Bool) (left : Bytes) :
    skipEntries (k :: stack) behind (ws ++ k.closer :: left) = skipEntries stack true left := by
  have hblank : isBlank k.closer = false := by cases k <;> decide
  have hcomma : (k.closer = Ascii.comma && behind) = false := by
    simp [Bracket.closer_ne_comma k]
  rw [skipEntries_cons, skipBlanks_append hws, skipBlanks_cons hblank]
  simp only [hcomma, Bool.false_eq_true, if_false, if_true]

/-- Behind an entry, a comma and the next entry may come. -/
lemma skipEntries_comma {k : Bracket} {stack : List Bracket} {ws : Bytes} (hws : Blanks ws)
    (left : Bytes) :
    skipEntries (k :: stack) true (ws ++ Ascii.comma :: left) =
      (k.enter left).bind (skipValue (k :: stack)) := by
  rw [skipEntries_cons, skipBlanks_append hws, skipBlanks_cons (by decide)]
  simp

/-- Behind an opening bracket, the first entry may come. -/
lemma skipEntries_first {k : Bracket} {stack : List Bracket} {es : Bytes}
    (hes : WellFormed (.entries k) es) (left : Bytes) :
    skipEntries (k :: stack) false (es ++ left) =
      (k.enter (es ++ left)).bind (skipValue (k :: stack)) := by
  obtain ⟨b, bs, hfirst, hblank, hcomma, hcloser⟩ := hes.exists_cons_entries left
  rw [skipEntries_cons, ← enter_skipBlanks k (k :: stack) hfirst hblank, hfirst]
  simp [hcloser k]

/-- An opening bracket is passed over. -/
lemma skipValue_opener (k : Bracket) (stack : List Bracket) (left : Bytes) :
    skipValue stack (k.opener :: left) = skipEntries (k :: stack) false left := by
  have hblank : isBlank k.opener = false := by cases k <;> decide
  rw [skipValue_eq, skipBlanks_cons hblank]
  cases k <;> rfl

/-- **Well-formed values are passed over**, and so are the entries of a bracket with what closes it.

**Proof sketch.** By induction on how the value is formed, for all brackets around it: an entry is
followed by a comma or the closing bracket, before which a number ends. -/
lemma WellFormed.skip {part : Part} {bs : Bytes} (h : WellFormed part bs) :
    match part with
    | .value => ∀ stack left, Ends left → skipValue stack (bs ++ left) = skipEntries stack true left
    | .entries k => ∀ stack left, (k.enter (bs ++ k.closer :: left)).bind (skipValue (k :: stack)) =
        skipEntries stack true left := by
  induction h with
  | null =>
    intro stack left _
    exact skipValue_of_skipScalar stack (b := Ascii.lowerN) (by decide) (by decide) (by decide)
      (word_append nullTail left)
  | flag b =>
    intro stack left _
    cases b with
    | true =>
      exact skipValue_of_skipScalar stack (b := Ascii.lowerT) (by decide) (by decide) (by decide)
        (word_append trueTail left)
    | false =>
      exact skipValue_of_skipScalar stack (b := Ascii.lowerF) (by decide) (by decide) (by decide)
        (word_append falseTail left)
  | number hn =>
    intro stack left hleft
    have hscalar := skipScalar_number hn hleft
    obtain ⟨b, bs, rfl, hb⟩ := hn.exists_cons
    refine skipValue_of_skipScalar stack (starts_of_number hb).1 ?_ ?_ hscalar <;>
      rintro rfl <;> revert hb <;> decide
  | text ps =>
    intro stack left _
    exact skipValue_of_skipScalar stack (b := Ascii.quote) (by decide) (by decide) (by decide)
      (skipScalar_quoted ps left)
  | empty k hws =>
    intro stack left _
    rw [List.cons_append, skipValue_opener, List.append_assoc, List.singleton_append,
      skipEntries_closer hws]
  | @enclosed k es hes ih =>
    intro stack left _
    rw [List.cons_append, skipValue_opener, List.append_assoc, List.singleton_append,
      skipEntries_first hes]
    exact ih stack left
  | @single k lead v ws hlead hv hws ih =>
    intro stack left
    rw [List.append_assoc, List.append_assoc, hlead.enter, ih (k :: stack) _
      (ends_append hws (ends_closer k left)), skipEntries_closer hws]
  | @more k lead v ws es hlead hv hws hes ihv ihes =>
    intro stack left
    rw [List.append_assoc, List.append_assoc, hlead.enter, List.append_assoc, List.cons_append,
      ihv (k :: stack) _ (ends_append hws (ends_comma _)), skipEntries_comma hws]
    exact ihes stack left

end Consent.Json
