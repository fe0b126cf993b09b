import Consent.Json.Shape
import Consent.Proofs.Json.Passing

set_option autoImplicit false

/-!
# Reading the members of an object

A structure is read from an object by putting in one member after the other: a known one is read,
unless it has been read before, and an unknown one is left out. How the members are written, with
which blanks and which escapes in their keys, does not matter.

## Main definitions

* `Consent.Json.Slot.Regular` — reading a value depends on this value only.
* `Consent.Json.put`, `Consent.Json.fill` — one member is put in, and all are.

## Main results

* `Consent.Json.members_entry` — reading goes on behind a member that is put in.
* `Consent.Json.members_object` — an object is read by filling in its members.
* `Consent.Json.ObjectBody.read` — so is a body.
-/

namespace Consent.Json

variable {σ α : Type}

/-! ### Members -/

/-- Reading a value of a slot depends on this value only: neither on blanks before it, nor on what
follows it. -/
structure Slot.Regular (slot : Slot σ) : Prop where
  blanks : ∀ s {left left' : Bytes}, skipBlanks left = skipBlanks left' →
    slot.read s left = slot.read s left'
  alone : ∀ {s s' : σ} {v left rest : Bytes}, WellFormed .value v →
    (slot.read s (v ++ left) = .ok (s', rest) ↔ slot.read s v = .ok (s', []) ∧ rest = left)

/-- What reading a value that stands alone gives. -/
def whole? : Except Fault (σ × Bytes) → Option σ
  | .ok (s, []) => some s
  | _ => none

/-- A value that stands alone is read up to its end. -/
lemma whole?_eq_some_iff {e : Except Fault (σ × Bytes)} {s : σ} :
    whole? e = some s ↔ e = .ok (s, []) := by
  rw [whole?.eq_def]
  split
  · simp
  · rename_i hne
    simp only [reduceCtorEq, false_iff]
    exact hne s

/-- Puts a member in, if it is known; it must not be there already, and its value must be one. -/
def put (slots : List (Slot σ)) (s : σ) (m : String × Bytes) : Option σ :=
  match slots.find? (·.answersTo m.1) with
  | none => some s
  | some slot =>
    if slot.filled s then none else whole? (slot.read s m.2)

/-- Puts all members in. -/
def fill (slots : List (Slot σ)) (s : σ) (ms : List (String × Bytes)) : Option σ :=
  ms.foldlM (put slots) s

/-- What comes before an entry: nothing before the first one, and else a comma. -/
def Separates (isFirst : Bool) (sep : Bytes) : Prop :=
  if isFirst then sep = [] else ∃ ws, Blanks ws ∧ sep = ws ++ [Ascii.comma]

/-- A key is read as the text that it denotes. -/
lemma nextKey_keyed {ps : List Piece} {key : String} {lead sep : Bytes} {isFirst : Bool}
    (hsep : Separates isFirst sep) (hlead : Keyed ps lead) (hkey : denote? ps = some key.toList)
    (left : Bytes) :
    ∃ ws ws', Blanks ws ∧ Blanks ws' ∧ nextKey isFirst (sep ++ (lead ++ left)) =
      .ok (some key, ws ++ Ascii.colon :: (ws' ++ left)) := by
  obtain ⟨ws, ws', hws, hws', hquote⟩ := hlead.skipBlanks left
  refine ⟨ws, ws', hws, hws', ?_⟩
  have hread : (text (ps.flatMap Piece.octets ++
      Ascii.quote :: (ws ++ Ascii.colon :: (ws' ++ left)))).map (fun p => (some p.1, p.2)) =
        .ok (some key, ws ++ Ascii.colon :: (ws' ++ left)) := by
    rw [text_quoted.mpr ⟨hkey, rfl⟩]
    rfl
  cases isFirst with
  | true =>
    obtain rfl : sep = [] := hsep
    rw [List.nil_append, nextKey, hquote]
    exact hread
  | false =>
    obtain ⟨ws₀, hws₀, rfl⟩ : ∃ ws, Blanks ws ∧ sep = ws ++ [Ascii.comma] := hsep
    rw [List.append_assoc, List.singleton_append, nextKey, skipBlanks_append hws₀,
      skipBlanks_cons (by decide)]
    simp only [hquote]
    exact hread

/-- A closing brace ends the members. -/
lemma nextKey_closeBrace (isFirst : Bool) {ws : Bytes} (hws : Blanks ws) (left : Bytes) :
    nextKey isFirst (ws ++ Ascii.closeBrace :: left) = .ok (none, Ascii.closeBrace :: left) := by
  rw [nextKey, skipBlanks_append hws, skipBlanks_cons (by decide)]
  rfl

/-- **A member is read by putting it in.** -/
lemma member_eq_ok_iff {slots : List (Slot σ)} (hslots : ∀ slot ∈ slots, slot.Regular) {s s' : σ}
    {key : String} {ws ws' v left rest : Bytes} (hws : Blanks ws) (hws' : Blanks ws')
    (hv : WellFormed .value v) (hleft : Ends left) :
    member slots s key (ws ++ Ascii.colon :: (ws' ++ (v ++ left))) = .ok (.ok s', rest) ↔
      put slots s (key, v) = some s' ∧ rest = left := by
  have hcolon := colon_append hws (ws' ++ (v ++ left))
  rw [member, put]
  cases hfind : slots.find? (·.answersTo key) with
  | none =>
    have hskip : skipValue [] (ws' ++ (v ++ left)) = .ok left := by
      rw [skipValue_skipBlanks [] (skipBlanks_append hws' _), hv.skip [] left hleft,
        skipEntries_nil]
    simp only [hcolon, hskip, Except.map, Except.ok.injEq, Prod.mk.injEq, Option.some.injEq,
      eq_comm]
  | some slot =>
    have hregular := hslots slot (List.mem_of_find?_eq_some hfind)
    have hread := hregular.blanks s (skipBlanks_append hws' (v ++ left))
    simp only [hcolon, hread]
    cases hfilled : slot.filled s with
    | true => simp
    | false =>
      have hmap : ((slot.read s (v ++ left)).map fun p => (Except.ok p.1, p.2)) =
          (.ok (.ok s', rest) : Except Fault (Inside σ)) ↔
          slot.read s (v ++ left) = .ok (s', rest) := by
        cases slot.read s (v ++ left) with
        | error f => simp [Except.map]
        | ok p => simp [Except.map, Prod.ext_iff]
      simp only [Bool.false_eq_true, if_false]
      rw [whole?_eq_some_iff, ← hregular.alone hv, ← hmap]

/-- How members are read. -/
lemma members_eq (slots : List (Slot σ)) (isFirst : Bool) (s : σ) (left : Bytes) :
    members slots isFirst s left =
      (nextKey isFirst left).bind fun
        | (none, rest) => .ok (.ok s, rest)
        | (some key, rest) => (member slots s key rest).bind fun
          | (.error c, rest) => .ok (.error c, rest)
          | (.ok s, rest) => members slots false s rest := by
  rw [members]
  split
  · rename_i h
    rw [h]
    rfl
  · rename_i h
    rw [h]
    rfl
  · rename_i h
    conv => rhs; rw [h]
    simp only [Except.bind]
    split <;> rename_i hm <;> simp only [hm]

/-- **Reading goes on behind a member that is put in**, and ends in failure with any other one. -/
lemma members_entry {slots : List (Slot σ)} (hslots : ∀ slot ∈ slots, slot.Regular) {s s' : σ}
    {ps : List Piece} {key : String} {lead sep v left rest : Bytes} {isFirst : Bool}
    (hsep : Separates isFirst sep) (hlead : Keyed ps lead) (hkey : denote? ps = some key.toList)
    (hv : WellFormed .value v) (hleft : Ends left) :
    members slots isFirst s (sep ++ (lead ++ (v ++ left))) = .ok (.ok s', rest) ↔
      ∃ t, put slots s (key, v) = some t ∧ members slots false t left = .ok (.ok s', rest) := by
  obtain ⟨ws, ws', hws, hws', hnext⟩ := nextKey_keyed hsep hlead hkey (v ++ left)
  rw [members_eq, hnext]
  constructor
  · intro h
    cases hread : member slots s key (ws ++ Ascii.colon :: (ws' ++ (v ++ left))) with
    | error f => simp [Except.bind, hread] at h
    | ok p =>
      obtain ⟨outcome, rest'⟩ := p
      cases outcome with
      | error c => simp [Except.bind, hread] at h
      | ok t =>
        obtain ⟨hput, rfl⟩ := (member_eq_ok_iff hslots hws hws' hv hleft).mp hread
        simp only [Except.bind, hread] at h
        exact ⟨t, hput, h⟩
  · rintro ⟨t, hput, h⟩
    have hread := (member_eq_ok_iff hslots hws hws' hv hleft).mpr ⟨hput, rfl⟩
    simp only [Except.bind, hread]
    exact h

/-- A closing brace ends the members. -/
lemma members_closeBrace (slots : List (Slot σ)) (isFirst : Bool) (s : σ) {ws : Bytes}
    (hws : Blanks ws) (left : Bytes) :
    members slots isFirst s (ws ++ Ascii.closeBrace :: left) =
      .ok (.ok s, Ascii.closeBrace :: left) := by
  rw [members_eq, nextKey_closeBrace isFirst hws]
  rfl

/-- **The members of an object are read by filling them in.**

**Proof sketch.** By induction on the members, for all that has been read before them. -/
lemma members_object {slots : List (Slot σ)} (hslots : ∀ slot ∈ slots, slot.Regular) {es : Bytes}
    {ms : List (String × Bytes)} (hes : Members es ms) {sep : Bytes} {isFirst : Bool}
    (hsep : Separates isFirst sep) {s s' : σ} {left rest : Bytes} :
    members slots isFirst s (sep ++ (es ++ Ascii.closeBrace :: left)) = .ok (.ok s', rest) ↔
      fill slots s ms = some s' ∧ rest = Ascii.closeBrace :: left := by
  induction hes generalizing sep isFirst s with
  | @single ps key lead v ws hlead hkey hv hws =>
    have hends : Ends (ws ++ Ascii.closeBrace :: left) := ends_append hws (ends_closer .object left)
    have hfill : fill slots s [(key, v)] = put slots s (key, v) := by simp [fill]
    rw [List.append_assoc, List.append_assoc, members_entry hslots hsep hlead hkey hv hends, hfill]
    simp only [members_closeBrace slots false _ hws, Except.ok.injEq, Prod.mk.injEq]
    constructor
    · rintro ⟨t, hput, rfl, rfl⟩
      exact ⟨hput, rfl⟩
    · rintro ⟨hput, rfl⟩
      exact ⟨s', hput, rfl, rfl⟩
  | @more ps key lead v ws es ms hlead hkey hv hws hes ih =>
    have hends : Ends (ws ++ Ascii.comma :: (es ++ Ascii.closeBrace :: left)) :=
      ends_append hws (ends_comma _)
    have hnext : ∀ t,
        members slots false t (ws ++ Ascii.comma :: (es ++ Ascii.closeBrace :: left)) =
          .ok (.ok s', rest) ↔ fill slots t ms = some s' ∧ rest = Ascii.closeBrace :: left := by
      intro t
      have hcomma : Separates false (ws ++ [Ascii.comma]) := ⟨ws, hws, rfl⟩
      rw [← ih hcomma, List.append_assoc, List.singleton_append]
    have hfill : fill slots s ((key, v) :: ms) = some s' ↔
        ∃ t, put slots s (key, v) = some t ∧ fill slots t ms = some s' := by
      simp [fill, List.foldlM_cons, Option.bind_eq_some_iff]
    rw [List.append_assoc, List.append_assoc, List.append_assoc, List.cons_append,
      members_entry hslots hsep hlead hkey hv hends, hfill]
    simp only [hnext]
    constructor
    · rintro ⟨t, hput, hms, rfl⟩
      exact ⟨⟨t, hput, hms⟩, rfl⟩
    · rintro ⟨⟨t, hput, hms⟩, rfl⟩
      exact ⟨t, hput, hms, rfl⟩

/-- What stands between the braces of an object is read by filling in the members. -/
lemma members_inside {slots : List (Slot σ)} (hslots : ∀ slot ∈ slots, slot.Regular)
    {inside : Bytes} {ms : List (String × Bytes)}
    (h : Blanks inside ∧ ms = [] ∨ Members inside ms) {s s' : σ} {left rest : Bytes} :
    members slots true s (inside ++ Ascii.closeBrace :: left) = .ok (.ok s', rest) ↔
      fill slots s ms = some s' ∧ rest = Ascii.closeBrace :: left := by
  rcases h with ⟨hws, rfl⟩ | hes
  · rw [members_closeBrace slots true s hws]
    simp [fill, eq_comm]
  · have hsep : Separates true [] := rfl
    exact members_object hslots hes hsep

/-! ### Bodies -/

/-- A complaint about a structure is no result. -/
lemma conclude_error (close : Bytes → Bytes × Option Fault) (c : Cause) (left : Bytes)
    (p : α × Bytes) : conclude close (.error c) left ≠ .ok p := by
  simp [conclude]

/-- An object ends with its closing brace. -/
lemma conclude_closeBrace {outcome : Except Cause α} {left rest : Bytes} {a : α} :
    conclude closeObject outcome (Ascii.closeBrace :: left) = .ok (a, rest) ↔
      outcome = .ok a ∧ rest = left := by
  have hclose : closeObject (Ascii.closeBrace :: left) = (left, none) := by
    rw [closeObject, skipBlanks_cons (by decide)]
    rfl
  rw [conclude, hclose]
  cases outcome with
  | error c => simp
  | ok b => simp [eq_comm]

/-- A structure is read from an object by filling in its members. -/
lemma Shape.read_object {shape : Shape σ α} (hslots : ∀ slot ∈ shape.slots, slot.Regular)
    {ms : List (String × Bytes)} {ws inside left rest : Bytes} (hws : Blanks ws)
    (hinside : Blanks inside ∧ ms = [] ∨ Members inside ms) {a : α} :
    shape.read (ws ++ Ascii.openBrace :: (inside ++ Ascii.closeBrace :: left)) = .ok (a, rest) ↔
      (∃ s', fill shape.slots shape.empty ms = some s' ∧ shape.build s' = .ok a) ∧ rest = left := by
  have hread : shape.read (ws ++ Ascii.openBrace :: (inside ++ Ascii.closeBrace :: left)) =
      (members shape.slots true shape.empty (inside ++ Ascii.closeBrace :: left)).bind
        fun p => conclude closeObject (p.1.bind shape.build) p.2 := by
    rw [Shape.read, skipBlanks_append hws, skipBlanks_cons (by decide)]
    split
    · rename_i h
      nomatch h
    · rename_i h
      exact absurd (List.cons.inj h).1 (by decide)
    · rename_i h
      obtain rfl := (List.cons.inj h).2
      cases members shape.slots true shape.empty (inside ++ Ascii.closeBrace :: left) <;> rfl
    · rename_i h
      exact absurd rfl (h _)
  rw [hread]
  constructor
  · intro h
    cases hmembers : members shape.slots true shape.empty (inside ++ Ascii.closeBrace :: left) with
    | error f => simp [Except.bind, hmembers] at h
    | ok p =>
      obtain ⟨outcome, rest'⟩ := p
      simp only [Except.bind, hmembers] at h
      cases outcome with
      | error c => exact absurd h (conclude_error _ _ _ _)
      | ok s' =>
        obtain ⟨hfill, rfl⟩ := (members_inside hslots hinside).mp hmembers
        obtain ⟨hbuild, rfl⟩ := conclude_closeBrace.mp h
        exact ⟨⟨s', hfill, hbuild⟩, rfl⟩
  · rintro ⟨⟨s', hfill, hbuild⟩, rfl⟩
    rw [(members_inside hslots hinside).mpr ⟨hfill, rfl⟩]
    exact conclude_closeBrace.mpr ⟨hbuild, rfl⟩

/-- A whole body is read when only blanks are left. -/
lemma readAll_eq_ok_iff {reader : Reader α} {body : Bytes} {a : α} :
    readAll reader body = .ok a ↔ ∃ rest, reader body = .ok (a, rest) ∧ skipBlanks rest = [] := by
  rw [readAll]
  cases reader body with
  | error f => simp
  | ok p =>
    obtain ⟨b, rest⟩ := p
    simp only [Except.ok.injEq, Prod.mk.injEq]
    cases hrest : skipBlanks rest with
    | nil =>
      simp only [Except.ok.injEq]
      constructor
      · rintro rfl
        exact ⟨rest, ⟨rfl, rfl⟩, hrest⟩
      · rintro ⟨_, ⟨rfl, -⟩, -⟩
        rfl
    | cons c left =>
      simp only [reduceCtorEq, false_iff]
      rintro ⟨_, ⟨-, rfl⟩, hnil⟩
      simp [hrest] at hnil

/-- What stands between the braces of an object. -/
lemma ObjectBody.exists_inside {body : Bytes} {ms : List (String × Bytes)}
    (h : ObjectBody body ms) :
    ∃ ws inside ws', Blanks ws ∧ Blanks ws' ∧
      body = ws ++ Ascii.openBrace :: (inside ++ Ascii.closeBrace :: ws') ∧
      (Blanks inside ∧ ms = [] ∨ Members inside ms) := by
  cases h with
  | empty hws hws' hws'' => exact ⟨_, _, _, hws, hws'', rfl, .inl ⟨hws', rfl⟩⟩
  | members hws hes hws' => exact ⟨_, _, _, hws, hws', rfl, .inr hes⟩

/-- A body that is an object begins with its brace. -/
lemma ObjectBody.skipBlanks {body : Bytes} {ms : List (String × Bytes)} (h : ObjectBody body ms) :
    ∃ left, Json.skipBlanks body = Ascii.openBrace :: left := by
  obtain ⟨ws, inside, ws', hws, -, rfl, -⟩ := h.exists_inside
  exact ⟨_, by rw [skipBlanks_append hws, skipBlanks_cons (by decide)]⟩

/-- **A body that is an object is read by filling in its members.** -/
lemma ObjectBody.read {body : Bytes} {ms : List (String × Bytes)} (h : ObjectBody body ms)
    {shape : Shape σ α} (hslots : ∀ slot ∈ shape.slots, slot.Regular) {a : α} :
    readAll shape.read body = .ok a ↔
      ∃ s', fill shape.slots shape.empty ms = some s' ∧ shape.build s' = .ok a := by
  obtain ⟨ws, inside, ws', hws, hws', rfl, hinside⟩ := h.exists_inside
  have hblank : Json.skipBlanks ws' = [] := by
    rw [← List.append_nil ws', skipBlanks_append hws']
    rfl
  rw [readAll_eq_ok_iff]
  simp only [Shape.read_object hslots hws hinside]
  constructor
  · rintro ⟨_, ⟨hfill, rfl⟩, -⟩
    exact hfill
  · exact fun hfill => ⟨ws', ⟨hfill, rfl⟩, hblank⟩

/-! ### Readers of values -/

/-- A reader reads the values that a relation tells: blanks before a value do not matter, and
neither does what follows it. -/
structure Reads (reader : Reader α) (r : Bytes → α → Prop) : Prop where
  blanks : ∀ {left left' : Bytes}, skipBlanks left = skipBlanks left' → reader left = reader left'
  value : ∀ {v left rest : Bytes} {a : α}, WellFormed .value v →
    (reader (v ++ left) = .ok (a, rest) ↔ r v a ∧ rest = left)

/-- What a value may be, by its first octet: a text, a truth value, or another one. -/
lemma WellFormed.value_cases {v : Bytes} (hv : WellFormed .value v) :
    (∃ ps, v = quoted ps) ∨ (∃ b, v = flagOctets b) ∨
      ∃ b bs, v = b :: bs ∧ isBlank b = false ∧ b ≠ Ascii.quote ∧ b ≠ Ascii.lowerT ∧
        b ≠ Ascii.lowerF := by
  cases hv with
  | null => exact .inr (.inr ⟨_, _, rfl, by decide, by decide, by decide, by decide⟩)
  | flag b => exact .inr (.inl ⟨b, rfl⟩)
  | number hn =>
    obtain ⟨b, bs, rfl, hb⟩ := hn.exists_cons
    refine .inr (.inr ⟨b, bs, rfl, (starts_of_number hb).1, ?_, ?_, ?_⟩) <;>
      rintro rfl <;> revert hb <;> decide
  | text ps => exact .inl ⟨ps, rfl⟩
  | empty k hws =>
    refine .inr (.inr ⟨_, _, rfl, ?_⟩)
    cases k <;> decide
  | @enclosed k es hes =>
    refine .inr (.inr ⟨_, _, rfl, ?_⟩)
    cases k <;> decide

/-- Texts are read as what they denote, and nothing else is read as a text. -/
lemma reads_textValue : Reads textValue IsText := by
  constructor
  case blanks =>
    intro left left' h
    rw [textValue, textValue, h]
  case value =>
    intro v left rest s hv
    have hother : ∀ b bs, isBlank b = false → b ≠ Ascii.quote →
        (textValue (b :: bs ++ left) = .ok (s, rest) ↔ IsText (b :: bs) s ∧ rest = left) := by
      intro b bs hblank hquote
      have hread : textValue (b :: bs ++ left) =
          .error (mismatch "a string" (b :: bs ++ left)) := by
        rw [List.cons_append, textValue, skipBlanks_cons hblank]
        simp only [if_neg hquote]
      rw [hread]
      refine iff_of_false (by simp) ?_
      rintro ⟨⟨ps, hps, -⟩, -⟩
      exact hquote (List.cons.inj hps).1
    rcases hv.value_cases with ⟨ps, rfl⟩ | ⟨b, rfl⟩ | ⟨b, bs, rfl, hblank, hquote, -, -⟩
    · have hread : textValue (quoted ps ++ left) =
          text (ps.flatMap Piece.octets ++ Ascii.quote :: left) := by
        rw [quoted, List.cons_append, textValue, skipBlanks_cons (by decide), List.append_assoc]
        rfl
      rw [hread, text_quoted, isText_quoted]
    · cases b <;> exact hother _ _ (by decide) (by decide)
    · exact hother b bs hblank hquote

/-- Truth values are read, and nothing else is read as one. -/
lemma reads_flag : Reads flag IsFlag := by
  constructor
  case blanks =>
    intro left left' h
    rw [flag, flag, h]
  case value =>
    intro v left rest a hv
    have hother : ∀ b bs, isBlank b = false → b ≠ Ascii.lowerT → b ≠ Ascii.lowerF →
        (flag (b :: bs ++ left) = .ok (a, rest) ↔ IsFlag (b :: bs) a ∧ rest = left) := by
      intro b bs hblank htrue hfalse
      have hread : flag (b :: bs ++ left) = .error (mismatch "a boolean" (b :: bs ++ left)) := by
        rw [List.cons_append, flag, skipBlanks_cons hblank]
        simp only [if_neg htrue, if_neg hfalse]
      rw [hread]
      refine iff_of_false (by simp) ?_
      rintro ⟨hflag, -⟩
      cases a with
      | true => exact htrue (List.cons.inj hflag).1
      | false => exact hfalse (List.cons.inj hflag).1
    rcases hv.value_cases with ⟨ps, rfl⟩ | ⟨b, rfl⟩ | ⟨b, bs, rfl, hblank, -, htrue, hfalse⟩
    · exact hother _ _ (by decide) (by decide) (by decide)
    · have hread : flag (flagOctets b ++ left) = .ok (b, left) := by
        cases b with
        | true =>
          show (word trueTail (trueTail ++ left)).map _ = _
          rw [word_append]
          rfl
        | false =>
          show (word falseTail (falseTail ++ left)).map _ = _
          rw [word_append]
          rfl
      have hinj : flagOctets b = flagOctets a ↔ b = a := by
        cases a <;> cases b <;> decide
      rw [hread, IsFlag, hinj]
      simp [eq_comm]
    · exact hother b bs hblank htrue hfalse

/-- A value that stands alone is read up to its end. -/
lemma Reads.alone {reader : Reader α} {r : Bytes → α → Prop} (h : Reads reader r) {v : Bytes}
    (hv : WellFormed .value v) {a : α} : reader v = .ok (a, []) ↔ r v a := by
  have hvalue : reader (v ++ []) = .ok (a, []) ↔ r v a ∧ [] = [] := h.value hv
  rwa [List.append_nil, and_iff_left rfl] at hvalue

section Slots

variable {reader : Reader α} {r : Bytes → α → Prop} (name : String) (otherNames : List String)
  (mayBeCut : Bool) (filled : σ → Bool) (place : σ → α → σ)
  (shorter : ∀ {a : α} {left rest : Bytes}, reader left = .ok (a, rest) →
    rest.length < left.length)

/-- A slot reads what its reader reads, and puts it in. -/
lemma read_ofReader {s s' : σ} {left rest : Bytes} :
    (Slot.ofReader name otherNames mayBeCut filled place reader shorter).read s left =
      .ok (s', rest) ↔ ∃ a, reader left = .ok (a, rest) ∧ place s a = s' := by
  show (reader left).map (fun p => (place s p.1, p.2)) = .ok (s', rest) ↔ _
  cases reader left with
  | error f => simp [Except.map]
  | ok p =>
    obtain ⟨a, left'⟩ := p
    simp only [Except.map, Except.ok.injEq, Prod.mk.injEq]
    constructor
    · rintro ⟨hplace, rfl⟩
      exact ⟨a, ⟨rfl, rfl⟩, hplace⟩
    · rintro ⟨_, ⟨rfl, rfl⟩, hplace⟩
      exact ⟨hplace, rfl⟩

/-- A slot is regular when its reader is. -/
lemma Reads.regular (h : Reads reader r) :
    (Slot.ofReader name otherNames mayBeCut filled place reader shorter).Regular := by
  constructor
  case blanks =>
    intro s left left' hleft
    simp only [Slot.ofReader, h.blanks hleft]
  case alone =>
    intro s s' v left rest hv
    simp only [read_ofReader, h.value hv, h.alone hv]
    constructor
    · rintro ⟨a, ⟨hr, rfl⟩, hplace⟩
      exact ⟨⟨a, hr, hplace⟩, rfl⟩
    · rintro ⟨⟨a, hr, hplace⟩, rfl⟩
      exact ⟨a, ⟨hr, rfl⟩, hplace⟩

/-- What a slot makes of a value that stands alone. -/
lemma Reads.whole? (h : Reads reader r) {s s' : σ} {v : Bytes} (hv : WellFormed .value v) :
    Json.whole? ((Slot.ofReader name otherNames mayBeCut filled place reader shorter).read s v) =
      some s' ↔ ∃ a, r v a ∧ place s a = s' := by
  simp only [whole?_eq_some_iff, read_ofReader, h.alone hv]

end Slots

end Consent.Json
