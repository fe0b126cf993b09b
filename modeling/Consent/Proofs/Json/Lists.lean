import Consent.Proofs.Json.Objects
import Consent.Proofs.Json.Texts
import Mathlib.Data.List.DropRight

set_option autoImplicit false

/-!
# Reading the elements of a list

A structure is read from a list by reading one element after the other into its slots, in their
order. There may be fewer elements than slots, as long as the slots without one may be left out,
but not more.

## Main definitions

* `Consent.Json.Elements`, `Consent.Json.ListBody` — the elements of a list.
* `Consent.Json.arrange` — elements are put into slots in their order.
* `Consent.Json.Slot.Sound` — what a slot reads is a value.

## Main results

* `Consent.Json.elements_eq_ok_iff` — a list is read by arranging its elements.
* `Consent.Json.readAll_list_iff` — so is a body.
-/

namespace Consent.Json

variable {σ α : Type}

/-! ### Lists -/

/-- What stands behind the opening bracket of a list, or behind one of its elements: the elements
that are to come, and the closing bracket, behind which something is left. -/
inductive Elements : Bool → Bytes → List Bytes → Bytes → Prop where
  | close {isFirst : Bool} {ws rest : Bytes} (hws : Blanks ws) :
      Elements isFirst (ws ++ Ascii.closeBracket :: rest) [] rest
  | element {isFirst : Bool} {sep ws v left rest : Bytes} {vs : List Bytes}
      (hsep : Separates isFirst sep) (hws : Blanks ws) (hv : WellFormed .value v)
      (hleft : Elements false left vs rest) :
      Elements isFirst (sep ++ (ws ++ (v ++ left))) (v :: vs) rest

/-- A body is a list with the given elements. -/
inductive ListBody : Bytes → List Bytes → Prop where
  | mk {ws left ws' : Bytes} {vs : List Bytes} (hws : Blanks ws)
      (hleft : Elements true left vs ws') (hws' : Blanks ws') :
      ListBody (ws ++ Ascii.openBracket :: left) vs

/-- Blanks are split off. -/
lemma exists_blanks (left : Bytes) : ∃ ws, Blanks ws ∧ left = ws ++ skipBlanks left :=
  ⟨left.takeWhile isBlank, fun b hb => List.all_eq_true.mp List.all_takeWhile b hb,
    List.takeWhile_append_dropWhile.symm⟩

/-- No blanks are split off before a value. -/
lemma skipBlanks_value {v : Bytes} (hv : WellFormed .value v) (left : Bytes) :
    skipBlanks (v ++ left) = v ++ left := by
  obtain ⟨b, bs, rfl, hb⟩ := hv.exists_cons
  exact skipBlanks_cons hb.1 _

/-- A list without elements to come is closed. -/
lemma elements_nil_iff {isFirst : Bool} {left rest : Bytes} :
    Elements isFirst left [] rest ↔ skipBlanks left = Ascii.closeBracket :: rest := by
  constructor
  · intro h
    cases h with
    | close hws => rw [skipBlanks_append hws, skipBlanks_cons (by decide)]
  · intro h
    obtain ⟨ws, hws, hleft⟩ := exists_blanks left
    rw [hleft, h]
    exact .close hws

/-- The closing bracket of a list. -/
lemma closeList_eq_iff {left rest : Bytes} :
    closeList left = (rest, none) ↔ skipBlanks left = Ascii.closeBracket :: rest := by
  rw [closeList.eq_def]
  split
  · rename_i heq
    simp [heq]
  · rename_i heq
    simp [heq]
  · rename_i heq
    have hcomma : Ascii.comma ≠ Ascii.closeBracket := by decide
    simp [heq, hcomma]
  · rename_i hclose _ _
    simp only [Prod.mk.injEq, reduceCtorEq, and_false, false_iff]
    exact hclose rest

/-- The elements of a list are well formed. -/
lemma Elements.value {isFirst : Bool} {left rest : Bytes} {vs : List Bytes}
    (h : Elements isFirst left vs rest) : ∀ v ∈ vs, WellFormed .value v := by
  induction h with
  | close _ => exact List.forall_mem_nil _
  | element _ _ hv _ ih => exact List.forall_mem_cons.mpr ⟨hv, ih⟩

/-- The elements of a body that is a list are well formed. -/
lemma ListBody.value {body : Bytes} {vs : List Bytes} (h : ListBody body vs) :
    ∀ v ∈ vs, WellFormed .value v := by
  obtain ⟨-, hleft, -⟩ := h
  exact hleft.value

/-! ### One element -/

/-- No element comes before the closing bracket. -/
lemma nextElement_eq_false_iff {isFirst : Bool} {left l : Bytes} :
    nextElement isFirst left = .ok (false, l) ↔
      skipBlanks left = l ∧ ∃ rest, l = Ascii.closeBracket :: rest := by
  rw [nextElement.eq_def]
  cases hleft : skipBlanks left with
  | nil =>
    simp only [reduceCtorEq, false_iff]
    rintro ⟨rfl, rest, hrest⟩
    cases hrest
  | cons b bs =>
    by_cases hclose : b = Ascii.closeBracket
    · subst hclose
      simp only [if_true, Except.ok.injEq, Prod.mk.injEq, true_and]
      constructor
      · rintro rfl
        exact ⟨rfl, bs, rfl⟩
      · exact fun h => h.1
    · refine iff_of_false ?_ ?_
      · simp only [if_neg hclose]
        split
        · simp
        · split
          · split <;> simp
          · simp
      · rintro ⟨rfl, rest, hrest⟩
        exact hclose (List.cons.inj hrest).1

/-- An element comes next: behind a comma, unless it is the first one. -/
lemma nextElement_eq_true_iff {isFirst : Bool} {left l : Bytes} :
    nextElement isFirst left = .ok (true, l) ↔
      (∃ sep left', Separates isFirst sep ∧ left = sep ++ left' ∧ skipBlanks left' = l) ∧
        l ≠ [] ∧ l.head? ≠ some Ascii.closeBracket := by
  rw [nextElement.eq_def]
  constructor
  · intro h
    cases hleft : skipBlanks left with
    | nil => simp [hleft] at h
    | cons b bs =>
      simp only [hleft] at h
      split at h
      · simp at h
      · rename_i hclose
        cases isFirst with
        | true =>
          obtain rfl : b :: bs = l := by simpa using h
          exact ⟨⟨[], left, rfl, rfl, hleft⟩, by simp, by simpa using hclose⟩
        | false =>
          simp only [Bool.false_eq_true, if_false] at h
          split at h
          · rename_i hcomma
            obtain ⟨ws, hws, hsplit⟩ := exists_blanks left
            split at h
            · cases h
            · cases h
            · rename_i hnil hne
              obtain rfl : skipBlanks bs = l := by simpa using h
              refine ⟨⟨ws ++ [Ascii.comma], bs, ⟨ws, hws, rfl⟩, ?_, rfl⟩, hnil, ?_⟩
              · rw [hsplit, hleft, hcomma, List.append_assoc]
                rfl
              · cases hbs : skipBlanks bs with
                | nil => simp
                | cons c cs =>
                  rintro hc
                  obtain rfl := Option.some.inj hc
                  exact hne cs hbs
          · cases h
  · rintro ⟨⟨sep, left', hsep, rfl, rfl⟩, hne, hclose⟩
    cases hleft : skipBlanks left' with
    | nil => exact absurd hleft hne
    | cons b bs =>
      have hb : b ≠ Ascii.closeBracket := by
        rw [hleft] at hclose
        simpa using hclose
      cases isFirst with
      | true =>
        obtain rfl : sep = [] := hsep
        simp [hleft, hb]
      | false =>
        obtain ⟨ws, hws, rfl⟩ : ∃ ws, Blanks ws ∧ sep = ws ++ [Ascii.comma] := hsep
        have hcomma : Ascii.comma ≠ Ascii.closeBracket := by decide
        rw [List.append_assoc, skipBlanks_append hws, List.singleton_append,
          skipBlanks_cons (by decide)]
        simp only [if_neg hcomma, Bool.false_eq_true, if_false, if_true, hleft]
        split
        · rename_i h
          cases h
        · rename_i h
          exact absurd (List.cons.inj h).1 hb
        · rfl

/-- An element comes next when there are elements to come, and the others come behind it. -/
lemma elements_cons_iff {isFirst : Bool} {left v rest : Bytes} {vs : List Bytes} :
    Elements isFirst left (v :: vs) rest ↔
      ∃ left', nextElement isFirst left = .ok (true, v ++ left') ∧ WellFormed .value v ∧
        Elements false left' vs rest := by
  constructor
  · intro h
    cases h with
    | @element _ sep ws _ left' _ _ hsep hws hv hleft =>
      obtain ⟨b, bs, hb, hblank, -, hcloser⟩ := hv.exists_cons
      refine ⟨left', nextElement_eq_true_iff.mpr ⟨⟨sep, _, hsep, rfl, ?_⟩, ?_⟩, hv, hleft⟩
      · rw [skipBlanks_append hws, skipBlanks_value hv]
      · have hne := hcloser .list
        rw [Bracket.closer] at hne
        simp [hb, hne]
  · rintro ⟨left', hnext, hv, hleft⟩
    obtain ⟨⟨sep, l, hsep, rfl, hl⟩, -, -⟩ := nextElement_eq_true_iff.mp hnext
    obtain ⟨ws, hws, hsplit⟩ := exists_blanks l
    rw [hsplit, hl]
    exact .element hsep hws hv hleft

/-! ### All elements -/

/-- What a slot reads is a value behind blanks. -/
def Slot.Sound (slot : Slot σ) : Prop :=
  ∀ {s s' : σ} {left rest : Bytes}, slot.read s left = .ok (s', rest) →
    ∃ ws v, Blanks ws ∧ WellFormed .value v ∧ left = ws ++ (v ++ rest)

/-- Puts elements into slots in their order. -/
def arrange : List (Slot σ) → σ → List Bytes → Option σ
  | [], s, [] => some s
  | [], _, _ :: _ => none
  | slot :: slots, s, [] => if slot.mayBeCut then arrange slots s [] else none
  | slot :: slots, s, v :: vs => (whole? (slot.read s v)).bind fun t => arrange slots t vs

/-- What a slot reads where an element comes next is this element. -/
lemma Slot.Sound.read_element {slot : Slot σ} (hsound : slot.Sound) (hregular : slot.Regular)
    {isFirst : Bool} {s t : σ} {left l left' : Bytes}
    (hnext : nextElement isFirst left = .ok (true, l)) (hread : slot.read s l = .ok (t, left')) :
    ∃ v, l = v ++ left' ∧ WellFormed .value v ∧ whole? (slot.read s v) = some t := by
  obtain ⟨⟨_, l', -, -, rfl⟩, -, -⟩ := nextElement_eq_true_iff.mp hnext
  obtain ⟨ws, v, hws, hv, hl⟩ := hsound hread
  have hskip : skipBlanks (skipBlanks l') = skipBlanks l' := List.dropWhile_idempotent _ l'
  rw [hl, skipBlanks_append hws, skipBlanks_value hv, ← hl] at hskip
  refine ⟨v, hskip.symm, hv, whole?_eq_some_iff.mpr ?_⟩
  rw [← hskip] at hread
  exact ((hregular.alone hv).mp hread).1

/-- **A list is read by arranging its elements.**

**Proof sketch.** By induction on the slots, for all that has been read before. Either an element
comes next, which the slot reads, or the closing bracket does, and stays where it is. -/
lemma elements_eq_ok_iff {slots : List (Slot σ)}
    (hslots : ∀ slot ∈ slots, slot.Regular ∧ slot.Sound) (expected : String) (index : Nat)
    (s s' : σ) (left rest : Bytes) :
    (∃ l, elements expected index s left slots = .ok (.ok s', l) ∧ closeList l = (rest, none)) ↔
      ∃ vs, Elements (index = 0) left vs rest ∧ arrange slots s vs = some s' := by
  induction slots generalizing index s left with
  | nil =>
    simp only [elements, Except.ok.injEq, Prod.mk.injEq, closeList_eq_iff]
    constructor
    · rintro ⟨_, ⟨rfl, rfl⟩, hclose⟩
      exact ⟨[], elements_nil_iff.mpr hclose, rfl⟩
    · rintro ⟨vs, hvs, harrange⟩
      cases vs with
      | nil =>
        obtain rfl := Option.some.inj harrange
        exact ⟨left, ⟨rfl, rfl⟩, elements_nil_iff.mp hvs⟩
      | cons v vs => cases harrange
  | cons slot slots ih =>
    obtain ⟨hregular, hsound⟩ := hslots slot List.mem_cons_self
    have ih : ∀ (t : σ) (left' : Bytes), (∃ l, elements expected (index + 1) t left' slots =
        .ok (.ok s', l) ∧ closeList l = (rest, none)) ↔
          ∃ vs, Elements false left' vs rest ∧ arrange slots t vs = some s' := by
      intro t left'
      simpa using ih (fun slot' h => hslots slot' (List.mem_cons_of_mem _ h)) (index + 1) t left'
    rw [elements.eq_def]
    constructor
    · rintro ⟨l, hread, hclose⟩
      simp only at hread
      split at hread
      · cases hread
      · rename_i l' hnext
        obtain ⟨hleft, rest', rfl⟩ := nextElement_eq_false_iff.mp hnext
        split at hread
        · rename_i hcut
          obtain ⟨vs, hvs, harrange⟩ := (ih s _).mp ⟨l, hread, hclose⟩
          have hcloser : skipBlanks (Ascii.closeBracket :: rest') = Ascii.closeBracket :: rest' :=
            skipBlanks_cons (by decide) _
          cases vs with
          | nil =>
            rw [elements_nil_iff, hcloser] at hvs
            refine ⟨[], elements_nil_iff.mpr (hleft.trans hvs), ?_⟩
            rw [arrange, if_pos hcut, harrange]
          | cons v vs =>
            obtain ⟨left', hfound, -⟩ := elements_cons_iff.mp hvs
            rw [nextElement_eq_false_iff.mpr ⟨hcloser, rest', rfl⟩] at hfound
            simp at hfound
        · simp at hread
      · rename_i l' hnext
        split at hread
        · cases hread
        · rename_i t left' hslot
          obtain ⟨v, rfl, hv, hvalue⟩ := hsound.read_element hregular hnext hslot
          obtain ⟨vs, hvs, harrange⟩ := (ih t _).mp ⟨l, hread, hclose⟩
          refine ⟨v :: vs, elements_cons_iff.mpr ⟨left', hnext, hv, hvs⟩, ?_⟩
          rw [arrange, hvalue, Option.bind_some, harrange]
    · rintro ⟨vs, hvs, harrange⟩
      cases vs with
      | nil =>
        have hleft := elements_nil_iff.mp hvs
        have hnext : nextElement (decide (index = 0)) left =
            .ok (false, Ascii.closeBracket :: rest) :=
          nextElement_eq_false_iff.mpr ⟨hleft, rest, rfl⟩
        rw [arrange] at harrange
        split at harrange
        · rename_i hcut
          simp only [hnext, hcut, if_true]
          exact (ih s _).mpr ⟨[], elements_nil_iff.mpr (skipBlanks_cons (by decide) _), harrange⟩
        · cases harrange
      | cons v vs =>
        obtain ⟨left', hnext, hv, hvs⟩ := elements_cons_iff.mp hvs
        obtain ⟨t, hvalue, harrange⟩ := Option.bind_eq_some_iff.mp harrange
        have hslot : slot.read s (v ++ left') = .ok (t, left') :=
          (hregular.alone hv).mpr ⟨whole?_eq_some_iff.mp hvalue, rfl⟩
        simp only [hnext, hslot]
        exact (ih t left').mpr ⟨vs, hvs, harrange⟩

/-- A list ends with its closing bracket. -/
lemma conclude_closeList_iff {outcome : Except Cause α} {left rest : Bytes} {a : α} :
    conclude closeList outcome left = .ok (a, rest) ↔
      outcome = .ok a ∧ closeList left = (rest, none) := by
  rw [conclude]
  obtain ⟨rest', fault⟩ := closeList left
  cases outcome <;> cases fault <;> simp

/-- A structure is read from a list by arranging its elements. -/
lemma Shape.read_list_iff {shape : Shape σ α}
    (hslots : ∀ slot ∈ shape.slots, slot.Regular ∧ slot.Sound) {body left rest : Bytes}
    (hbody : skipBlanks body = Ascii.openBracket :: left) {a : α} :
    shape.read body = .ok (a, rest) ↔
      ∃ vs s', Elements true left vs rest ∧ arrange shape.slots shape.empty vs = some s' ∧
        shape.build s' = .ok a := by
  have hread : shape.read body = (elements shape.listName 0 shape.empty left shape.slots).bind
      fun p => conclude closeList (p.1.bind shape.build) p.2 := by
    rw [Shape.read, hbody]
    split
    · rename_i h
      cases h
    · rename_i h
      obtain rfl := (List.cons.inj h).2
      cases elements shape.listName 0 shape.empty left shape.slots <;> rfl
    · rename_i h
      exact absurd (List.cons.inj h).1 (by decide)
    · rename_i h _
      exact absurd rfl (h _)
  have helements := fun s' =>
    elements_eq_ok_iff hslots shape.listName 0 shape.empty s' left rest
  rw [hread]
  constructor
  · intro h
    cases hfound : elements shape.listName 0 shape.empty left shape.slots with
    | error f => simp [hfound, Except.bind] at h
    | ok p =>
      obtain ⟨outcome, l⟩ := p
      simp only [hfound, Except.bind] at h
      obtain ⟨hbuild, hclose⟩ := conclude_closeList_iff.mp h
      cases outcome with
      | error c => cases hbuild
      | ok s' =>
        obtain ⟨vs, hvs, harrange⟩ := (helements s').mp ⟨l, hfound, hclose⟩
        exact ⟨vs, s', hvs, harrange, hbuild⟩
  · rintro ⟨vs, s', hvs, harrange, hbuild⟩
    obtain ⟨l, hfound, hclose⟩ := (helements s').mpr ⟨vs, hvs, harrange⟩
    rw [hfound]
    exact conclude_closeList_iff.mpr ⟨hbuild, hclose⟩

/-- **A body that begins with a bracket is read by arranging the elements of a list**, and it is
a list if it is read. -/
lemma readAll_list_iff {shape : Shape σ α}
    (hslots : ∀ slot ∈ shape.slots, slot.Regular ∧ slot.Sound) {body left : Bytes}
    (hbody : skipBlanks body = Ascii.openBracket :: left) {a : α} :
    readAll shape.read body = .ok a ↔
      ∃ vs s', ListBody body vs ∧ arrange shape.slots shape.empty vs = some s' ∧
        shape.build s' = .ok a := by
  rw [readAll_eq_ok_iff]
  simp only [Shape.read_list_iff hslots hbody]
  constructor
  · rintro ⟨rest, ⟨vs, s', hvs, harrange, hbuild⟩, hrest⟩
    have hblanks : Blanks rest := List.dropWhile_eq_nil_iff.mp hrest
    obtain ⟨ws, hws, hsplit⟩ := exists_blanks body
    refine ⟨vs, s', ?_, harrange, hbuild⟩
    rw [hsplit, hbody]
    exact .mk hws hvs hblanks
  · rintro ⟨vs, s', hlist, harrange, hbuild⟩
    obtain @⟨ws, left', rest, _, hws, hvs, hrest⟩ := hlist
    rw [skipBlanks_append hws, skipBlanks_cons (by decide)] at hbody
    obtain rfl := (List.cons.inj hbody).2
    exact ⟨rest, ⟨vs, s', hvs, harrange, hbuild⟩, List.dropWhile_eq_nil_iff.mpr hrest⟩

/-! ### Readers of values -/

/-- What is read as a text is a value behind blanks. -/
lemma sound_textValue {left rest : Bytes} {s : String} (h : textValue left = .ok (s, rest)) :
    ∃ ws v, Blanks ws ∧ WellFormed .value v ∧ left = ws ++ (v ++ rest) := by
  obtain ⟨ws, hws, hsplit⟩ := exists_blanks left
  rw [textValue] at h
  cases hleft : skipBlanks left with
  | nil => simp [hleft] at h
  | cons b bs =>
    simp only [hleft] at h
    split at h
    · rename_i hquote
      obtain ⟨ps, hps, -⟩ := exists_quoted h
      refine ⟨ws, quoted ps, hws, .text ps, ?_⟩
      rw [← hps, ← hquote, ← hleft, ← hsplit]
    · cases h

/-- What is read as a word is its letters. -/
lemma eq_append_of_word {letters left rest : Bytes} (h : word letters left = .ok rest) :
    left = letters ++ rest := by
  fun_induction word letters left with
  | case1 left => exact Except.ok.inj h
  | case2 => cases h
  | case3 b letters rest' ih => rw [ih h, List.cons_append]
  | case4 => cases h

/-- What is read as a truth value is a value behind blanks. -/
lemma sound_flag {left rest : Bytes} {b : Bool} (h : flag left = .ok (b, rest)) :
    ∃ ws v, Blanks ws ∧ WellFormed .value v ∧ left = ws ++ (v ++ rest) := by
  obtain ⟨ws, hws, hsplit⟩ := exists_blanks left
  rw [flag] at h
  cases hleft : skipBlanks left with
  | nil => simp [hleft] at h
  | cons c bs =>
    simp only [hleft] at h
    split at h
    · rename_i htrue
      obtain ⟨rest', hword, heq⟩ := ok_of_map_eq_ok h
      obtain ⟨-, rfl⟩ := Prod.mk.inj heq
      refine ⟨ws, flagOctets true, hws, .flag true, ?_⟩
      rw [hsplit, hleft, htrue, eq_append_of_word hword]
      rfl
    · split at h
      · rename_i hfalse
        obtain ⟨rest', hword, heq⟩ := ok_of_map_eq_ok h
        obtain ⟨-, rfl⟩ := Prod.mk.inj heq
        refine ⟨ws, flagOctets false, hws, .flag false, ?_⟩
        rw [hsplit, hleft, hfalse, eq_append_of_word hword]
        rfl
      · cases h

/-- A slot is sound when its reader is. -/
lemma sound_ofReader {reader : Reader α} (name : String) (otherNames : List String)
    (mayBeCut : Bool) (filled : σ → Bool) (place : σ → α → σ)
    (shorter : ∀ {a : α} {left rest : Bytes}, reader left = .ok (a, rest) →
      rest.length < left.length)
    (h : ∀ {left rest : Bytes} {a : α}, reader left = .ok (a, rest) →
      ∃ ws v, Blanks ws ∧ WellFormed .value v ∧ left = ws ++ (v ++ rest)) :
    (Slot.ofReader name otherNames mayBeCut filled place reader shorter).Sound := by
  intro s s' left rest hread
  obtain ⟨a, ha, -⟩ := (read_ofReader name otherNames mayBeCut filled place shorter).mp hread
  exact h ha

end Consent.Json
