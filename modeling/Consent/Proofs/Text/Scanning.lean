import Consent.Text.Scan
import Mathlib.Tactic.Lemma

set_option autoImplicit false

/-!
# Reading what has been written

What scanners take off a text that is made of known parts.

## Main results

* `Consent.Text.Scanner.many_flatMap` — a repetition takes off items that are written one after the
  other.
* `Consent.Text.Scanner.separated_one` — an item that no separator follows is the only one.
* `Consent.Text.Scanner.Yields` — a property of all that a scanner takes off.
-/

namespace Consent.Text.Scanner

variable {α β : Type} {cs rest : List Char}

/-- The characters with a property are taken off the front of a text, up to some number of them, if
another one follows or there is no room for more. -/
lemma takeWhile_take_append {p : Char → Bool} {most : Nat} (hcs : ∀ c ∈ cs, p c = true)
    (hle : cs.length ≤ most) (hstop : cs.length = most ∨ ∀ c ∈ rest.head?, p c = false) :
    ((cs ++ rest).take most).takeWhile p = cs := by
  have hafter : (rest.take (most - cs.length)).takeWhile p = [] := by
    rcases hstop with hfull | hstops
    · rw [hfull, Nat.sub_self, List.take_zero, List.takeWhile_nil]
    · cases rest with
      | nil => rw [List.take_nil, List.takeWhile_nil]
      | cons c left =>
        cases most - cs.length with
        | zero => rfl
        | succ k => rw [List.take_succ_cons, List.takeWhile_cons_of_neg (by simp [hstops c rfl])]
  rw [List.take_append, List.take_of_length_le hle, List.takeWhile_append_of_pos hcs, hafter,
    List.append_nil]

/-- What the first scanner finds is taken. -/
lemma orElse_of_some {first second : Scanner α} {r : α × List Char} (h : first cs = some r) :
    orElse first second cs = some r := by
  rw [orElse, h, Option.some_or]

/-- If the first scanner finds nothing, the second one is asked. -/
lemma orElse_of_none {first second : Scanner α} (h : first cs = none) :
    orElse first second cs = second cs := by
  rw [orElse, h, Option.none_or]

/-- The expected character is taken off. -/
lemma char_cons (c : Char) : char c (c :: rest) = some ((), rest) := if_pos rfl

/-- Another character is not taken off. -/
lemma char_of_ne {c d : Char} (h : c ≠ d) : char d (c :: rest) = none := if_neg h

/-- A character with the property is taken off. -/
lemma satisfying_cons {p : Char → Bool} {c : Char} (h : p c = true) :
    satisfying p (c :: rest) = some (c, rest) := if_pos h

/-- A character without the property is not taken off. -/
lemma satisfying_of_not {p : Char → Bool} {c : Char} (h : p c = false) :
    satisfying p (c :: rest) = none := if_neg (by rw [h]; exact Bool.false_ne_true)

/-- A word is taken off exactly if the text begins with it. -/
lemma word_eq_some_iff {ws : List Char} : word ws cs = some ((), rest) ↔ cs = ws ++ rest := by
  induction ws generalizing cs with
  | nil => simp [word]
  | cons w ws ih =>
    cases cs with
    | nil => simp [word]
    | cons c cs =>
      rw [word, List.cons_append, List.cons.injEq]
      split
      · rename_i hc
        rw [ih]
        exact ⟨fun h => ⟨hc, h⟩, fun h => h.2⟩
      · rename_i hc
        exact iff_of_false (fun h => by cases h) fun h => hc h.1

/-- A number of characters with a property is taken off. -/
lemma exactly_append {n : Nat} {p : Char → Bool} (hlength : cs.length = n)
    (hall : cs.all p = true) :
    exactly n p (cs ++ rest) = some (cs, rest) := by
  subst n
  simp only [exactly, List.take_left', List.drop_left', hall, decide_true, Bool.and_self, if_true]

/-- **A repetition takes off items that are written one after the other**, up to where no item
is. -/
lemma many_flatMap {item : Scanner α} {written : β → List Char} {read : β → α} {bs : List β}
    (hitem : ∀ b ∈ bs, ∀ rest, item (written b ++ rest) = some (read b, rest))
    (hne : ∀ b ∈ bs, written b ≠ []) (hstop : item rest = none) :
    many item (bs.flatMap written ++ rest) = some (bs.map read, rest) := by
  induction bs with
  | nil => exact many_none hstop
  | cons b bs ih =>
    have hshorter : (bs.flatMap written ++ rest).length <
        (written b ++ (bs.flatMap written ++ rest)).length := by
      have hpos := List.length_pos_iff.mpr (hne b List.mem_cons_self)
      have hsum : (written b ++ (bs.flatMap written ++ rest)).length =
          (written b).length + (bs.flatMap written ++ rest).length := List.length_append
      omega
    rw [List.flatMap_cons, List.append_assoc, many_some (hitem b List.mem_cons_self _) hshorter,
      ih (fun b' hb' => hitem b' (List.mem_cons_of_mem _ hb'))
        (fun b' hb' => hne b' (List.mem_cons_of_mem _ hb'))]
    rfl

/-- An item that no separator follows is the only one. -/
lemma separated_one {separator : Scanner β} {item : Scanner α} {a : α}
    (hitem : item cs = some (a, rest)) (hend : separator rest = none) :
    separated separator item cs = some ([a], rest) := by
  have hmany : many (behind separator item) rest = some ([], rest) :=
    many_none (by rw [behind, hend, Option.bind_none])
  simp only [separated, hitem, hmany, Option.bind_eq_bind, Option.bind_some, Option.pure_def]

/-! ### What a scanner takes off -/

variable {P : α → Prop} {s s' : Scanner α}

/-- All that a scanner takes off has a property. -/
def Yields (s : Scanner α) (P : α → Prop) : Prop :=
  ∀ (cs : List Char) (a : α) (rest : List Char), s cs = some (a, rest) → P a

/-- What the first of two scanners takes off. -/
lemma Yields.orElse (h : Yields s P) (h' : Yields s' P) : Yields (orElse s s') P := by
  intro cs a rest hread
  rcases Option.or_eq_some_iff.mp hread with hread | ⟨-, hread⟩
  · exact h _ _ _ hread
  · exact h' _ _ _ hread

/-- What a scanner takes off and changes. -/
lemma Yields.map {Q : β → Prop} {t : Scanner β} {f : β × List Char → α × List Char}
    (h : Yields t Q) (hf : ∀ b rest, Q b → P (f (b, rest)).1) :
    Yields (fun cs => (t cs).map f) P := by
  intro cs a rest hread
  obtain ⟨⟨b, left⟩, hb, heq⟩ := Option.map_eq_some_iff.mp hread
  have hP := hf b left (h _ _ _ hb)
  rwa [heq] at hP

/-- A scanner takes something off. -/
lemma yields_true (s : Scanner α) : Yields s fun _ => True := fun _ _ _ _ => trivial

/-- What a repetition takes off. -/
lemma Yields.many (h : Yields s P) {as : List α} (hmany : many s cs = some (as, rest)) :
    ∀ a ∈ as, P a := by
  induction cs using many.induct s generalizing as with
  | case1 cs hnone =>
    rw [many_none hnone] at hmany
    obtain ⟨rfl, -⟩ := Prod.mk.inj (Option.some.inj hmany)
    exact List.forall_mem_nil _
  | case2 cs a left hread hshorter ih =>
    rw [many_some hread hshorter] at hmany
    obtain ⟨⟨bs, left'⟩, hrest, heq⟩ := Option.map_eq_some_iff.mp hmany
    obtain ⟨rfl, rfl⟩ := Prod.mk.inj heq
    exact List.forall_mem_cons.mpr ⟨h _ _ _ hread, ih hrest⟩
  | case3 cs a left hread hlonger =>
    rw [Scanner.many, hread] at hmany
    simp [hlonger] at hmany

end Consent.Text.Scanner
