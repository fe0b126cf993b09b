set_option autoImplicit false

/-!
# Scanners

A scanner takes something off the front of a text, or finds that it is not there. This module holds
the scanners that grammars are put together from. A repetition ends when its item is not there, and
fails when its item is there and takes nothing off, so that it always ends.

## Main definitions

* `Consent.Text.Scanner` — what a scanner is.
* `Consent.Text.Scanner.char`, `Consent.Text.Scanner.word`, `Consent.Text.Scanner.satisfying`.
* `Consent.Text.Scanner.many`, `Consent.Text.Scanner.separated` — repetitions.

## Main results

* `Consent.Text.Scanner.run_append` — a run is taken off as a whole.
* `Consent.Text.Scanner.many_none`, `Consent.Text.Scanner.many_some` — a repetition is over, or is
  its first item and a repetition.
-/

namespace Consent.Text

/-- Takes something off the front of a text. -/
abbrev Scanner (α : Type) := List Char → Option (α × List Char)

namespace Scanner

variable {α β : Type}

/-- Takes off one character with a property. -/
def satisfying (p : Char → Bool) : Scanner Char
  | [] => none
  | c :: rest => if p c then some (c, rest) else none

/-- Takes off a given character. -/
def char (expected : Char) : Scanner Unit
  | [] => none
  | c :: rest => if c = expected then some ((), rest) else none

/-- Takes off the characters of a word. -/
def word : List Char → Scanner Unit
  | [], rest => some ((), rest)
  | _ :: _, [] => none
  | w :: ws, c :: rest => if c = w then word ws rest else none

/-- Takes off a run of characters with a property, at least one. -/
def run (p : Char → Bool) : Scanner (List Char) := fun cs =>
  let front := cs.takeWhile p
  if front.isEmpty then none else some (front, cs.dropWhile p)

/-- Takes off a number of characters that all have a property. -/
def exactly (n : Nat) (p : Char → Bool) : Scanner (List Char) := fun cs =>
  let front := cs.take n
  if front.length = n && front.all p then some (front, cs.drop n) else none

/-- Takes off items as long as they are there. -/
def many (item : Scanner α) (cs : List Char) : Option (List α × List Char) :=
  match item cs with
  | none => some ([], cs)
  | some (a, rest) =>
    if rest.length < cs.length then (many item rest).map fun (as, rest) => (a :: as, rest)
    else none
termination_by cs.length

/-- Takes off an item behind a separator. -/
def behind (separator : Scanner β) (item : Scanner α) : Scanner α := fun cs =>
  (separator cs).bind fun (_, rest) => item rest

/-- Takes off items with separators between them, at least one. A separator that no item follows is
left. -/
def separated (separator : Scanner β) (item : Scanner α) : Scanner (List α) := fun cs => do
  let (a, rest) ← item cs
  let (as, rest) ← many (behind separator item) rest
  return (a :: as, rest)

/-- The first of two scanners that finds something. -/
def orElse (first second : Scanner α) : Scanner α := fun cs => (first cs).or (second cs)

/-- A run is taken off as a whole when it is not empty and what follows it does not go on with
it. -/
theorem run_append {p : Char → Bool} {front rest : List Char} (nonempty : front ≠ [])
    (inside : ∀ c ∈ front, p c = true) (outside : ∀ c ∈ rest.head?, p c = false) :
    run p (front ++ rest) = some (front, rest) := by
  have stop : rest.takeWhile p = [] ∧ rest.dropWhile p = rest := by
    cases rest with
    | nil => exact ⟨rfl, rfl⟩
    | cons c rest => simp [outside c (by simp)]
  have h1 : (front ++ rest).takeWhile p = front := by
    rw [List.takeWhile_append_of_pos inside, stop.1, List.append_nil]
  have h2 : (front ++ rest).dropWhile p = rest := by
    rw [List.dropWhile_append_of_pos inside, stop.2]
  simp only [run, h1, h2]
  simp [nonempty]

/-- A repetition whose item is not there is over. -/
theorem many_none {item : Scanner α} {cs : List Char} (h : item cs = none) :
    many item cs = some ([], cs) := by
  rw [many]
  simp [h]

/-- A repetition whose item is there is that item and a repetition. -/
theorem many_some {item : Scanner α} {cs rest : List Char} {a : α} (h : item cs = some (a, rest))
    (shorter : rest.length < cs.length) :
    many item cs = (many item rest).map fun (as, rest) => (a :: as, rest) := by
  rw [many]
  simp [h, shorter]

end Scanner

end Consent.Text
