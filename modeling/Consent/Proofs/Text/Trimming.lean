import Consent.Text.Blank
import Mathlib.Data.List.TakeWhile
import Mathlib.Tactic.Lemma

set_option autoImplicit false

/-!
# Trimming

The blanks around a text do not matter once it is trimmed, and a text without blanks stays as it is.

## Main results

* `Consent.Text.trim_blanks` — blanks around a text do not matter.
* `Consent.Text.trim_of_not_blank` — a text without blanks is not changed.
* `Consent.Text.mem_trim` — nothing but blanks is taken away.
-/

namespace Consent.Text

variable {cs ws : List Char}

/-- Blanks before a text do not matter. -/
lemma trimStart_blanks (hws : ∀ c ∈ ws, isBlank c = true) : trimStart (ws ++ cs) = trimStart cs :=
  List.dropWhile_append_of_pos hws

/-- Blanks behind a text do not matter. -/
lemma trimEnd_blanks (hws : ∀ c ∈ ws, isBlank c = true) : trimEnd (cs ++ ws) = trimEnd cs := by
  rw [trimEnd, List.reverse_append,
    List.dropWhile_append_of_pos fun c hc => hws c (List.mem_reverse.mp hc), ← trimEnd]

/-- **Blanks around a text do not matter.** -/
lemma trim_blanks {ws' : List Char} (hws : ∀ c ∈ ws, isBlank c = true)
    (hws' : ∀ c ∈ ws', isBlank c = true) : trim (ws ++ cs ++ ws') = trim cs := by
  rw [trim, List.append_assoc, trimStart_blanks hws, trimStart, List.dropWhile_append]
  split
  · rename_i hempty
    -- A text of blanks only, with more blanks behind it.
    rw [List.dropWhile_eq_nil_iff.mpr hws', trim, trimStart, List.isEmpty_iff.mp hempty]
  · exact trimEnd_blanks hws'

/-- A text without blanks is not changed. -/
lemma trim_of_not_blank (hcs : ∀ c ∈ cs, isBlank c = false) : trim cs = cs := by
  have hdrop : ∀ {cs : List Char}, (∀ c ∈ cs, isBlank c = false) → cs.dropWhile isBlank = cs := by
    intro cs hcs
    cases cs with
    | nil => rfl
    | cons c left => exact List.dropWhile_cons_of_neg (by simp [hcs c List.mem_cons_self])
  rw [trim, trimStart, hdrop hcs, trimEnd, hdrop fun c hc => hcs c (List.mem_reverse.mp hc),
    List.reverse_reverse]

/-- Trimming takes nothing but blanks away. -/
lemma mem_trim {cs : List Char} {c : Char} (hc : c ∈ cs) (hblank : isBlank c = false) :
    c ∈ trim cs := by
  have hdrop : ∀ {cs : List Char}, c ∈ cs → c ∈ cs.dropWhile isBlank := by
    intro cs hc
    rw [← List.takeWhile_append_dropWhile (p := isBlank) (l := cs), List.mem_append] at hc
    refine hc.resolve_left fun hfront => ?_
    have htrue : isBlank c = true := List.mem_takeWhile_imp hfront
    simp [hblank] at htrue
  exact List.mem_reverse.mpr (hdrop (List.mem_reverse.mpr (hdrop hc)))

/-- Nothing is left of a text exactly if all of it is blank. -/
lemma trim_isEmpty_iff : (trim cs).isEmpty = true ↔ ∀ c ∈ cs, isBlank c = true := by
  rw [List.isEmpty_iff, trim, trimEnd, List.reverse_eq_nil_iff, List.dropWhile_eq_nil_iff]
  constructor
  · intro h c hc
    rw [← List.takeWhile_append_dropWhile (p := isBlank) (l := cs), List.mem_append] at hc
    rcases hc with hc | hc
    · exact List.mem_takeWhile_imp hc
    · exact h c (List.mem_reverse.mpr hc)
  · exact fun h c hc => h c ((List.dropWhile_suffix isBlank).subset (List.mem_reverse.mp hc))

end Consent.Text
