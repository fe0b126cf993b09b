import Consent.Proofs.Text.Scanning
import Consent.Toml.Literal
import Consent.Toml.Quoting
import Mathlib.Tactic.SplitIfs

set_option autoImplicit false

/-!
# Quoted texts are read back

A text is written in one of four forms, and whichever it is, the text is read back from it. Between
double quotes every character is, since one that cannot stand for itself is written behind a
backslash. Between three quotes, quotes at the end of the text come just before the closing ones:
the reader stops at the first three quotes in a row, and then takes up to two of those that stand
there as part of the text.

## Main definitions

* `Consent.Toml.ReadAsParts` — some characters are read as the parts of a text between three quotes.

## Main results

* `Consent.Toml.basicChar_escapeBasic`, `Consent.Toml.basicPiece_escapeChar` — a character is read
  back.
* `Consent.Toml.readAsParts_escaped`, `Consent.Toml.readAsParts_plain` — the parts of a text between
  three quotes are read back.
* `Consent.Toml.anyText_writeText` — a text is read back.
-/

namespace Consent.Toml

open Text

variable {c : Char} {cs rest : List Char}

/-! ### Characters -/

/-- A character that is not hidden and ends no line stands for itself. -/
lemma isPlain_of_not_hidden (hc : isHiddenControl c = false) (hline : c ≠ '\n') :
    isPlain c = true := by
  simp only [isHiddenControl, Bool.or_eq_false_iff, Bool.and_eq_false_iff, decide_eq_false_iff_not,
    ne_eq, Decidable.not_not] at hc
  simp only [isPlain, isWide, Bool.or_eq_true, Bool.and_eq_true, decide_eq_true_eq]
  by_cases htab : c = '\t'
  · exact .inl (.inl htab)
  · have hlow : 0x20 ≤ c.toNat := by
      rcases hc.1 with (h | h) | h
      · omega
      · exact absurd h htab
      · exact absurd h hline
    omega

/-- A character that stands for itself ends no line. -/
lemma newline_of_isPlain (hc : isPlain c = true) : newline (c :: cs) = none := by
  unfold newline
  split
  · rename_i h
    rw [(List.cons.inj h).1] at hc
    exact absurd hc (by decide)
  · rename_i h
    rw [(List.cons.inj h).1] at hc
    exact absurd hc (by decide)
  · rfl

/-- The number of a hidden control is read back. -/
lemma numbered_fourHexDigits (hc : isHiddenControl c = true) :
    numbered 4 (fourHexDigits c.toNat ++ rest) = some (c, rest) := by
  have hlow : ∀ n < 0x20, (fourHexDigits n).length = 4 ∧ (fourHexDigits n).all isHexDigit = true ∧
      valueIn 16 (fourHexDigits n) = n := by decide
  have hdel : (fourHexDigits 0x7f).length = 4 ∧ (fourHexDigits 0x7f).all isHexDigit = true ∧
      valueIn 16 (fourHexDigits 0x7f) = 0x7f := by decide
  have hrange : c.toNat < 0x20 ∨ c.toNat = 0x7f := by
    simp only [isHiddenControl, Bool.or_eq_true, Bool.and_eq_true, decide_eq_true_eq] at hc
    exact hc.imp_left fun h => h.1.1
  obtain ⟨hlength, hall, hvalue⟩ : (fourHexDigits c.toNat).length = 4 ∧
      (fourHexDigits c.toNat).all isHexDigit = true ∧
        valueIn 16 (fourHexDigits c.toNat) = c.toNat := by
    rcases hrange with h | h
    · exact hlow _ h
    · rwa [h]
  have hvalid : c.toNat.isValidChar := c.valid
  simp only [numbered, Scanner.exactly_append hlength hall, hvalue, Option.bind_eq_bind,
    Option.bind_some, if_pos hvalid, Char.ofNat_toNat]

/-- A character that ends no line and is no quote is written behind a backslash, from where it is
read back, or it stands for itself. -/
lemma escapeChar_cases (hline : c ≠ '\n') :
    (∃ w, escapeChar c = '\\' :: w ∧ ∀ rest, escaped (w ++ rest) = some (c, rest)) ∨
      (escapeChar c = [c] ∧ isPlain c = true ∧ c ≠ '\\') := by
  unfold escapeChar
  split_ifs with hb ht hf hr hs hh
  · exact .inl ⟨['b'], rfl, fun rest => hb ▸ rfl⟩
  · exact .inl ⟨['t'], rfl, fun rest => ht ▸ rfl⟩
  · exact .inl ⟨['f'], rfl, fun rest => hf ▸ rfl⟩
  · exact .inl ⟨['r'], rfl, fun rest => hr ▸ rfl⟩
  · exact .inl ⟨['\\'], rfl, fun rest => by rw [hs]; rfl⟩
  · refine .inl ⟨'u' :: fourHexDigits c.toNat, rfl, fun rest => ?_⟩
    exact numbered_fourHexDigits hh
  · exact .inr ⟨rfl, isPlain_of_not_hidden (by simpa using hh) hline, hs⟩

/-- **A character is read back on one line.** -/
lemma basicChar_escapeBasic (c : Char) (rest : List Char) :
    basicChar (escapeBasic c ++ rest) = some (c, rest) := by
  unfold escapeBasic
  split_ifs with hquote hline
  · subst c
    rfl
  · subst c
    rfl
  · rcases escapeChar_cases hline with ⟨w, hw, hread⟩ | ⟨hself, hplain, hslash⟩
    · rw [hw]
      exact hread rest
    · rw [hself, List.singleton_append, basicChar, if_neg hslash, if_pos (by simp [hplain, hquote])]

/-- **A character is read back as a part of several lines**, if it is no quote and ends none. -/
lemma basicPiece_escapeChar (hquote : c ≠ '"') (hline : c ≠ '\n') :
    basicPiece (escapeChar c ++ rest) = some ([c], rest) := by
  rcases escapeChar_cases hline with ⟨w, hw, hread⟩ | ⟨hself, hplain, hslash⟩
  · rw [hw, List.cons_append, basicPiece, if_pos rfl]
    exact Scanner.orElse_of_some (by rw [hread rest]; rfl)
  · rw [hself, List.singleton_append, basicPiece, if_neg hslash, plainPiece,
      newline_of_isPlain hplain]
    simp [hplain, hquote]

/-! ### Several lines -/

variable {quote : Char}

/-- Three quotes are taken off. -/
lemma tripleQuote_cons :
    tripleQuote quote (quote :: quote :: quote :: rest) = some ((), rest) :=
  Scanner.word_eq_some_iff.mpr rfl

/-- If three quotes are taken off, the text begins with them. -/
lemma exists_of_tripleQuote (h : tripleQuote quote cs ≠ none) :
    ∃ left, cs = quote :: quote :: quote :: left := by
  obtain ⟨⟨u, left⟩, hread⟩ := Option.ne_none_iff_exists'.mp h
  exact ⟨left, Scanner.word_eq_some_iff.mp hread⟩

/-- No part of a text begins with three quotes. -/
lemma plainPiece_tripleQuote (hquote : isPlain quote = true) :
    plainPiece quote (quote :: quote :: quote :: rest) = none := by
  rw [plainPiece, newline_of_isPlain hquote]
  simp [tripleQuote_cons]

/-- A character stands for itself, and so does a quote that does not begin three. -/
lemma plainPiece_cons (hc : isPlain c = true)
    (hquote : c ≠ quote ∨ tripleQuote quote (c :: cs) = none) :
    plainPiece quote (c :: cs) = some ([c], cs) := by
  rw [plainPiece, newline_of_isPlain hc]
  rcases hquote with h | h <;> simp [hc, h]

/-- A line feed stands for itself. -/
lemma plainPiece_newline : plainPiece quote ('\n' :: cs) = some (['\n'], cs) := rfl

/-- Some characters are read as parts of a text up to its closing quotes, before which up to two
more quotes are left. -/
def ReadAsParts (quote : Char) (piece : Scanner (List Char)) (written cs rest : List Char) : Prop :=
  ∃ parts n, n ≤ 2 ∧ parts.flatten ++ List.replicate n quote = cs ∧
    Scanner.many piece (written ++ quote :: quote :: quote :: rest) =
      some (parts, List.replicate n quote ++ quote :: quote :: quote :: rest)

/-- A part is read in front of others. -/
lemma ReadAsParts.cons {piece : Scanner (List Char)} {written : List Char}
    (h : ReadAsParts quote piece written cs rest) (front part : List Char) (hne : front ≠ [])
    (hpart : piece (front ++ (written ++ quote :: quote :: quote :: rest)) =
      some (part, written ++ quote :: quote :: quote :: rest)) :
    ReadAsParts quote piece (front ++ written) (part ++ cs) rest := by
  obtain ⟨parts, n, hn, rfl, hmany⟩ := h
  refine ⟨part :: parts, n, hn, by rw [List.flatten_cons, List.append_assoc], ?_⟩
  have hshorter : (written ++ quote :: quote :: quote :: rest).length <
      (front ++ (written ++ quote :: quote :: quote :: rest)).length := by
    have hpos := List.length_pos_iff.mpr hne
    have hsum : (front ++ (written ++ quote :: quote :: quote :: rest)).length =
        front.length + (written ++ quote :: quote :: quote :: rest).length := List.length_append
    omega
  rw [List.append_assoc, Scanner.many_some hpart hshorter, hmany]
  rfl

/-- Up to two quotes before the closing ones are left. -/
lemma ReadAsParts.quotes {piece : Scanner (List Char)} {n : Nat} (hn : n ≤ 2)
    (hstop : ∀ rest, piece (quote :: quote :: quote :: rest) = none) :
    ReadAsParts quote piece (List.replicate n quote) (List.replicate n quote) rest := by
  refine ⟨[], n, hn, rfl, Scanner.many_none ?_⟩
  rcases n with _ | _ | _ | n
  · exact hstop _
  · exact hstop _
  · exact hstop _
  · omega

/-- Whatever follows the first character of a text without a triple has none. -/
lemma hasTriple_tail (h : hasTriple quote (c :: cs) = false) : hasTriple quote cs = false := by
  rcases cs with _ | ⟨d, _ | ⟨e, cs⟩⟩
  · rfl
  · rfl
  · rw [hasTriple, Bool.or_eq_false_iff] at h
    exact h.2

/-- **The parts between three quotes are read back** when they stand for themselves, if three of the
quotes never stand in a row.

**Proof sketch.** By induction on the text. At a quote that begins three, the closing ones have been
reached but for one or two. -/
lemma readAsParts_plain (hquote : isPlain quote = true) (hhidden : cs.any isHiddenControl = false)
    (htriple : hasTriple quote cs = false) :
    ReadAsParts quote (plainPiece quote) cs cs rest := by
  have hstop : ∀ rest, plainPiece quote (quote :: quote :: quote :: rest) = none :=
    fun _ => plainPiece_tripleQuote hquote
  induction cs with
  | nil => exact .quotes (n := 0) (by decide) hstop
  | cons c cs ih =>
    rw [List.any_cons, Bool.or_eq_false_iff] at hhidden
    have hrest := ih hhidden.2 (hasTriple_tail htriple)
    by_cases hline : c = '\n'
    · subst c
      exact hrest.cons ['\n'] ['\n'] (List.cons_ne_nil _ _) plainPiece_newline
    · have hplain := isPlain_of_not_hidden hhidden.1 hline
      by_cases hclosing : tripleQuote quote (c :: (cs ++ quote :: quote :: quote :: rest)) = none
      · exact hrest.cons [c] [c] (List.cons_ne_nil _ _) (plainPiece_cons hplain (.inr hclosing))
      · obtain ⟨left, hleft⟩ := exists_of_tripleQuote hclosing
        obtain ⟨rfl, hleft⟩ := List.cons.inj hleft
        rcases cs with _ | ⟨d, _ | ⟨e, cs⟩⟩
        · exact .quotes (n := 1) (by decide) hstop
        · obtain ⟨rfl, -⟩ := List.cons.inj hleft
          exact .quotes (n := 2) (by decide) hstop
        · obtain ⟨rfl, hleft⟩ := List.cons.inj hleft
          obtain ⟨rfl, -⟩ := List.cons.inj hleft
          simp [hasTriple] at htriple

/-- What is written for a text that does not go on with a quote, or goes on with a third one, does
not begin with a quote. -/
lemma escapeLines_cons {n : Nat} (h : c ≠ '"' ∨ n = 2) :
    ∃ d left, escapeLines n (c :: cs) = d :: left ∧ d ≠ '"' := by
  rw [escapeLines]
  split_ifs with hquote hn hline
  · exact ⟨'\\', _, rfl, by decide⟩
  · exact absurd (h.resolve_left (not_not_intro hquote)) hn
  · exact ⟨'\n', _, rfl, by decide⟩
  · rcases escapeChar_cases hline with ⟨w, hw, -⟩ | ⟨hself, -⟩
    · exact ⟨'\\', _, by rw [hw]; rfl, by decide⟩
    · exact ⟨c, _, by rw [hself]; rfl, hquote⟩

/-- Where a quote of the text begins three, one more quote of the text is left at most: a third one
would be written behind a backslash. -/
lemma left_of_closing {n : Nat} (hn : n < 2)
    (h : tripleQuote '"' ('"' :: (escapeLines (n + 1) cs ++ '"' :: '"' :: '"' :: rest)) ≠ none) :
    cs = [] ∨ n = 0 ∧ cs = ['"'] := by
  obtain ⟨left, hleft⟩ := exists_of_tripleQuote h
  replace hleft := (List.cons.inj hleft).2
  rcases cs with _ | ⟨d, cs⟩
  · exact .inl rfl
  · -- What is written next begins with a quote, so it stands for the second one.
    have hsecond : ¬ (d ≠ '"' ∨ n + 1 = 2) := fun h => by
      obtain ⟨e, w, hw, he⟩ : ∃ e w, escapeLines (n + 1) (d :: cs) = e :: w ∧ e ≠ '"' :=
        escapeLines_cons h
      rw [hw] at hleft
      exact he (List.cons.inj hleft).1
    obtain ⟨rfl, hone⟩ : d = '"' ∧ n + 1 ≠ 2 := by simpa using hsecond
    obtain rfl : n = 0 := by omega
    rcases cs with _ | ⟨e, cs⟩
    · exact .inr ⟨rfl, rfl⟩
    · obtain ⟨f, w, hw, hf⟩ : ∃ f w, escapeLines 2 (e :: cs) = f :: w ∧ f ≠ '"' :=
        escapeLines_cons (.inr rfl)
      have hthird : escapeLines 1 ('"' :: e :: cs) = '"' :: f :: w := by
        rw [← hw]
        rfl
      rw [Nat.zero_add, hthird] at hleft
      exact absurd (List.cons.inj (List.cons.inj hleft).2).1 hf

/-- **The parts between three double quotes are read back.**

**Proof sketch.** By induction on the text, with the number of quotes that precede. At a quote that
begins three, the closing ones have been reached but for one or two (`left_of_closing`). -/
lemma readAsParts_escaped {n : Nat} (hn : n ≤ 2) :
    ReadAsParts '"' basicPiece (escapeLines n cs) cs rest := by
  have hstop : ∀ rest, basicPiece ('"' :: '"' :: '"' :: rest) = none := fun _ => by
    rw [basicPiece, if_neg (by decide), plainPiece_tripleQuote (by decide)]
  induction cs generalizing n with
  | nil => exact .quotes (n := 0) (by decide) hstop
  | cons c cs ih =>
    by_cases hquote : c = '"'
    · subst c
      by_cases hthird : n = 2
      · rw [escapeLines, if_pos rfl, if_pos hthird]
        exact (ih (Nat.zero_le 2)).cons ['\\', '"'] ['"'] (List.cons_ne_nil _ _) rfl
      · have hwritten : escapeLines n ('"' :: cs) = '"' :: escapeLines (n + 1) cs := by
          rw [escapeLines, if_pos rfl, if_neg hthird]
        by_cases hclosing :
            tripleQuote '"' ('"' :: (escapeLines (n + 1) cs ++ '"' :: '"' :: '"' :: rest)) = none
        · rw [hwritten]
          refine (ih (n := n + 1) (by omega)).cons ['"'] ['"'] (List.cons_ne_nil _ _) ?_
          rw [List.singleton_append, basicPiece, if_neg (by decide),
            plainPiece_cons (by decide) (.inr hclosing)]
        · rcases left_of_closing (by omega) hclosing with rfl | ⟨rfl, rfl⟩
          · rw [hwritten]
            exact .quotes (n := 1) (by decide) hstop
          · exact .quotes (n := 2) (by decide) hstop
    · by_cases hline : c = '\n'
      · subst c
        exact (ih (Nat.zero_le 2)).cons ['\n'] ['\n'] (List.cons_ne_nil _ _) rfl
      · rw [escapeLines, if_neg hquote, if_neg hline]
        refine (ih (Nat.zero_le 2)).cons (escapeChar c) [c] ?_ (basicPiece_escapeChar hquote hline)
        rcases escapeChar_cases hline with ⟨w, hw, -⟩ | ⟨hself, -⟩
        · rw [hw]
          exact List.cons_ne_nil _ _
        · rw [hself]
          exact List.cons_ne_nil _ _

/-- **The closing quotes are read**, with up to two before them that belong to the text. -/
lemma closingQuotes_append {n : Nat} (hn : n ≤ 2) (hrest : ∀ c ∈ rest.head?, c ≠ quote) :
    closingQuotes quote (List.replicate n quote ++ quote :: quote :: quote :: rest) =
      some (List.replicate n quote, rest) := by
  have hall : List.replicate n quote ++ quote :: quote :: quote :: rest =
      List.replicate (n + 3) quote ++ rest := by
    rw [← List.replicate_append_replicate, List.append_assoc]
    rfl
  have hfront : ((List.replicate (n + 3) quote ++ rest).take 5).takeWhile (· = quote) =
      List.replicate (n + 3) quote :=
    Scanner.takeWhile_take_append (by simp) (by rw [List.length_replicate]; omega)
      (.inr fun c hc => by simpa using hrest c hc)
  rw [hall, closingQuotes, hfront]
  simp

/-- A text between three quotes is read back from its parts, behind the line feed that opens it. -/
lemma linesBetween_append {piece : Scanner (List Char)} {opening written : List Char}
    (hparts : ReadAsParts quote piece written cs rest) (hrest : ∀ c ∈ rest.head?, c ≠ quote)
    (hopening : Scanner.orElse newline (fun cs => some ((), cs))
        (opening ++ (written ++ quote :: quote :: quote :: rest)) =
      some ((), written ++ quote :: quote :: quote :: rest)) :
    linesBetween quote piece
      (quote :: quote :: quote :: (opening ++ (written ++ quote :: quote :: quote :: rest))) =
        some (cs, rest) := by
  obtain ⟨parts, n, hn, rfl, hmany⟩ := hparts
  simp only [linesBetween, tripleQuote_cons, hopening, hmany, closingQuotes_append hn hrest,
    Option.bind_eq_bind, Option.bind_some, Option.pure_def]

/-- No text between three quotes is read where they are not. -/
lemma linesBetween_of_none {piece : Scanner (List Char)} (h : tripleQuote quote cs = none) :
    linesBetween quote piece cs = none := by
  simp only [linesBetween, h, Option.bind_eq_bind, Option.bind_none]

/-- Three quotes are not there if another character comes first. -/
lemma tripleQuote_of_ne (h : c ≠ quote) : tripleQuote quote (c :: cs) = none := if_neg h

/-- A line feed in front of a text of several lines is skipped; a text of one line has none. -/
lemma opening_read {written : List Char}
    (h : '\n' ∉ cs → newline written = none) :
    Scanner.orElse newline (fun cs => some ((), cs))
      ((if cs.contains '\n' then ['\n'] else []) ++ written) = some ((), written) := by
  by_cases hline : '\n' ∈ cs
  · rw [if_pos (List.contains_iff_mem.mpr hline)]
    exact Scanner.orElse_of_some rfl
  · rw [if_neg (fun hmem => hline (List.contains_iff_mem.mp hmem)), List.nil_append,
      Scanner.orElse_of_none (h hline)]

/-! ### The four forms -/

/-- A text between three double quotes is read back. -/
lemma basicLines_write (hrest : ∀ c ∈ rest.head?, c ≠ '"') :
    basicLines (Form.basicLines.write cs ++ rest) = some (cs, rest) := by
  have hopening : '\n' ∉ cs → newline (escapeLines 0 cs ++ '"' :: '"' :: '"' :: rest) = none := by
    intro hline
    cases cs with
    | nil => exact newline_of_isPlain (by decide)
    | cons c cs =>
      rw [escapeLines]
      split_ifs with hquote hthird hc
      · exact newline_of_isPlain (by decide)
      · exact newline_of_isPlain (by decide)
      · exact absurd (hc ▸ List.mem_cons_self) hline
      · rcases escapeChar_cases hc with ⟨w, hw, -⟩ | ⟨hself, hplain, -⟩
        · rw [hw]
          exact newline_of_isPlain (by decide)
        · rw [hself]
          exact newline_of_isPlain hplain
  have hread := linesBetween_append (readAsParts_escaped (Nat.zero_le 2)) hrest
    (opening_read hopening)
  simpa [basicLines, Form.write, Form.delimiter, Form.body, Form.quote] using hread

/-- A text between three single quotes is read back, if it can stand there as it is. -/
lemma literalLines_write (hrest : ∀ c ∈ rest.head?, c ≠ '\'')
    (hholds : Form.literalLines.holds cs = true) :
    literalLines (Form.literalLines.write cs ++ rest) = some (cs, rest) := by
  obtain ⟨hhidden, htriple⟩ : cs.any isHiddenControl = false ∧ hasTriple '\'' cs = false := by
    simpa [Form.holds] using hholds
  have hopening : '\n' ∉ cs → newline (cs ++ '\'' :: '\'' :: '\'' :: rest) = none := by
    intro hline
    cases cs with
    | nil => exact newline_of_isPlain (by decide)
    | cons c cs =>
      rw [List.any_cons, Bool.or_eq_false_iff] at hhidden
      exact newline_of_isPlain (isPlain_of_not_hidden hhidden.1 fun h => hline (by simp [h]))
  have hread := linesBetween_append (readAsParts_plain (by decide) hhidden htriple) hrest
    (opening_read hopening)
  simpa [literalLines, Form.write, Form.delimiter, Form.body, Form.quote] using hread

/-- How a text between double quotes is written. -/
lemma Form.write_basic :
    Form.basic.write cs ++ rest = '"' :: (cs.flatMap escapeBasic ++ '"' :: rest) := by
  simp [write, delimiter, body, quote]

/-- How a text between single quotes is written. -/
lemma Form.write_literal : Form.literal.write cs ++ rest = '\'' :: (cs ++ '\'' :: rest) := by
  simp [write, delimiter, body, quote]

/-- A text between double quotes is read back. -/
lemma basicText_write : basicText (Form.basic.write cs ++ rest) = some (cs, rest) := by
  have hmany : Scanner.many basicChar (cs.flatMap escapeBasic ++ '"' :: rest) =
      some (cs, '"' :: rest) :=
    (Scanner.many_flatMap (fun c _ rest => basicChar_escapeBasic c rest)
      (fun c _ h => by have := basicChar_escapeBasic c []; rw [h] at this; cases this) rfl).trans
        (by rw [List.map_id'])
  simp only [Form.write_basic, basicText, Scanner.char_cons, hmany, Option.bind_eq_bind,
    Option.bind_some, Option.pure_def]

/-- A text between single quotes is read back, if it can stand there as it is. -/
lemma literalText_write (hholds : Form.literal.holds cs = true) :
    literalText (Form.literal.write cs ++ rest) = some (cs, rest) := by
  obtain ⟨hhidden, hquote, hline⟩ : (∀ c ∈ cs, isHiddenControl c = false) ∧ '\'' ∉ cs ∧
      '\n' ∉ cs := by
    simpa [Form.holds] using hholds
  have hchar : ∀ c ∈ cs, ∀ rest, Scanner.satisfying (fun c => isPlain c && c ≠ '\'') ([c] ++ rest) =
      some (c, rest) := by
    intro c hc rest
    have hplain := isPlain_of_not_hidden (hhidden c hc) fun h => hline (h ▸ hc)
    have hother : c ≠ '\'' := fun h => hquote (h ▸ hc)
    exact Scanner.satisfying_cons (by simp [hplain, hother])
  have hstop : Scanner.satisfying (fun c => isPlain c && c ≠ '\'') ('\'' :: rest) = none :=
    Scanner.satisfying_of_not rfl
  have hmany := Scanner.many_flatMap hchar (fun c _ => List.cons_ne_nil c []) hstop
  rw [List.flatMap_singleton', List.map_id'] at hmany
  simp only [Form.write_literal, literalText, Scanner.char_cons, hmany, Option.bind_eq_bind,
    Option.bind_some, Option.pure_def]

/-- What is written for a character on one line does not begin with a quote. -/
lemma escapeBasic_cons (c : Char) : ∃ d left, escapeBasic c = d :: left ∧ d ≠ '"' := by
  unfold escapeBasic
  split_ifs with hquote hline
  · exact ⟨'\\', _, rfl, by decide⟩
  · exact ⟨'\\', _, rfl, by decide⟩
  · rcases escapeChar_cases hline with ⟨w, hw, -⟩ | ⟨hself, -⟩
    · exact ⟨'\\', w, hw, by decide⟩
    · exact ⟨c, [], hself, hquote⟩

/-- The quotes of a text on one line are not three in a row. -/
lemma tripleQuote_of_one {body : List Char} (hbody : ∀ c ∈ body.head?, c ≠ quote)
    (hrest : ∀ c ∈ rest.head?, c ≠ quote) :
    tripleQuote quote (quote :: (body ++ quote :: rest)) = none := by
  cases body with
  | nil =>
    cases rest with
    | nil => simp [tripleQuote, Scanner.word]
    | cons c cs => simp [tripleQuote, Scanner.word, hrest c rfl]
  | cons c cs => simp [tripleQuote, Scanner.word, hbody c rfl]

/-- The text between double quotes is read back as one in any form. -/
lemma anyText_basic (hrest : ∀ c ∈ rest.head?, c ≠ '"') :
    anyText (Form.basic.write cs ++ rest) = some (cs, rest) := by
  have hbody : ∀ c ∈ (cs.flatMap escapeBasic).head?, c ≠ '"' := by
    cases cs with
    | nil => exact fun c hc => by cases hc
    | cons c cs =>
      obtain ⟨d, left, hd, hne⟩ := escapeBasic_cons c
      rw [List.flatMap_cons, hd]
      exact fun c hc => Option.some.inj hc ▸ hne
  rw [anyText, Scanner.orElse_of_none, Scanner.orElse_of_none,
    Scanner.orElse_of_some basicText_write]
  · rw [Form.write_basic]
    exact linesBetween_of_none (tripleQuote_of_ne (by decide))
  · rw [Form.write_basic]
    exact linesBetween_of_none (tripleQuote_of_one hbody hrest)

/-- The text between single quotes is read back as one in any form. -/
lemma anyText_literal (hrest : ∀ c ∈ rest.head?, c ≠ '\'')
    (hholds : Form.literal.holds cs = true) :
    anyText (Form.literal.write cs ++ rest) = some (cs, rest) := by
  have hbody : ∀ c ∈ cs.head?, c ≠ '\'' := by
    rintro c hc rfl
    have hmem := List.mem_of_mem_head? hc
    simp [Form.holds, hmem] at hholds
  rw [anyText, Scanner.orElse_of_none, Scanner.orElse_of_none, Scanner.orElse_of_none,
    literalText_write hholds]
  · rw [Form.write_literal, basicText, Scanner.char_of_ne (by decide)]
    rfl
  · rw [Form.write_literal]
    exact linesBetween_of_none (tripleQuote_of_one hbody hrest)
  · rw [Form.write_literal]
    exact linesBetween_of_none (tripleQuote_of_ne (by decide))

/-- **A text is read back** from the form in which it is written, if no quote follows.

**Proof sketch.** Between double quotes, one of them or three, every text is read back. Between
single quotes it is if it can stand there as it is, and only then is it written so. -/
theorem anyText_writeText (hrest : ∀ c ∈ rest.head?, c ≠ '"' ∧ c ≠ '\'') :
    anyText (writeText cs ++ rest) = some (cs, rest) := by
  have hdouble : ∀ c ∈ rest.head?, c ≠ '"' := fun c hc => (hrest c hc).1
  have hsingle : ∀ c ∈ rest.head?, c ≠ '\'' := fun c hc => (hrest c hc).2
  have hlines : anyText (Form.basicLines.write cs ++ rest) = some (cs, rest) :=
    Scanner.orElse_of_some (basicLines_write hdouble)
  unfold writeText Form.ofText
  split_ifs with hbasic hliteral hbasicLines hliteralLines hline
  · exact anyText_basic hdouble
  · exact anyText_literal hsingle hliteral
  · exact hlines
  · rw [anyText, Scanner.orElse_of_none, Scanner.orElse_of_some
      (literalLines_write hsingle hliteralLines)]
    exact linesBetween_of_none (tripleQuote_of_ne (by decide))
  · exact hlines
  · exact anyText_basic hdouble

end Consent.Toml
