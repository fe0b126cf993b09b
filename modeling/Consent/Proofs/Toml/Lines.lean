import Consent.Proofs.Toml.Texts
import Consent.Toml.Document

set_option autoImplicit false

/-!
# Lines are read back

Keys, numbers, flags and texts are read back from a line of a file, and so are the line that they
make and the line of a header.

## Main results

* `Consent.Toml.keyPath_bare` — a key without quotes is read back.
* `Consent.Toml.number_digits` — a number is read back from its digits.
* `Consent.Toml.ReadOnLine` — a value is read back up to the end of its line.
* `Consent.Toml.line_assignment`, `Consent.Toml.line_table`, `Consent.Toml.line_empty` — lines are
  read back.
* `Consent.Toml.lines_flatMap` — so are all lines of a file.
-/

namespace Consent.Toml

open Text

variable {c : Char} {cs rest : List Char}

/-! ### Keys -/

/-- A key can be written without quotes. -/
structure IsBare (key : List Char) : Prop where
  nonempty : key ≠ []
  bare : ∀ c ∈ key, isBareChar c = true

/-- A character of such a key is no blank, no quote and no bracket. -/
lemma of_isBareChar (hc : isBareChar c = true) :
    isBlank c = false ∧ c ≠ '"' ∧ c ≠ '\'' ∧ c ≠ '[' := by
  have hblank : isBlank c = false := by
    rw [← Bool.not_eq_true, isBlank, Bool.or_eq_true, decide_eq_true_eq, decide_eq_true_eq]
    rintro (rfl | rfl) <;> exact absurd hc (by decide)
  refine ⟨hblank, ?_, ?_, ?_⟩ <;> rintro rfl <;> exact absurd hc (by decide)

/-- Blanks up to another character are skipped. -/
lemma blanks_append {ws : List Char} (hws : ∀ c ∈ ws, isBlank c = true)
    (hrest : ∀ c ∈ rest.head?, isBlank c = false) : blanks (ws ++ rest) = some ((), rest) := by
  rw [blanks, List.dropWhile_append_of_pos hws]
  cases rest with
  | nil => rfl
  | cons c cs => rw [List.dropWhile_cons_of_neg (by simp [hrest c rfl])]

/-- Nothing is skipped before a character that is no blank. -/
lemma blanks_cons (hc : isBlank c = false) : blanks (c :: cs) = some ((), c :: cs) := by
  rw [blanks, List.dropWhile_cons_of_neg (by simp [hc])]

/-- **A key without quotes is read back**, with the blanks behind it. -/
lemma keyPath_bare {key ws : List Char} (hkey : IsBare key) (hws : ∀ c ∈ ws, isBlank c = true)
    (hnext : ∀ c ∈ (ws ++ rest).head?, isBareChar c = false)
    (hrest : ∀ c ∈ rest.head?, isBlank c = false ∧ c ≠ '.') :
    keyPath (key ++ (ws ++ rest)) = some (([], String.ofList key), rest) := by
  have hfront : blanks (key ++ (ws ++ rest)) = some ((), key ++ (ws ++ rest)) := by
    obtain ⟨c, cs, rfl⟩ := List.exists_cons_of_ne_nil hkey.nonempty
    exact blanks_cons (of_isBareChar (hkey.bare c List.mem_cons_self)).1
  have hpart : keyPart (key ++ (ws ++ rest)) = some (key, ws ++ rest) :=
    Scanner.orElse_of_some (Scanner.run_append hkey.nonempty hkey.bare hnext)
  have hspaced : spacedKeyPart (key ++ (ws ++ rest)) = some (String.ofList key, rest) := by
    simp only [spacedKeyPart, hfront, hpart, blanks_append hws fun c hc => (hrest c hc).1,
      Option.bind_eq_bind, Option.bind_some, Option.pure_def]
  have hend : Scanner.char '.' rest = none := by
    cases rest with
    | nil => rfl
    | cons c cs => exact Scanner.char_of_ne (hrest c rfl).2
  rw [keyPath, Scanner.separated_one hspaced hend]
  rfl

/-- No key is read where another character stands. -/
lemma keyPath_of_ne (hbare : isBareChar c = false) (hblank : isBlank c = false) (hdouble : c ≠ '"')
    (hsingle : c ≠ '\'') : keyPath (c :: cs) = none := by
  have hpart : keyPart (c :: cs) = none := by
    rw [keyPart, Scanner.orElse_of_none, Scanner.orElse_of_none]
    · rw [literalText, Scanner.char_of_ne hsingle]
      rfl
    · rw [basicText, Scanner.char_of_ne hdouble]
      rfl
    · simp [Scanner.run, hbare]
  simp only [keyPath, Scanner.separated, spacedKeyPart, blanks_cons hblank, hpart,
    Option.bind_eq_bind, Option.bind_some, Option.bind_none]

/-! ### Numbers -/

/-- Only zero is written with a zero in front. -/
lemma digits_of_head_zero {n : Nat} (h : (Decimal.digits n).head? = some '0') :
    Decimal.digits n = ['0'] := by
  unfold Decimal.digits at *
  induction n using Nat.strongRecOn with
  | ind n ih =>
    rcases Nat.lt_or_ge n 10 with hn | hn
    · rw [Nat.toDigits_of_lt_base hn] at h ⊢
      rw [Option.some.inj h]
    · obtain ⟨c, left, hleft⟩ := List.exists_cons_of_ne_nil (Nat.toDigits_ne_nil (n := n / 10))
      have hfront : (Nat.toDigits 10 (n / 10)).head? = some '0' := by
        rw [Nat.toDigits_of_base_le (by decide) hn, hleft] at h
        rw [hleft]
        exact h
      have hvalue := Decimal.value_digits (n / 10)
      rw [Decimal.digits, ih (n / 10) (by omega) hfront] at hvalue
      have hzero : n / 10 = 0 := hvalue.symm
      omega

/-- What is left after a number of some length has been read off a line begins with a digit or is
the end of the line. -/
lemma exists_of_number? {least most n k : Nat} {left : List Char}
    (h : Decimal.number? least most (Decimal.digits n ++ '\n' :: rest) = some (k, left)) :
    ∃ c cs, left = c :: cs ∧ (c.isDigit = true ∨ c = '\n') := by
  obtain ⟨ds, hsplit, -, -, -, hds⟩ := Decimal.number?_eq_some h
  rcases List.append_eq_append_iff.mp hsplit with ⟨xs, rfl, hxs⟩ | ⟨xs, hdigits, rfl⟩
  · cases xs with
    | nil => exact ⟨'\n', rest, hxs.symm, .inr rfl⟩
    | cons x xs =>
      obtain ⟨rfl, -⟩ := List.cons.inj hxs
      exact absurd (hds '\n' (by simp)) (by decide)
  · cases xs with
    | nil => exact ⟨'\n', rest, rfl, .inr rfl⟩
    | cons x xs =>
      exact ⟨x, _, rfl, .inl (Decimal.isDigit_of_mem_digits (n := n) (by simp [hdigits]))⟩

/-- Some digits up to the end of the line are no date and no time. -/
lemma dateTime_digits (n : Nat) : dateTime (Decimal.digits n ++ '\n' :: rest) = none := by
  have hchar : ∀ {least most k left}, ∀ c ∈ ['-', ':'],
      Decimal.number? least most (Decimal.digits n ++ '\n' :: rest) = some (k, left) →
        Scanner.char c left = none := by
    intro least most k left c hc h
    obtain ⟨d, cs, rfl, hd⟩ := exists_of_number? h
    refine Scanner.char_of_ne ?_
    rintro rfl
    simp only [List.mem_cons, List.not_mem_nil, or_false] at hc
    rcases hc with rfl | rfl <;> exact absurd hd (by decide)
  have hdate : fullDate (Decimal.digits n ++ '\n' :: rest) = none := by
    unfold fullDate
    cases h : Decimal.number? 4 4 (Decimal.digits n ++ '\n' :: rest) with
    | none => rfl
    | some r => simp [hchar '-' (by simp) h]
  have htime : timeOfDay (Decimal.digits n ++ '\n' :: rest) = none := by
    unfold timeOfDay twoDigits
    cases h : Decimal.number? 2 2 (Decimal.digits n ++ '\n' :: rest) with
    | none => rfl
    | some r =>
      by_cases hbound : r.1 ≤ 23
      · simp [hbound, hchar ':' (by simp) h]
      · simp [hbound]
  rw [dateTime, Scanner.orElse_of_none (by simp [hdate]), htime]

/-- A numeral begins with a digit. -/
lemma digits_cons (n : Nat) : ∃ c left, Decimal.digits n = c :: left ∧ c.isDigit = true := by
  obtain ⟨c, left, hleft⟩ := List.exists_cons_of_ne_nil (Nat.toDigits_ne_nil (n := n) (b := 10))
  exact ⟨c, left, hleft, Nat.isDigit_of_mem_toDigits (b := 10) (n := n) (by decide) (by decide)
    (hleft ▸ List.mem_cons_self)⟩

/-- A digit is no sign. -/
lemma sign_of_isDigit (hc : c.isDigit = true) : sign (c :: cs) = some (false, c :: cs) := by
  unfold sign
  split
  · rename_i h
    rw [(List.cons.inj h).1] at hc
    exact absurd hc (by decide)
  · rename_i h
    rw [(List.cons.inj h).1] at hc
    exact absurd hc (by decide)
  · rfl

/-- A numeral has no sign. -/
lemma sign_digits (n : Nat) :
    sign (Decimal.digits n ++ rest) = some (false, Decimal.digits n ++ rest) := by
  obtain ⟨c, left, hdigits, hc⟩ := digits_cons n
  rw [hdigits]
  exact sign_of_isDigit hc

/-- The digits of a number are read up to the end of the line. -/
lemma decimalDigits_digits (n : Nat) :
    decimalDigits (Decimal.digits n ++ '\n' :: rest) = some (Decimal.digits n, '\n' :: rest) := by
  have hrun : Scanner.run Char.isDigit (Decimal.digits n ++ '\n' :: rest) =
      some (Decimal.digits n, '\n' :: rest) :=
    Scanner.run_append Nat.toDigits_ne_nil (fun _ => Decimal.isDigit_of_mem_digits)
      fun c hc => Option.some.inj hc ▸ by decide
  have hdigits : digitsOf Char.isDigit (Decimal.digits n ++ '\n' :: rest) =
      some (Decimal.digits n, '\n' :: rest) := by
    rw [digitsOf, Scanner.separated_one hrun (Scanner.char_of_ne (by decide)), Option.map_some]
    exact congrArg (fun ds => some (ds, _)) (List.append_nil _)
  have hzero : ¬ (decide ((Decimal.digits n).head? = some '0') &&
      decide (Decimal.digits n ≠ ['0'])) = true := by
    rw [Bool.and_eq_true, decide_eq_true_eq, decide_eq_true_eq]
    exact fun h => h.2 (digits_of_head_zero h.1)
  simp only [decimalDigits, hdigits, Option.bind_eq_bind, Option.bind_some, if_neg hzero]

/-- Some digits up to the end of the line are no float. -/
lemma float_digits (n : Nat) : float (Decimal.digits n ++ '\n' :: rest) = none := by
  obtain ⟨c, left, hdigits, hc⟩ := digits_cons n
  have hdecimal : decimalFloat (Decimal.digits n ++ '\n' :: rest) = none := by
    simp only [decimalFloat, sign_digits, decimalDigits_digits, Option.bind_eq_bind,
      Option.bind_some]
    rfl
  have hnamed : namedFloat (Decimal.digits n ++ '\n' :: rest) = none := by
    have hi : c ≠ 'i' := by
      rintro rfl
      exact absurd hc (by decide)
    have hn : c ≠ 'n' := by
      rintro rfl
      exact absurd hc (by decide)
    simp only [namedFloat, sign_digits, Option.bind_eq_bind, Option.bind_some]
    rw [hdigits, List.cons_append, Scanner.orElse_of_none (if_neg hi)]
    exact if_neg hn
  rw [float, Scanner.orElse_of_none hdecimal, hnamed]

/-- Some digits up to the end of the line have no mark of another base. -/
lemma integerIn_digits (base n : Nat) {mark : Char} (hmark : mark ≠ '\n') :
    integerIn base ['0', mark] (Decimal.digits n ++ '\n' :: rest) = none := by
  have hword : Scanner.word ['0', mark] (Decimal.digits n ++ '\n' :: rest) = none := by
    rw [Option.eq_none_iff_forall_ne_some]
    rintro ⟨u, left⟩ h
    have hsplit := Scanner.word_eq_some_iff.mp h
    obtain ⟨c, cs, hdigits, -⟩ := digits_cons n
    rw [hdigits, List.cons_append] at hsplit
    obtain ⟨rfl, hsecond⟩ := List.cons.inj hsplit
    have hzero := digits_of_head_zero (n := n) (by rw [hdigits]; rfl)
    obtain rfl : cs = [] := (List.cons.inj (hdigits.symm.trans hzero)).2
    exact hmark (List.cons.inj hsecond).1.symm
  simp only [integerIn, hword, Option.bind_eq_bind, Option.bind_none]

/-- A number of at most 63 bits is in range. -/
lemma inRange_natCast {n : Nat} (hn : n < Nat.pow 2 63) : inRange n = some (n : Int) := by
  unfold inRange
  generalize Nat.pow 2 63 = limit at hn ⊢
  have hlower : -(limit : Int) ≤ (n : Int) := by omega
  simp [hlower, hn]

/-- **A number is read back from its digits**, up to the end of the line. -/
lemma number_digits {n : Nat} (hn : n < Nat.pow 2 63) :
    number (Decimal.digits n ++ '\n' :: rest) = some (.integer n, '\n' :: rest) := by
  have hdecimal : decimalInteger (Decimal.digits n ++ '\n' :: rest) =
      some ((n : Int), '\n' :: rest) := by
    refine Option.bind_eq_some_iff.mpr ⟨_, sign_digits n, ?_⟩
    refine Option.bind_eq_some_iff.mpr ⟨_, decimalDigits_digits n, ?_⟩
    refine Option.bind_eq_some_iff.mpr ⟨n, ?_, rfl⟩
    rw [Decimal.value_digits]
    exact inRange_natCast hn
  have hinteger : integer (Decimal.digits n ++ '\n' :: rest) = some ((n : Int), '\n' :: rest) := by
    rw [integer, Scanner.orElse_of_none, Scanner.orElse_of_none, Scanner.orElse_of_none, hdecimal]
    all_goals exact integerIn_digits _ n (by decide)
  rw [number, Scanner.orElse_of_none, Scanner.orElse_of_none, hinteger, Option.map_some]
  · rw [float_digits, Option.map_none]
  · rw [dateTime_digits, Option.map_none]

/-! ### Values -/

/-- A value is read back up to the end of its line. -/
structure ReadOnLine (written : List Char) (item : Item) : Prop where
  value_eq : ∀ rest, value (depthLimit - 1) (written ++ '\n' :: rest) = some (item, '\n' :: rest)
  /-- The value begins with something that is no blank. -/
  exists_cons : ∃ c left, written = c :: left ∧ isBlank c = false

/-- What begins with no bracket is neither a list nor a table. -/
lemma value_of_ne {depth : Nat} (hlist : c ≠ '[') (htable : c ≠ '\x7b') :
    value depth (c :: cs) = value.simple (c :: cs) := by
  cases depth with
  | zero => rw [value]
  | succ depth => rw [value, if_neg hlist, if_neg htable]

/-- What begins with no quote is no text. -/
lemma anyText_of_ne (hdouble : c ≠ '"') (hsingle : c ≠ '\'') : anyText (c :: cs) = none := by
  rw [anyText, Scanner.orElse_of_none, Scanner.orElse_of_none, Scanner.orElse_of_none]
  · rw [literalText, Scanner.char_of_ne hsingle]
    rfl
  · rw [basicText, Scanner.char_of_ne hdouble]
    rfl
  · exact linesBetween_of_none (tripleQuote_of_ne hsingle)
  · exact linesBetween_of_none (tripleQuote_of_ne hdouble)

/-- A text that is written begins with a quote. -/
lemma writeText_cons (cs : List Char) :
    ∃ c left, writeText cs = c :: left ∧ (c = '"' ∨ c = '\'') := by
  rw [writeText]
  cases Form.ofText cs with
  | basic => exact ⟨_, _, rfl, .inl rfl⟩
  | literal => exact ⟨_, _, rfl, .inr rfl⟩
  | basicLines => exact ⟨_, _, rfl, .inl rfl⟩
  | literalLines => exact ⟨_, _, rfl, .inr rfl⟩

/-- **A text is read back** up to the end of its line. -/
lemma readOnLine_text (s : String) : ReadOnLine (writeText s.toList) (.text s) := by
  obtain ⟨c, left, hwritten, hc⟩ := writeText_cons s.toList
  have hother : c ≠ '[' ∧ c ≠ '\x7b' ∧ isBlank c = false := by
    rcases hc with rfl | rfl <;> decide
  refine ⟨fun rest => ?_, c, left, hwritten, hother.2.2⟩
  have hread : anyText (writeText s.toList ++ '\n' :: rest) = some (s.toList, '\n' :: rest) :=
    anyText_writeText fun d hd => Option.some.inj hd ▸ by decide
  have hsimple : value.simple (writeText s.toList ++ '\n' :: rest) =
      some (.text s, '\n' :: rest) := by
    refine Scanner.orElse_of_some ?_
    rw [hread, Option.map_some]
    exact congrArg (fun s => some (Item.text s, _)) String.ofList_toList
  rw [← hsimple, hwritten]
  exact value_of_ne hother.1 hother.2.1

/-- **A flag is read back** up to the end of its line. -/
lemma readOnLine_flag (b : Bool) : ReadOnLine (toString b).toList (.flag b) := by
  cases b with
  | true =>
    refine ⟨fun rest => ?_, 't', ['r', 'u', 'e'], rfl, by decide⟩
    refine (value_of_ne (by decide) (by decide)).trans ?_
    rw [value.simple, Scanner.orElse_of_none, Scanner.orElse_of_some]
    · rfl
    · rw [anyText_of_ne (by decide) (by decide), Option.map_none]
  | false =>
    refine ⟨fun rest => ?_, 'f', ['a', 'l', 's', 'e'], rfl, by decide⟩
    refine (value_of_ne (by decide) (by decide)).trans ?_
    rw [value.simple, Scanner.orElse_of_none, Scanner.orElse_of_none, Scanner.orElse_of_some]
    · rfl
    · rfl
    · rw [anyText_of_ne (by decide) (by decide), Option.map_none]

/-- **A number is read back** up to the end of its line. -/
lemma readOnLine_digits {n : Nat} (hn : n < Nat.pow 2 63) :
    ReadOnLine (Decimal.digits n) (.integer n) := by
  obtain ⟨c, left, hdigits, hc⟩ := digits_cons n
  have hne : ∀ d : Char, d.isDigit = false → c ≠ d := by
    rintro d hd rfl
    rw [hc] at hd
    cases hd
  have hblank : isBlank c = false := by simp [isBlank, hne ' ' rfl, hne '\t' rfl]
  refine ⟨fun rest => ?_, c, left, hdigits, hblank⟩
  have hsimple : value.simple (Decimal.digits n ++ '\n' :: rest) =
      some (.integer n, '\n' :: rest) := by
    rw [value.simple, Scanner.orElse_of_none, Scanner.orElse_of_none, Scanner.orElse_of_none,
      number_digits hn]
    all_goals rw [hdigits, List.cons_append]
    · rw [Scanner.word, if_neg (hne 'f' rfl), Option.map_none]
    · rw [Scanner.word, if_neg (hne 't' rfl), Option.map_none]
    · rw [anyText_of_ne (hne '"' rfl) (hne '\'' rfl), Option.map_none]
  rw [← hsimple, hdigits]
  exact value_of_ne (hne '[' rfl) (hne '\x7b' rfl)

/-! ### Lines -/

/-- A line is what it says, up to its end. -/
lemma line_cons {content : Option Line} (hc : isBlank c = false)
    (hcontent : lineContent (c :: cs) = some (content, '\n' :: rest)) :
    line (c :: cs) = some (content, rest) := by
  have hend : lineEnd ('\n' :: rest) = some ((), rest) := rfl
  rw [line, if_neg (by simp)]
  refine Option.bind_eq_some_iff.mpr ⟨_, blanks_cons hc, ?_⟩
  refine Option.bind_eq_some_iff.mpr ⟨_, hcontent, ?_⟩
  exact Option.bind_eq_some_iff.mpr ⟨_, hend, rfl⟩

/-- No key and value stand where no key does. -/
lemma assignmentLine_of_none (h : keyPath cs = none) : assignmentLine cs = none := by
  simp only [assignmentLine, keyValue, h, Option.bind_eq_bind, Option.bind_none, Option.map_none]

/-- **The line of a key and its value is read back.** -/
lemma line_assignment {key written : List Char} {item : Item} (hkey : IsBare key)
    (hvalue : ReadOnLine written item) (rest : List Char) :
    line (key ++ [' ', '=', ' '] ++ written ++ ['\n'] ++ rest) =
      some (some (.assignment ([], String.ofList key, item)), rest) := by
  have hblank : ∀ c ∈ [' '], isBlank c = true := List.forall_mem_singleton.mpr rfl
  have hassoc : key ++ [' ', '=', ' '] ++ written ++ ['\n'] ++ rest =
      key ++ ([' '] ++ ('=' :: ([' '] ++ (written ++ '\n' :: rest)))) := by simp
  have hpath : keyPath (key ++ ([' '] ++ ('=' :: ([' '] ++ (written ++ '\n' :: rest))))) =
      some (([], String.ofList key), '=' :: ([' '] ++ (written ++ '\n' :: rest))) :=
    keyPath_bare hkey hblank (fun c hc => Option.some.inj hc ▸ by decide)
      fun c hc => Option.some.inj hc ▸ by decide
  have hspace : blanks ([' '] ++ (written ++ '\n' :: rest)) =
      some ((), written ++ '\n' :: rest) := by
    obtain ⟨d, left, rfl, hd⟩ := hvalue.exists_cons
    exact blanks_append hblank fun c hc => Option.some.inj hc ▸ hd
  have hread : assignmentLine (key ++ ([' '] ++ ('=' :: ([' '] ++ (written ++ '\n' :: rest))))) =
      some (.assignment ([], String.ofList key, item), '\n' :: rest) := by
    simp only [assignmentLine, keyValue, hpath, Scanner.char_cons, hspace, hvalue.value_eq,
      Option.bind_eq_bind, Option.bind_some, Option.pure_def, Option.map_some]
  have hcontent : lineContent (key ++ ([' '] ++ ('=' :: ([' '] ++ (written ++ '\n' :: rest))))) =
      some (some (.assignment ([], String.ofList key, item)), '\n' :: rest) := by
    refine Scanner.orElse_of_some ?_
    rw [Scanner.orElse_of_some hread, Option.map_some]
  obtain ⟨c, cs, rfl⟩ := List.exists_cons_of_ne_nil hkey.nonempty
  rw [hassoc]
  exact line_cons (of_isBareChar (hkey.bare c List.mem_cons_self)).1 hcontent

/-- **The line of a header is read back.** -/
lemma line_table {key : List Char} (hkey : IsBare key) (rest : List Char) :
    line ('[' :: key ++ [']', '\n'] ++ rest) =
      some (some (.table [] (String.ofList key)), rest) := by
  have hassoc : '[' :: key ++ [']', '\n'] ++ rest =
      '[' :: (key ++ ([] ++ (']' :: '\n' :: rest))) := by simp
  have hpath : keyPath (key ++ ([] ++ (']' :: '\n' :: rest))) =
      some (([], String.ofList key), ']' :: '\n' :: rest) :=
    keyPath_bare hkey (List.forall_mem_nil _) (fun c hc => Option.some.inj hc ▸ by decide)
      fun c hc => Option.some.inj hc ▸ by decide
  have hread : tableHeader ('[' :: (key ++ ([] ++ (']' :: '\n' :: rest)))) =
      some (.table [] (String.ofList key), '\n' :: rest) := by
    simp only [tableHeader, Scanner.char_cons, hpath, Option.bind_eq_bind, Option.bind_some,
      Option.pure_def]
  have hnone : assignmentLine ('[' :: (key ++ ([] ++ (']' :: '\n' :: rest)))) = none :=
    assignmentLine_of_none (keyPath_of_ne (by decide) (by decide) (by decide) (by decide))
  rw [hassoc]
  refine line_cons (by decide) (Scanner.orElse_of_some ?_)
  rw [Scanner.orElse_of_none hnone, Scanner.orElse_of_some hread, Option.map_some]

/-- An empty line says nothing. -/
lemma line_empty (rest : List Char) : line ('\n' :: rest) = some (none, rest) := by
  have hnone : assignmentLine ('\n' :: rest) = none :=
    assignmentLine_of_none (keyPath_of_ne (by decide) (by decide) (by decide) (by decide))
  refine line_cons (by decide) ?_
  rw [lineContent, Scanner.orElse_of_none]
  rw [Scanner.orElse_of_none hnone]
  rfl

/-- **Lines that are written one after the other are read back.** -/
lemma lines_flatMap {written : List (List Char × Option Line)}
    (hline : ∀ l ∈ written, ∀ rest, line (l.1 ++ rest) = some (l.2, rest))
    (hne : ∀ l ∈ written, l.1 ≠ []) :
    lines (written.flatMap Prod.fst) = some (written.map Prod.snd).reduceOption := by
  have hmany : Scanner.many line (written.flatMap Prod.fst ++ []) =
      some (written.map Prod.snd, []) := Scanner.many_flatMap hline hne rfl
  rw [List.append_nil] at hmany
  simp only [lines, hmany, Option.bind_eq_bind, Option.bind_some, List.isEmpty_nil, if_true]

end Consent.Toml
