import Consent.Json.Value
import Consent.Proofs.Json.Literals

set_option autoImplicit false

/-!
# What is written is well formed

The writer has one form for each text, truth value and object: without blanks, and with escapes only
where they are needed. What it writes is in the grammar, and denotes what it was written for.

## Main results

* `Consent.Json.isText_quote` — a text that is written denotes its characters.
* `Consent.Json.objectBody_writeObject` — an object that is written has the members it was written
  for.
-/

namespace Consent.Json

/-! ### Writing a text -/

/-- A digit is written as itself. -/
lemma digitChar_mem_hexDigits {n : Nat} (h : n < 16) : (Nat.digitChar n, n) ∈ hexDigits := by
  have hall : ∀ n < 16, (Nat.digitChar n, n) ∈ hexDigits := by decide
  exact hall n h

/-- A control character is written as a unit. -/
lemma exists_unit {c : Char} (h : c.toNat < 0x20) :
    ∃ u : HexUnit, u.value = c.toNat ∧ (Piece.unit u).octets =
      Utf8.encode (['\\', 'u', '0', '0'] ++
        [Nat.digitChar (c.toNat / 16), Nat.digitChar (c.toNat % 16)]) := by
  refine ⟨⟨⟨('0', 0), by decide⟩, ⟨('0', 0), by decide⟩,
    ⟨_, digitChar_mem_hexDigits (n := c.toNat / 16) (by omega)⟩,
    ⟨_, digitChar_mem_hexDigits (n := c.toNat % 16) (by omega)⟩⟩, ?_, ?_⟩
  · simp only [HexUnit.value]
    omega
  · rw [Utf8.encode_of_lt]
    · rfl
    · have hall : ∀ n < 16, (Nat.digitChar n).toNat < 0x80 := by decide
      have hfirst := hall (c.toNat / 16) (by omega)
      have hsecond := hall (c.toNat % 16) (by omega)
      simp [hfirst, hsecond]

/-- A character that is written is a piece that denotes it. -/
lemma exists_piece (c : Char) : ∃ p : Piece, p.octets = Utf8.encode (writeChar c) ∧
    ∀ ps, denote? (p :: ps) = (denote? ps).map (c :: ·) := by
  -- The slash has a short escape that is not used for writing.
  by_cases hshort : ∃ e ∈ shortEscapes, e.1 ≠ '/' ∧ e.2 = c
  · obtain ⟨e, he, hslash, rfl⟩ := hshort
    have hall : ∀ e ∈ shortEscapes, e.1 ≠ '/' →
        writeChar e.2 = ['\\', e.1] ∧ e.1.toNat < 0x80 := by
      decide
    obtain ⟨hwrite, hascii⟩ := hall e he hslash
    refine ⟨.short ⟨e, he⟩, ?_, fun ps => rfl⟩
    rw [hwrite, Utf8.encode_of_lt]
    · rfl
    · simp [hascii]
  have hother : c ≠ '"' ∧ c ≠ '\\' ∧ c ≠ '\x08' ∧ c ≠ '\x0c' ∧ c ≠ '\n' ∧ c ≠ '\r' ∧
      c ≠ '\t' := by
    simpa [shortEscapes, eq_comm] using hshort
  obtain ⟨hquote, hbackslash, hbackspace, hfeed, hline, hreturn, htab⟩ := hother
  by_cases hcontrol : c.toNat < 0x20
  · obtain ⟨u, hvalue, hoctets⟩ := exists_unit hcontrol
    have hchar : unitChar? u.value = some c := by
      rw [hvalue, unitChar?, if_pos (.inl (by omega)), Char.ofNat_toNat]
    refine ⟨.unit u, ?_, denote?_unit hchar⟩
    rw [hoctets]
    simp [writeChar, hquote, hbackslash, hbackspace, hfeed, hline, hreturn, htab, hcontrol]
  · refine ⟨.plain c ⟨hquote, hbackslash, by omega⟩, ?_, fun ps => rfl⟩
    simp [writeChar, hquote, hbackslash, hbackspace, hfeed, hline, hreturn, htab, hcontrol,
      Piece.octets, Utf8.encode]

/-- **A text that is written denotes its characters.** -/
lemma isText_quote (s : String) : IsText (Utf8.encode (quote s)) s := by
  have hpieces : ∀ cs : List Char, ∃ ps : List Piece,
      ps.flatMap Piece.octets = Utf8.encode (cs.flatMap writeChar) ∧ denote? ps = some cs := by
    intro cs
    induction cs with
    | nil => exact ⟨[], rfl, rfl⟩
    | cons c cs ih =>
      obtain ⟨ps, hoctets, hdenote⟩ := ih
      obtain ⟨p, hp, hpdenote⟩ := exists_piece c
      refine ⟨p :: ps, ?_, by rw [hpdenote, hdenote, Option.map_some]⟩
      simp only [List.flatMap_cons, hp, hoctets, Utf8.encode_append]
  obtain ⟨ps, hoctets, hdenote⟩ := hpieces s.toList
  refine ⟨ps, ?_, hdenote⟩
  have hquote : ∀ cs, Utf8.encode ('"' :: cs) = Ascii.quote :: Utf8.encode cs := fun _ => rfl
  rw [quoted, hoctets, quote, hquote, Utf8.encode_append, hquote]
  rfl

/-! ### Writing an object -/

/-- A truth value that is written is in its form. -/
lemma encode_writeFlag (b : Bool) : Utf8.encode (writeFlag b) = flagOctets b := by
  cases b <;> decide

/-- A text that is written is well formed. -/
lemma wellFormed_quote (s : String) : WellFormed .value (Utf8.encode (quote s)) := by
  obtain ⟨ps, hps, -⟩ := isText_quote s
  exact hps ▸ .text ps

/-- A truth value that is written is well formed. -/
lemma wellFormed_writeFlag (b : Bool) : WellFormed .value (Utf8.encode (writeFlag b)) :=
  encode_writeFlag b ▸ .flag b

/-- The entries that are written for members: each is a key, a colon and a value, without blanks. -/
lemma members_intercalate (m : String × List Char) (ms : List (String × List Char))
    (h : ∀ m' ∈ m :: ms, WellFormed .value (Utf8.encode m'.2)) :
    Members
      (Utf8.encode (List.intercalate [','] ((m :: ms).map fun (key, v) => quote key ++ ':' :: v)))
      ((m :: ms).map fun m' => (m'.1, Utf8.encode m'.2)) := by
  have hnone : Blanks [] := List.forall_mem_nil _
  have hcolon : ∀ v, Utf8.encode (':' :: v) = Ascii.colon :: Utf8.encode v := fun _ => rfl
  have hcomma : ∀ v, Utf8.encode (',' :: v) = Ascii.comma :: Utf8.encode v := fun _ => rfl
  induction ms generalizing m with
  | nil =>
    obtain ⟨key, v⟩ := m
    obtain ⟨ps, hps, hkey⟩ := isText_quote key
    have hentry := Members.single (.mk hnone hnone hnone) hkey
      (h (key, v) List.mem_cons_self) hnone
    simpa [List.intercalate, Utf8.encode_append, hcolon, hps] using hentry
  | cons m' ms ih =>
    obtain ⟨key, v⟩ := m
    obtain ⟨ps, hps, hkey⟩ := isText_quote key
    have hrest := ih m' fun m'' hm => h m'' (List.mem_cons_of_mem _ hm)
    have hentry := Members.more (.mk hnone hnone hnone) hkey
      (h (key, v) List.mem_cons_self) hnone hrest
    simpa [List.intercalate, Utf8.encode_append, hcolon, hcomma, hps] using hentry

/-- **An object that is written has the members that it was written for.** -/
lemma objectBody_writeObject {ms : List (String × List Char)}
    (h : ∀ m ∈ ms, WellFormed .value (Utf8.encode m.2)) :
    ObjectBody (Utf8.encode (writeObject ms)) (ms.map fun m => (m.1, Utf8.encode m.2)) := by
  have hnone : Blanks [] := List.forall_mem_nil _
  cases ms with
  | nil => exact .empty hnone hnone hnone
  | cons m ms =>
    have hbody := ObjectBody.members hnone (members_intercalate m ms h) hnone
    simp only [writeObject, Utf8.encode_append]
    exact hbody

end Consent.Json
