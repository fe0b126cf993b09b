import Consent.Proofs.Json.Lookahead
import Consent.Proofs.Record.Bodies

set_option autoImplicit false

/-!
# Bodies that are cut short or go on

Where the body of a record ends is told by the body itself: neither a part of an accepted body nor a
body that goes on behind an accepted one is accepted, blanks at the end apart. Both are refused for
their form.

## Main results

* `Consent.Record.steady_read` — a record is read alike when more follows.
* `Consent.Record.accepted_bodies_are_whole` — no body that is cut short or goes on is accepted.
-/

namespace Consent.Record

open Json

/-- The members of a record are read alike when more follows. -/
lemma steady_slots : ∀ slot ∈ shape.slots, ∀ p, Steady (slot.read p) := by
  intro slot hslot p
  simp only [shape, List.mem_cons, List.not_mem_nil, or_false] at hslot
  rcases hslot with rfl | rfl | rfl | rfl | rfl
  · exact steady_ofReader steady_textValue p
  · exact steady_ofReader steady_flag p
  · exact steady_ofReader steady_flag p
  · exact steady_ofReader steady_flag p
  · exact steady_ofReader steady_textValue p

/-- **A record is read alike when more follows.** -/
lemma steady_read : Steady read := by
  intro left rest r h more
  unfold read at h
  split at h
  · rename_i letters hleft
    obtain ⟨rest', hword, heq⟩ := ok_of_map_eq_ok h
    obtain ⟨rfl, rfl⟩ := Prod.mk.inj heq
    rw [read, skipBlanks_more hleft]
    show (word nullTail (letters ++ more)).map _ = _
    rw [word_more hword]
    rfl
  · rename_i hnull
    have hmore := Shape.steady_read steady_slots h more
    -- A structure begins with an octet, and that is not the one of `null`.
    cases hleft : skipBlanks left with
    | nil =>
      rw [Shape.read, hleft] at h
      cases h
    | cons b inside =>
      rw [read, skipBlanks_more hleft]
      split
      · rename_i heq
        exact absurd (hleft.trans (by rw [(List.cons.inj heq).1])) (hnull inside)
      · exact hmore

/-- The blanks of JSON are space, tab, line feed and carriage return. -/
lemma blanks_iff {more : Bytes} :
    Blanks more ↔ ∀ b ∈ more, b ∈ ([0x20, 0x09, 0x0a, 0x0d] : Bytes) := by
  simp only [Blanks, isBlank, Bool.or_eq_true, decide_eq_true_eq, List.mem_cons, List.not_mem_nil,
    or_false, or_assoc]

/-- **Accepted bodies are whole.** What goes on behind an accepted body is accepted only if it goes
on with blanks, and then as the same record. Behind any other octet it is refused for its form, and
so is an accepted body that is cut short before an octet that is no blank.

**Proof sketch.** A record is read alike when more follows (`steady_read`). So of two bodies that
are read, one of which goes on behind the other, the longer one goes on with blanks
(`readAll_more`), and a body that is not read is refused for its form. -/
theorem accepted_bodies_are_whole (body more : Bytes) :
    (∀ r, ofJson body = .ok r → ∀ r', ofJson (body ++ more) = .ok r' ↔
      (∀ b ∈ more, b ∈ ([0x20, 0x09, 0x0a, 0x0d] : Bytes)) ∧ r' = r) ∧
    ((∃ b ∈ more, b ∉ ([0x20, 0x09, 0x0a, 0x0d] : Bytes)) →
      (∀ r, ofJson body = .ok r → ∃ e, ofJson (body ++ more) = .error (.json e)) ∧
      ∀ r, ofJson (body ++ more) = .ok r → ∃ e, ofJson body = .error (.json e)) := by
  -- Unless only blanks follow, one of the two bodies is not read.
  have hread : (∃ b ∈ more, b ∉ ([0x20, 0x09, 0x0a, 0x0d] : Bytes)) → ∀ r r',
      readAll read body = .ok r → readAll read (body ++ more) ≠ .ok r' := by
    rintro ⟨b, hb, hother⟩ r r' hbody hmore
    exact hother (blanks_iff.mp ((readAll_more steady_read hbody).mp hmore).1 b hb)
  refine ⟨fun r hbody r' => ?_, fun hother => ⟨fun r hbody => ?_, fun r hmore => ?_⟩⟩
  · obtain ⟨hbody, hvalid⟩ := ofJson_eq_ok_iff.mp hbody
    rw [ofJson_eq_ok_iff, readAll_more steady_read hbody, blanks_iff]
    constructor
    · exact fun h => h.1
    · rintro ⟨hblanks, rfl⟩
      exact ⟨⟨hblanks, rfl⟩, hvalid⟩
  · rw [ofJson_eq_json_error_iff]
    cases hmore : readAll read (body ++ more) with
    | error e => exact ⟨e, rfl⟩
    | ok r' => exact absurd hmore (hread hother r r' (ofJson_eq_ok_iff.mp hbody).1)
  · rw [ofJson_eq_json_error_iff]
    cases hbody : readAll read body with
    | error e => exact ⟨e, rfl⟩
    | ok r' => exact absurd (ofJson_eq_ok_iff.mp hmore).1 (hread hother r' r hbody)

/-- An object with an escape in a key and brackets under an unknown key is accepted, also with
blanks behind it. With another brace behind it, and without its own brace, it is refused for its
form. -/
theorem ample_body_is_whole :
    ofJson ampleBody = .ok ⟨"a", false, false, false, ""⟩ ∧
    ofJson (ampleBody ++ [0x0d, 0x0a]) = .ok ⟨"a", false, false, false, ""⟩ ∧
    (∃ e, ofJson (ampleBody ++ [Ascii.closeBrace]) = .error (.json e)) ∧
    ∃ e, ofJson ampleBody.dropLast = .error (.json e) := by
  have hread : readAll read ampleBody = .ok ⟨"a", false, false, false, ""⟩ := by
    refine (readAll_eq_ok_iff ampleBody_members).mpr fun field => ?_
    cases field with
    | user => exact .inr ⟨_, rfl, plainly "a" (by decide), rfl, rfl⟩
    | main => exact .inl ⟨rfl, nofun, rfl⟩
    | userdata => exact .inl ⟨rfl, nofun, rfl⟩
    | access => exact .inr ⟨_, rfl, rfl⟩
    | expiry => exact .inl ⟨rfl, nofun, rfl⟩
  have hbody : ofJson ampleBody = .ok ⟨"a", false, false, false, ""⟩ :=
    ofJson_eq_ok_iff.mpr ⟨hread, rfl⟩
  have hsplit : ampleBody.dropLast ++ [Ascii.closeBrace] = ampleBody := by decide +kernel
  have hbrace : ∃ b ∈ [Ascii.closeBrace], b ∉ ([0x20, 0x09, 0x0a, 0x0d] : Bytes) := by decide
  refine ⟨hbody, ?_, ?_, ?_⟩
  · exact ((accepted_bodies_are_whole _ _).1 _ hbody _).mpr ⟨by simp, rfl⟩
  · exact ((accepted_bodies_are_whole _ _).2 hbrace).1 _ hbody
  · exact ((accepted_bodies_are_whole _ _).2 hbrace).2 _ (by rw [hsplit]; exact hbody)

end Consent.Record
