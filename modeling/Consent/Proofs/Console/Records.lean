import Consent.Console
import Consent.Proofs.Expiry.Reading
import Consent.Proofs.Text.Trimming

set_option autoImplicit false

/-!
# Records on the console

The console shows a record in four lines. The name of the user stands in the first one as it is, and
it may hold anything, line ends and copies of the other lines included. It cannot forge them though:
what is shown tells the answers, whether access is granted, and until when.

The reason is that a shown record can be read from its end. An expiry that is accepted is made of
few characters, and `d` is none of them. So the last `d` that is shown belongs to the word `allowed`
or to the word `denied`, whatever the user is called, and the two lines before have one of two texts
each.

## Main definitions

* `Consent.Expiry.IsExpiryChar` — what an expiry is made of.
* `Consent.Record.shownUser`, `Consent.Record.accessLine` — parts of what is shown of a record.

## Main results

* `Consent.Expiry.isExpiryChar_of_parse` — what is read as an expiry is made of these characters.
* `Consent.Record.append_accessLine_inj`, `Consent.Record.append_answerText_inj` — the lines of a
  record, read from their end.
* `Consent.Record.lines_eq_iff` — which records are shown alike.
-/

namespace Consent

open Calendar Text

namespace Text

/-- A text is cut at its last mark in one way only. -/
lemma append_mark_inj {α : Type} {as bs cs ds : List α} {mark : α} (hbs : mark ∉ bs)
    (hds : mark ∉ ds) (h : as ++ mark :: bs = cs ++ mark :: ds) : as = cs ∧ bs = ds := by
  -- One front is the other one with some more behind it, and the mark would be in there.
  rcases List.append_eq_append_iff.mp h with ⟨more, rfl, hrest⟩ | ⟨more, rfl, hrest⟩
  · cases more with
    | nil => simpa using hrest
    | cons c more =>
      obtain ⟨-, rfl⟩ := List.cons.inj hrest
      simp at hbs
  · cases more with
    | nil => simpa [eq_comm] using hrest
    | cons c more =>
      obtain ⟨-, rfl⟩ := List.cons.inj hrest
      simp at hds

end Text

/-! ### What expiries are made of -/

namespace Expiry

/-- The signs and letters that an expiry may have in it. -/
def signs : List Char := ['-', '+', ':', '.', 'T', 't', 'Z', 'z', '\u2212']

/-- What an expiry is made of: digits, blanks, and a few signs and letters. -/
def IsExpiryChar (c : Char) : Prop := c.isDigit = true ∨ isBlank c = true ∨ c ∈ signs

variable {cs : List Char} {c : Char}

/-- An offset is made of digits and signs. -/
lemma IsOffset.not_mem {offset : Int} (h : IsOffset ['-', '\u2212'] cs offset)
    (hdigit : c.isDigit = false) (hsign : c ∉ signs) : c ∉ cs := by
  simp only [signs, List.mem_cons, List.not_mem_nil, not_or] at hsign
  cases h with
  | zulu hz => rcases hz with rfl | rfl <;> simp [hsign]
  | east hh hm => simp [hh.not_mem hdigit, hm.not_mem hdigit, hsign]
  | @west sign _ _ _ _ hminus hh hm =>
    have hne : c ≠ sign := by
      rintro rfl
      simp [hsign] at hminus
    simp [hh.not_mem hdigit, hm.not_mem hdigit, hsign, hne]

/-- A fraction is made of digits and signs. -/
lemma IsFraction.not_mem (h : IsFraction cs) (hdigit : c.isDigit = false) (hsign : c ∉ signs) :
    c ∉ cs := by
  simp only [signs, List.mem_cons, List.not_mem_nil, not_or] at hsign
  cases h with
  | none => simp
  | point _ hds =>
    have hne : ∀ d, d.isDigit = true → c ≠ d := by
      rintro d hd rfl
      simp [hdigit] at hd
    simpa [hsign] using fun hmem => hne c (hds c hmem) rfl

/-- A date-time is made of digits, blanks and signs. -/
lemma IsDateTime.not_mem {t : Stamp} (h : IsDateTime ['-', '\u2212'] cs t)
    (hdigit : c.isDigit = false) (hblank : isBlank c = false) (hsign : c ∉ signs) : c ∉ cs := by
  obtain @⟨_, _, _, _, _, _, sep, _, hday, hsep, hh, -, hm, -, hs, -, hfs, hzs⟩ := h
  have hfraction := hfs.not_mem hdigit hsign
  have hzone := hzs.not_mem hdigit hsign
  simp only [signs, List.mem_cons, List.not_mem_nil, not_or] at hsign
  have hne : c ≠ sep := by
    rintro rfl
    have hspace : c ≠ ' ' := by
      rintro rfl
      exact absurd hblank (by decide)
    simp [hsign, hspace] at hsep
  simp [hday.not_mem hdigit hsign.1, hh.not_mem hdigit, hm.not_mem hdigit, hs.not_mem hdigit,
    hfraction, hzone, hne, hsign]

/-- A loose date is made of digits, blanks and signs. -/
lemma IsLooseDate.not_mem {d : Date} (h : IsLooseDate cs d) (hdigit : c.isDigit = false)
    (hblank : isBlank c = false) (hsign : c ∉ signs) : c ∉ cs := by
  simp only [signs, List.mem_cons, List.not_mem_nil, not_or] at hsign
  have hblanks : ∀ {ws : List Char}, (∀ c ∈ ws, isBlank c = true) → c ∉ ws := fun hws hmem => by
    simp [hws c hmem] at hblank
  have hyear : ∀ {ys : List Char} {y : Int}, IsYear ys y → c ∉ ys := by
    rintro ys y (hds | hds | hds) <;> simp [hds.not_mem hdigit, hsign]
  obtain ⟨hws, hws', hws'', hys, hms, hds⟩ := h
  simp [hblanks hws, hblanks hws', hblanks hws'', hyear hys, hms.not_mem hdigit,
    hds.not_mem hdigit, hsign]

/-- **What is read as an expiry** is made of digits, blanks, and a few signs and letters. -/
lemma isExpiryChar_of_parse {s : String} (h : (parse s).isSome = true) :
    ∀ c ∈ s.toList, IsExpiryChar c := by
  rw [parse, ofTrimmed?_isSome_iff] at h
  intro c hmem
  by_contra hc
  simp only [IsExpiryChar, not_or, Bool.not_eq_true] at hc
  obtain ⟨hdigit, hblank, hsign⟩ := hc
  have hin : c ∈ trim s.toList := mem_trim hmem hblank
  cases h with
  | dateTime h => exact h.not_mem hdigit hblank hsign hin
  | date h => exact h.not_mem hdigit hblank hsign hin

end Expiry

/-! ### Lines, read from their end -/

namespace Record

/-- The name of the user as it is shown. -/
def shownUser (r : Record) : String := if r.userUrn = "" then "-" else r.userUrn

/-- The line about access. -/
def accessLine (r : Record) : String :=
  if r.testbedAccess then "  testbed access: allowed until " ++ r.validUntil ++ "\n"
  else "  testbed access: denied\n"

/-- Two names are shown alike exactly if they are the same, or one is empty and the other a
hyphen. -/
lemma shownUser_eq_iff (r r' : Record) :
    r.shownUser = r'.shownUser ↔
      r.userUrn = r'.userUrn ∨ r.userUrn ∈ ["", "-"] ∧ r'.userUrn ∈ ["", "-"] := by
  by_cases h : r.userUrn = "" <;> by_cases h' : r'.userUrn = ""
  · rw [shownUser, shownUser, if_pos h, if_pos h']
    simp [h, h']
  · rw [shownUser, shownUser, if_pos h, if_neg h']
    rw [eq_comm]
    simp [h, h']
  · rw [shownUser, shownUser, if_neg h, if_pos h']
    simp [h, h']
  · rw [shownUser, shownUser, if_neg h, if_neg h']
    simp only [List.mem_cons, List.not_mem_nil, or_false, h, h', false_or]
    exact ⟨.inl, fun heq => heq.elim id fun hboth => hboth.1.trans hboth.2.symm⟩

/-- Whether an answer is accepted can be read from the end, whatever stands before it. -/
lemma append_answerText_inj {as cs : List Char} {b b' : Bool}
    (h : as ++ ' ' :: ' ' :: (answerText b).toList = cs ++ ' ' :: ' ' :: (answerText b').toList) :
    as = cs ∧ b = b' := by
  -- Both answers end alike, but a blank stands before the one word and a `t` before the other.
  have hne : ∀ {as cs : List Char},
      as ++ ' ' :: ' ' :: (answerText true).toList ≠
        cs ++ ' ' :: ' ' :: (answerText false).toList := by
    intro as cs h
    have hcut : (as ++ [' ']) ++ " accepted".toList =
        (cs ++ "  not".toList) ++ " accepted".toList := by
      simpa [answerText] using h
    have hlast := congrArg List.getLast? (List.append_cancel_right hcut)
    simp at hlast
  cases b <;> cases b'
  · simpa using h
  · exact absurd h.symm hne
  · exact absurd h hne
  · simpa using h

/-- There is no `d` in the expiry of a valid record. -/
lemma d_not_mem_validUntil {r : Record} (h : r.validate = .ok ()) : 'd' ∉ r.validUntil.toList := by
  rcases (validate_eq_ok_iff r).mp h with ⟨hnone, -⟩ | ⟨-, hread⟩
  · simp [hnone]
  · intro hd
    rcases Expiry.isExpiryChar_of_parse hread 'd' hd with hdigit | hblank | hsign
    · exact absurd hdigit (by decide)
    · exact absurd hblank (by decide)
    · exact absurd hsign (by decide)

/-- What stands before the last `d` of the line about access. -/
def accessFront (r : Record) : List Char :=
  if r.testbedAccess then "  testbed access: allowe".toList else "  testbed access: denie".toList

/-- What stands behind the last `d` of the line about access. -/
def accessRest (r : Record) : List Char :=
  if r.testbedAccess then " until ".toList ++ (r.validUntil.toList ++ ['\n']) else ['\n']

/-- The line about access, cut at its last `d`. -/
lemma accessLine_eq (r : Record) :
    r.accessLine.toList = r.accessFront ++ 'd' :: r.accessRest := by
  cases h : r.testbedAccess <;> simp [accessLine, accessFront, accessRest, h]

/-- The line about access can be read from its end, whatever stands before it. -/
lemma append_accessLine_inj {as cs : List Char} {r r' : Record} (hr : r.validate = .ok ())
    (hr' : r'.validate = .ok ())
    (h : as ++ r.accessLine.toList = cs ++ r'.accessLine.toList) :
    as = cs ∧ r.testbedAccess = r'.testbedAccess ∧
      (r.testbedAccess = true → r.validUntil = r'.validUntil) := by
  have hnot : ∀ {r : Record}, r.validate = .ok () → 'd' ∉ r.accessRest := by
    intro r hr
    have hd := d_not_mem_validUntil hr
    cases ha : r.testbedAccess <;> simp [accessRest, ha, hd]
  rw [accessLine_eq, accessLine_eq, ← List.append_assoc, ← List.append_assoc] at h
  obtain ⟨hfront, hrest⟩ := append_mark_inj (hnot hr) (hnot hr') h
  cases ha : r.testbedAccess <;> cases ha' : r'.testbedAccess
  case false.false => simpa [accessFront, ha, ha'] using hfront
  case true.true =>
    simp only [accessFront, ha, ha', if_true] at hfront
    simp only [accessRest, ha, ha', if_true, List.append_cancel_left_eq,
      List.append_cancel_right_eq] at hrest
    exact ⟨List.append_cancel_right hfront, rfl, fun _ => String.toList_inj.mp hrest⟩
  -- Behind `denied` nothing but the end of the line is left.
  case false.true => simp [accessRest, ha, ha'] at hrest
  case true.false => simp [accessRest, ha, ha'] at hrest

/-- A record in its lines, where each answer stands behind two blanks. -/
lemma lines_toList (r : Record) :
    r.lines.toList =
      "  user:           ".toList ++ r.shownUser.toList ++ "\n  main terms:   ".toList ++
        ' ' :: ' ' :: (answerText r.acceptMain).toList ++ "\n  user data:    ".toList ++
        ' ' :: ' ' :: (answerText r.acceptUserdata).toList ++ ['\n'] ++ r.accessLine.toList := by
  have hlines : r.lines = "  user:           " ++ r.shownUser ++ "\n" ++
      "  main terms:     " ++ answerText r.acceptMain ++ "\n" ++
      "  user data:      " ++ answerText r.acceptUserdata ++ "\n" ++ r.accessLine := rfl
  rw [hlines]
  simp

/-- **What the console shows of a record cannot be forged by its own text.** Two valid records are
shown alike exactly if their answers agree, and whether access is granted, and until when if it is,
and the names of their users, which may hold anything; only an empty name and a hyphen look the
same.

**Proof sketch.** The lines are read from their end. No valid expiry has a `d` in it, so the last
`d` tells whether access is granted, and what is behind it until when (`append_accessLine_inj`). Of the
two texts of an answer, one has a blank where the other has a letter (`append_answerText_inj`). What
is left is the name. -/
theorem lines_eq_iff {r r' : Record} (hr : r.validate = .ok ()) (hr' : r'.validate = .ok ()) :
    r.lines = r'.lines ↔
      r.acceptMain = r'.acceptMain ∧ r.acceptUserdata = r'.acceptUserdata ∧
      r.testbedAccess = r'.testbedAccess ∧
      (r.testbedAccess = true → r.validUntil = r'.validUntil) ∧
      (r.userUrn = r'.userUrn ∨ r.userUrn ∈ ["", "-"] ∧ r'.userUrn ∈ ["", "-"]) := by
  rw [← shownUser_eq_iff]
  constructor
  · intro h
    have hlines := congrArg String.toList h
    rw [lines_toList, lines_toList] at hlines
    obtain ⟨hanswers, haccess, huntil⟩ := append_accessLine_inj hr hr' hlines
    obtain ⟨hmain, hdata⟩ := append_answerText_inj (List.append_cancel_right hanswers)
    obtain ⟨huser, hterms⟩ := append_answerText_inj (List.append_cancel_right hmain)
    have hname := List.append_cancel_left (List.append_cancel_right huser)
    exact ⟨hterms, hdata, haccess, huntil, String.toList_inj.mp hname⟩
  · rintro ⟨hterms, hdata, haccess, huntil, huser⟩
    have hline : r.accessLine = r'.accessLine := by
      rw [accessLine, accessLine, ← haccess]
      cases ha : r.testbedAccess with
      | false => rfl
      | true => rw [huntil ha]
    rw [← String.toList_inj, lines_toList, lines_toList, hterms, hdata, huser, hline]

/-- A name that imitates the other lines: what is shown of its user, to whom no access is granted,
begins with all that is shown of another one, to whom it is. Still the two are told apart. -/
theorem imitated_lines_are_told_apart :
    let granted : Record := ⟨"urn:x", true, true, true, "2030-01-01"⟩
    let denied : Record :=
      ⟨"urn:x\n  main terms:     accepted\n  user data:      accepted\n" ++
        "  testbed access: allowed until 2030-01-01", false, false, false, ""⟩
    granted.validate = .ok () ∧ denied.validate = .ok () ∧
    granted.lines.toList <+: denied.lines.toList ∧ granted.lines ≠ denied.lines := by
  intro granted denied
  have hgranted : granted.validate = .ok () := by decide +kernel
  have hdenied : denied.validate = .ok () := by decide +kernel
  have hbegins : granted.lines.toList <+: denied.lines.toList := by
    rw [lines_toList, lines_toList]
    decide +kernel
  refine ⟨hgranted, hdenied, hbegins, fun h => ?_⟩
  obtain ⟨hterms, -⟩ := (lines_eq_iff hgranted hdenied).mp h
  exact absurd hterms (by decide)

end Record

end Consent
