import Consent.Proofs.Expiry.Reading
import Consent.Proofs.Session.Provenance

set_option autoImplicit false

/-!
# Which expiries are accepted

A record is checked by reading its expiry without the blanks around it. So the documented forms are
accepted with blanks around them, and an expiry that is accepted is of such a form, or of one about
which nothing is documented. This goes for every expiry that an observer is told too, since it is
the one of a valid record, verbatim.

## Main results

* `Consent.Expiry.parse_isSome_iff` — which texts are read as an expiry.
* `Consent.Expiry.accepted_up_to_blanks` — the expiries that are accepted and forwarded.
-/

namespace Consent

open Calendar Text

/-- Every call of an observer is about a valid record, unless the host brings a record itself. -/
lemma Session.exists_valid_of_note {bridge : Observer.Bridge}
    (hbridge : bridge = .detached ∨ bridge = .watching) {endpoint : String} {surface : Surface}
    {scripted : List (Option Reply)} {steps : List SessionStep}
    (hsteps : ∀ x ∈ steps, x.brings = false) {n : Note}
    (hn : n ∈ ((fresh endpoint surface bridge scripted).run steps).notes) :
    ∃ r : Record, n.verdict = r.verdict ∧ r.validate = .ok () := by
  obtain ⟨before, since, r, rfl, hverdict, hlast⟩ :=
    known_of_notes (holding_fresh hbridge endpoint surface scripted) hsteps hn
  -- The record was known to the client, so it was shown as ready, settled and fetched before.
  have hrecorded := (recorded_fresh endpoint surface bridge scripted).run
    (orderly_fresh endpoint surface bridge scripted) before
  obtain ⟨generation, hevent⟩ := hrecorded.settled_of_ready (hrecorded.ready_of_known (.inr hlast))
  obtain ⟨body, hfetched⟩ := fetched_of_settled rfl rfl
    (logged_fresh endpoint surface bridge scripted) hevent
  exact ⟨r, hverdict, hfetched.valid⟩

namespace Expiry

/-- A text is read as an expiry exactly if, without the blanks around it, it is of one of the forms
that are read. -/
lemma parse_isSome_iff {s : String} : (parse s).isSome = true ↔ Readable (trim s.toList) := by
  rw [parse, ofTrimmed?_isSome_iff]

/-- What is read is of a documented form, or of one about which nothing is documented. -/
lemma documented_or_lenient {s : String} (h : (parse s).isSome = true) :
    Documented (trim s.toList) ∨ Lenient (trim s.toList) := by
  have hread := parse_isSome_iff.mp h
  by_cases hdoc : Documented (trim s.toList)
  · exact .inl hdoc
  · exact .inr ⟨hread, hdoc⟩

/-- **The documented forms of an expiry are accepted up to the blanks around them.** A record with
an expiry of one of these forms, with blanks around it or not, is valid. Conversely the expiry of a
valid record, and every one that an observer is told unless the host brings a record itself, is of
such a form without the blanks around it, or of a form about which nothing is documented.

**Proof sketch.** A record that has an expiry is valid exactly if that can be read, and what can be
read is known (`parse_isSome_iff`). The expiries that observers are told are those of valid records
(`records_come_from_fetches`). -/
theorem accepted_up_to_blanks (s : String) (hs : s ≠ "") :
    (Documented (trim s.toList) → ∀ r : Record, r.validUntil = s → r.validate = .ok ()) ∧
    (∀ r : Record, r.validUntil = s → r.validate = .ok () →
      Documented (trim s.toList) ∨ Lenient (trim s.toList)) ∧
    (∀ (endpoint : String) (surface : Surface) (bridge : Observer.Bridge)
      (scripted : List (Option Reply)) (steps : List SessionStep),
      bridge = .detached ∨ bridge = .watching → (∀ x ∈ steps, x.brings = false) →
        ∀ n ∈ ((Session.fresh endpoint surface bridge scripted).run steps).notes,
          n.verdict = .approve s → Documented (trim s.toList) ∨ Lenient (trim s.toList)) := by
  have hvalid : ∀ r : Record, r.validUntil = s →
      (r.validate = .ok () ↔ (parse s).isSome = true) := by
    rintro r rfl
    rw [Record.validate_eq_ok_iff]
    simp [hs]
  refine ⟨fun hdoc r hr => ?_, fun r hr hok => ?_,
    fun endpoint surface bridge scripted steps hbridge hsteps n hn hverdict => ?_⟩
  · exact (hvalid r hr).mpr (parse_isSome_iff.mpr hdoc.readable)
  · exact documented_or_lenient ((hvalid r hr).mp hok)
  · obtain ⟨r, hsame, hok⟩ := Session.exists_valid_of_note hbridge hsteps hn
    obtain ⟨-, -, -, hread⟩ := Record.expiry_of_approve hok (hsame.symm.trans hverdict)
    exact documented_or_lenient hread

/-- A documented form begins with a digit. -/
lemma Documented.exists_cons {cs : List Char} (h : Documented cs) :
    ∃ c left, cs = c :: left ∧ c.isDigit = true := by
  rcases h with ⟨htime, -⟩ | hday
  · exact htime.exists_cons
  · exact hday.exists_cons

/-- An expiry with a blank before it is accepted and forwarded as it is, although it is of no
documented form itself. -/
theorem blanked_expiry_is_accepted :
    let r : Record := ⟨"", false, false, true, " 2030-01-01"⟩
    r.validate = .ok () ∧ r.verdict = .approve r.validUntil ∧ ¬ Documented r.validUntil.toList := by
  refine ⟨by decide +kernel, rfl, fun hdoc => ?_⟩
  obtain ⟨c, left, hcons, hc⟩ := hdoc.exists_cons
  obtain rfl : ' ' = c := (List.cons.inj hcons).1
  exact absurd hc (by decide)

/-- A leap second at the end of June, with blanks around it. -/
def blankedLeapSecond : String := "\t2030-06-30T23:59:60.5z "

/-- The date of that second. -/
def lastOfJune : Date := ⟨2030, 6, 30, by decide, by decide, by decide⟩

/-- The reply to a load: a record that grants access until a leap second. -/
def grantedUntilLeapSecond : List (Option Reply) :=
  [some (.ok ⟨200, Utf8.ofString
    "\x7b\"testbed_access\":true,\"until\":\"\\t2030-06-30T23:59:60.5z \"\x7d"⟩)]

/-- A load, after which an observer is attached. -/
def observedLoad : List SessionStep :=
  [.load "a", .poll "a", .host (.makeObserver "o" .nothing), .host (.attachObserver "o")]

/-- A leap second at the end of a month is of a documented form. With blanks around it, it is
accepted, and an observer is told of it. -/
theorem blanked_leap_second_is_forwarded :
    let s := (Session.fresh gdprEndpoint .lines .watching grantedUntilLeapSecond).run observedLoad
    Documented (trim blankedLeapSecond.toList) ∧
    (⟨"", false, false, true, blankedLeapSecond⟩ : Record).validate = .ok () ∧
    s.notes.map (·.verdict) = [.approve blankedLeapSecond] ∧
    ∀ n ∈ s.notes, n.verdict = .approve blankedLeapSecond →
      Documented (trim blankedLeapSecond.toList) ∨ Lenient (trim blankedLeapSecond.toList) := by
  intro s
  have hnumeral : ∀ {a b : Char} {n : Nat}, a.isDigit = true → b.isDigit = true →
      Decimal.value [a, b] = n → IsNumeral 2 2 [a, b] n := fun ha hb hn =>
    ⟨by simp [ha, hb], Nat.le_refl _, Nat.le_refl _, hn⟩
  have hyear : IsNumeral 4 4 ['2', '0', '3', '0'] 2030 :=
    ⟨by simp, Nat.le_refl _, Nat.le_refl _, rfl⟩
  have hmonth : IsNumeral 2 2 ['0', '6'] lastOfJune.month := hnumeral rfl rfl rfl
  have hday : IsNumeral 2 2 ['3', '0'] lastOfJune.day := hnumeral rfl rfl rfl
  have hhour : IsNumeral 2 2 ['2', '3'] 23 := hnumeral rfl rfl rfl
  have hminute : IsNumeral 2 2 ['5', '9'] 59 := hnumeral rfl rfl rfl
  have hsecond : IsNumeral 2 2 ['6', '0'] 60 := hnumeral rfl rfl rfl
  have hfraction : IsFraction ['.', '5'] := .point (List.cons_ne_nil _ _) (by simp)
  have hzone : IsOffset ['-'] ['z'] 0 := .zulu (.inr rfl)
  have hform := IsDateTime.mk (t := ⟨lastOfJune, 23, 59, 60, 0⟩) (.mk hyear rfl hmonth hday)
    (show 'T' ∈ ['T', 't', ' '] by decide) hhour (by decide) hminute (by decide) hsecond
    (Nat.le_refl _) hfraction hzone
  have hdoc : Documented (trim blankedLeapSecond.toList) := by
    rw [show trim blankedLeapSecond.toList = "2030-06-30T23:59:60.5z".toList by decide +kernel]
    exact .dateTime hform fun _ => ⟨⟨2030, 7, 1, by decide, by decide, by decide⟩, rfl, by decide⟩
  obtain ⟨haccept, -, htold⟩ := accepted_up_to_blanks blankedLeapSecond (by decide)
  refine ⟨hdoc, haccept hdoc _ rfl, by decide +kernel, ?_⟩
  refine htold gdprEndpoint .lines .watching grantedUntilLeapSecond observedLoad (.inr rfl) ?_
  simp [observedLoad, SessionStep.brings, Observer.HostStep.brings]

end Expiry

end Consent
