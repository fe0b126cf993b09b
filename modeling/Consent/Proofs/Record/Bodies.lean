import Consent.Proofs.Json.Lists
import Consent.Proofs.Record.Decoding

set_option autoImplicit false

/-!
# Bodies that are read as records

A body may be `null` or an object. It may also be a list of the values of the fields in their fixed
order, without their keys, and such a list is read as a record like any object. Texts, numbers and
truth values are refused.

## Main definitions

* `Consent.Json.Kind`, `Consent.Json.HasKind` — the kinds of values.
* `Consent.Json.kind?` — the kind of a body, told by how it begins.
* `Consent.Record.InOrder` — the elements of a list make a record.

## Main results

* `Consent.Json.kind?_eq_some_iff` — the kind of a body is that of its value.
* `Consent.Record.readAll_list_iff_inOrder` — which lists are read as a record.
* `Consent.Record.accepted_bodies_by_kind` — which kinds of bodies are accepted.
-/

namespace Consent.Json

/-! ### Kinds -/

/-- The kinds of values. -/
inductive Kind where
  | null
  | flag
  | number
  | text
  | list
  | object
deriving DecidableEq

/-- The kind of the values in a bracket. -/
def Bracket.kind : Bracket → Kind
  | list => .list
  | object => .object

/-- A well-formed value is of a kind. -/
inductive HasKind : Kind → Bytes → Prop where
  | null : HasKind .null (Ascii.octets "null")
  | flag (b : Bool) : HasKind .flag (flagOctets b)
  | number {n : Bytes} (hn : IsNumber n) : HasKind .number n
  | text (ps : List Piece) : HasKind .text (quoted ps)
  | bracket {k : Bracket} {inside : Bytes}
      (hv : WellFormed .value (k.opener :: (inside ++ [k.closer]))) :
      HasKind k.kind (k.opener :: (inside ++ [k.closer]))

/-- The kind of the values that begin with an octet. -/
def Kind.ofOctet? (b : UInt8) : Option Kind :=
  if b = Ascii.lowerN then some null
  else if b = Ascii.lowerT || b = Ascii.lowerF then some flag
  else if b = Ascii.minus || Ascii.isDigit b then some number
  else if b = Ascii.quote then some text
  else if b = Ascii.openBracket then some list
  else if b = Ascii.openBrace then some object
  else none

/-- The kind of the value that a body begins with, if any. -/
def kind? (body : Bytes) : Option Kind := (skipBlanks body).head?.bind Kind.ofOctet?

/-- Every well-formed value is of a kind. -/
lemma WellFormed.exists_hasKind {v : Bytes} (hv : WellFormed .value v) : ∃ k, HasKind k v := by
  cases hv with
  | null => exact ⟨_, .null⟩
  | flag b => exact ⟨_, .flag b⟩
  | number hn => exact ⟨_, .number hn⟩
  | text ps => exact ⟨_, .text ps⟩
  | empty k hws => exact ⟨_, .bracket (.empty k hws)⟩
  | enclosed hes => exact ⟨_, .bracket (.enclosed hes)⟩

/-- The kind of a value is told by how it begins. -/
lemma HasKind.kind?_eq {k : Kind} {v : Bytes} (h : HasKind k v) {ws : Bytes} (hws : Blanks ws)
    (left : Bytes) : kind? (ws ++ (v ++ left)) = some k := by
  have hfirst : ∀ b bs, isBlank b = false → v = b :: bs →
      kind? (ws ++ (v ++ left)) = Kind.ofOctet? b := by
    rintro b bs hb rfl
    rw [kind?, skipBlanks_append hws, List.cons_append, skipBlanks_cons hb]
    rfl
  cases h with
  | null => exact hfirst Ascii.lowerN _ (by decide) rfl
  | flag b =>
    cases b with
    | true => exact hfirst Ascii.lowerT _ (by decide) rfl
    | false => exact hfirst Ascii.lowerF _ (by decide) rfl
  | number hn =>
    obtain ⟨b, bs, rfl, hb⟩ := hn.exists_cons
    have hword : b ≠ Ascii.lowerN ∧ b ≠ Ascii.lowerT ∧ b ≠ Ascii.lowerF := by
      refine ⟨?_, ?_, ?_⟩ <;> rintro rfl <;> revert hb <;> decide
    rw [hfirst b bs (starts_of_number hb).1 rfl, Kind.ofOctet?]
    simp [hword, hb]
  | text ps => exact hfirst Ascii.quote _ (by decide) rfl
  | @bracket k inside hv =>
    cases k with
    | list => exact hfirst Ascii.openBracket _ (by decide) rfl
    | object => exact hfirst Ascii.openBrace _ (by decide) rfl

/-- **The kind of a body is that of the value that it begins with.** -/
lemma kind?_eq_some_iff {k : Kind} {v ws : Bytes} (hv : WellFormed .value v) (hws : Blanks ws)
    (left : Bytes) : kind? (ws ++ (v ++ left)) = some k ↔ HasKind k v := by
  refine ⟨fun h => ?_, fun h => h.kind?_eq hws left⟩
  obtain ⟨k', hk'⟩ := hv.exists_hasKind
  obtain rfl := Option.some.inj ((hk'.kind?_eq hws left).symm.trans h)
  exact hk'

/-- A body begins with the bracket of a list. -/
lemma kind?_eq_list_iff {body : Bytes} :
    kind? body = some .list ↔ ∃ left, skipBlanks body = Ascii.openBracket :: left := by
  rw [kind?]
  cases skipBlanks body with
  | nil => simp
  | cons b bs =>
    constructor
    · intro h
      have hb : b = Ascii.openBracket := by
        simp only [List.head?_cons, Option.bind_some, Kind.ofOctet?] at h
        repeat' split at h
        all_goals first | assumption | simp at h
      exact ⟨bs, by rw [hb]⟩
    · rintro ⟨left, hleft⟩
      rw [(List.cons.inj hleft).1]
      rfl

/-- A body that is a list is of this kind. -/
lemma ListBody.kind?_eq {body : Bytes} {vs : List Bytes} (h : ListBody body vs) :
    kind? body = some .list := by
  obtain ⟨hws, -, -⟩ := h
  exact kind?_eq_list_iff.mpr ⟨_, by rw [skipBlanks_append hws, skipBlanks_cons (by decide)]⟩

end Consent.Json

namespace Consent.Record

open Json

/-! ### Lists -/

/-- The elements of a list make a record: they are the values of its fields, in their order. The
last one, the expiry, may be left out. -/
inductive InOrder (r : Record) : List Bytes → Prop where
  | brief {u m d a : Bytes} (hu : IsText u r.userUrn) (hm : IsFlag m r.acceptMain)
      (hd : IsFlag d r.acceptUserdata) (ha : IsFlag a r.testbedAccess) (he : r.validUntil = "") :
      InOrder r [u, m, d, a]
  | full {u m d a e : Bytes} (hu : IsText u r.userUrn) (hm : IsFlag m r.acceptMain)
      (hd : IsFlag d r.acceptUserdata) (ha : IsFlag a r.testbedAccess)
      (he : IsText e r.validUntil) : InOrder r [u, m, d, a, e]

/-- What the slots of a record read is well formed. -/
lemma sound_slots : ∀ slot ∈ shape.slots, slot.Sound := by
  intro slot hslot
  simp only [shape, List.mem_cons, List.not_mem_nil, or_false] at hslot
  rcases hslot with rfl | rfl | rfl | rfl | rfl
  · exact sound_ofReader _ _ _ _ _ _ sound_textValue
  · exact sound_ofReader _ _ _ _ _ _ sound_flag
  · exact sound_ofReader _ _ _ _ _ _ sound_flag
  · exact sound_ofReader _ _ _ _ _ _ sound_flag
  · exact sound_ofReader _ _ _ _ _ _ sound_textValue

/-- A value of the type of a field is put in. -/
lemma arrange_cons_iff (field : Field) {v : Bytes} (hv : WellFormed .value v)
    {slots : List (Slot Partial)} {p q : Partial} {vs : List Bytes} :
    arrange (field.slot :: slots) p (v :: vs) = some q ↔
      ∃ a, field.Denotes v a ∧ arrange slots (p.set field a) vs = some q := by
  simp only [arrange, Option.bind_eq_some_iff, read_slot field hv]
  constructor
  · rintro ⟨_, ⟨a, ha, rfl⟩, hrest⟩
    exact ⟨a, ha, hrest⟩
  · rintro ⟨a, ha, hrest⟩
    exact ⟨_, ⟨a, ha, rfl⟩, hrest⟩

/-- The elements of a list are arranged when they are the values of the fields in their order. -/
lemma arrange_iff_inOrder {vs : List Bytes} (hvs : ∀ v ∈ vs, WellFormed .value v) {r : Record} :
    (∃ p, arrange shape.slots shape.empty vs = some p ∧ ofPartial p = .ok r) ↔ InOrder r vs := by
  have hslots : shape.slots = [Field.user.slot, Field.main.slot, Field.userdata.slot,
    Field.access.slot, Field.expiry.slot] := rfl
  rw [hslots]
  constructor
  · rintro ⟨p, h, hbuild⟩
    rcases vs with _ | ⟨u, vs⟩
    · cases h
    obtain ⟨hu, hvs⟩ := List.forall_mem_cons.mp hvs
    obtain ⟨user, huser, h⟩ := (arrange_cons_iff .user hu).mp h
    rcases vs with _ | ⟨m, vs⟩
    · cases h
    obtain ⟨hm, hvs⟩ := List.forall_mem_cons.mp hvs
    obtain ⟨main, hmain, h⟩ := (arrange_cons_iff .main hm).mp h
    rcases vs with _ | ⟨d, vs⟩
    · cases h
    obtain ⟨hd, hvs⟩ := List.forall_mem_cons.mp hvs
    obtain ⟨userdata, huserdata, h⟩ := (arrange_cons_iff .userdata hd).mp h
    rcases vs with _ | ⟨a, vs⟩
    · cases h
    obtain ⟨ha, hvs⟩ := List.forall_mem_cons.mp hvs
    obtain ⟨access, haccess, h⟩ := (arrange_cons_iff .access ha).mp h
    rcases vs with _ | ⟨e, vs⟩
    · obtain rfl := Option.some.inj h
      obtain rfl := Except.ok.inj hbuild
      exact .brief huser hmain huserdata haccess rfl
    obtain ⟨he, hvs⟩ := List.forall_mem_cons.mp hvs
    obtain ⟨expiry, hexpiry, h⟩ := (arrange_cons_iff .expiry he).mp h
    rcases vs with _ | ⟨v, vs⟩
    · obtain rfl := Option.some.inj h
      obtain rfl := Except.ok.inj hbuild
      exact .full huser hmain huserdata haccess hexpiry
    · cases h
  · intro h
    cases h with
    | brief huser hmain huserdata haccess hexpiry =>
      simp only [List.forall_mem_cons] at hvs
      obtain ⟨hu, hm, hd, ha, -⟩ := hvs
      refine ⟨_, (arrange_cons_iff .user hu).mpr ⟨_, huser, (arrange_cons_iff .main hm).mpr
        ⟨_, hmain, (arrange_cons_iff .userdata hd).mpr ⟨_, huserdata,
          (arrange_cons_iff .access ha).mpr ⟨_, haccess, rfl⟩⟩⟩⟩, ?_⟩
      show Except.ok _ = Except.ok r
      rw [← hexpiry]
      rfl
    | full huser hmain huserdata haccess hexpiry =>
      simp only [List.forall_mem_cons] at hvs
      obtain ⟨hu, hm, hd, ha, he, -⟩ := hvs
      exact ⟨_, (arrange_cons_iff .user hu).mpr ⟨_, huser, (arrange_cons_iff .main hm).mpr
        ⟨_, hmain, (arrange_cons_iff .userdata hd).mpr ⟨_, huserdata,
          (arrange_cons_iff .access ha).mpr ⟨_, haccess, (arrange_cons_iff .expiry he).mpr
            ⟨_, hexpiry, rfl⟩⟩⟩⟩⟩, rfl⟩

/-- **A body that begins with a bracket is read as a record when it is a list of the values of the
fields in their order.** -/
lemma readAll_list_iff_inOrder {body : Bytes} (hbody : kind? body = some .list) {r : Record} :
    readAll read body = .ok r ↔ ∃ vs, ListBody body vs ∧ InOrder r vs := by
  obtain ⟨left, hleft⟩ := kind?_eq_list_iff.mp hbody
  have hread : readAll read body = readAll shape.read body := by
    rw [readAll, readAll, read, hleft]
    rfl
  have hslots : ∀ slot ∈ shape.slots, slot.Regular ∧ slot.Sound :=
    fun slot h => ⟨regular_slots slot h, sound_slots slot h⟩
  rw [hread, Json.readAll_list_iff hslots hleft]
  constructor
  · rintro ⟨vs, p, hlist, harrange, hbuild⟩
    exact ⟨vs, hlist, (arrange_iff_inOrder hlist.value).mp ⟨p, harrange, hbuild⟩⟩
  · rintro ⟨vs, hlist, horder⟩
    obtain ⟨p, harrange, hbuild⟩ := (arrange_iff_inOrder hlist.value).mpr horder
    exact ⟨vs, p, hlist, harrange, hbuild⟩

/-! ### Other bodies -/

/-- A body that is neither `null`, nor a list, nor an object is not read. -/
lemma readAll_eq_error {body : Bytes} (hnull : kind? body ≠ some .null)
    (hlist : kind? body ≠ some .list) (hobject : kind? body ≠ some .object) :
    ∃ e, readAll read body = .error e := by
  have hread : ∃ f, read body = .error f := by
    cases hleft : skipBlanks body with
    | nil => exact ⟨_, by rw [read, Shape.read, hleft]⟩
    | cons b bs =>
      have hkind : kind? body = Kind.ofOctet? b := by rw [kind?, hleft]; rfl
      have hn : b ≠ Ascii.lowerN := by
        rintro rfl
        exact hnull hkind
      have hb : b ≠ Ascii.openBracket := by
        rintro rfl
        exact hlist hkind
      have ho : b ≠ Ascii.openBrace := by
        rintro rfl
        exact hobject hkind
      refine ⟨mismatch shape.name (b :: bs), ?_⟩
      rw [read, Shape.read, hleft]
      split
      · rename_i h
        exact absurd (List.cons.inj h).1 hn
      · split
        · rename_i h
          cases h
        · rename_i h
          exact absurd (List.cons.inj h).1 hb
        · rename_i h
          exact absurd (List.cons.inj h).1 ho
        · rfl
  obtain ⟨f, hf⟩ := hread
  exact ⟨f.locate body, by rw [readAll, hf]⟩

/-- A body is refused for its form when it is not read. -/
lemma ofJson_eq_json_error_iff {body : Bytes} :
    (∃ e, ofJson body = .error (.json e)) ↔ ∃ e, readAll read body = .error e := by
  cases hread : readAll read body with
  | error e => simp [ofJson, hread]
  | ok r =>
    rw [ofJson_of_readAll hread]
    cases hvalid : r.validate with
    | ok _ => simp [Except.map]
    | error e =>
      have hcause : ∀ e', e ≠ .json e' := by
        rintro e' rfl
        simp only [validate] at hvalid
        repeat' split at hvalid
        all_goals cases hvalid
      simpa [Except.map] using hcause

/-- **Bodies are accepted by their kind.** An accepted body is `null` or an object, or else a list
of the values of the fields in their order, of which the expiry may be left out. A body of another
kind than the first two is refused for its form exactly if it is no such list; if it is, and the
values make a valid record, then that record is what it holds.

**Proof sketch.** A list is read by arranging its elements (`readAll_list_iff_inOrder`). A body of
another kind than the three is not read at all. -/
theorem accepted_bodies_by_kind (body : Bytes) :
    (∀ r, ofJson body = .ok r →
      kind? body = some .null ∨ kind? body = some .object ∨
        kind? body = some .list ∧ ∃ vs, ListBody body vs ∧ InOrder r vs) ∧
    (∀ k, kind? body = some k → k ≠ .null → k ≠ .object →
      ((∃ e, ofJson body = .error (.json e)) ↔ ¬ ∃ vs r, ListBody body vs ∧ InOrder r vs)) ∧
    ∀ vs r, ListBody body vs → InOrder r vs → r.validate = .ok () → ofJson body = .ok r := by
  refine ⟨fun r hbody => ?_, fun k hkind hnull hobject => ?_, fun vs r hlist horder hvalid => ?_⟩
  · have hread := (ofJson_eq_ok_iff.mp hbody).1
    by_cases hnull : kind? body = some .null
    · exact .inl hnull
    by_cases hobject : kind? body = some .object
    · exact .inr (.inl hobject)
    by_cases hlist : kind? body = some .list
    · exact .inr (.inr ⟨hlist, (readAll_list_iff_inOrder hlist).mp hread⟩)
    · obtain ⟨e, he⟩ := readAll_eq_error hnull hlist hobject
      rw [he] at hread
      cases hread
  · rw [ofJson_eq_json_error_iff]
    constructor
    · rintro ⟨e, he⟩ ⟨vs, r, hlist, horder⟩
      rw [(readAll_list_iff_inOrder hlist.kind?_eq).mpr ⟨vs, hlist, horder⟩] at he
      cases he
    · intro hnone
      cases hread : readAll read body with
      | error e => exact ⟨e, rfl⟩
      | ok r =>
        by_cases hlist : kind? body = some .list
        · obtain ⟨vs, hvs, horder⟩ := (readAll_list_iff_inOrder hlist).mp hread
          exact absurd ⟨vs, r, hvs, horder⟩ hnone
        · obtain ⟨e, he⟩ := readAll_eq_error (by rwa [hkind, ne_eq, Option.some.injEq]) hlist
            (by rwa [hkind, ne_eq, Option.some.injEq])
          rw [he] at hread
          cases hread
  · have hread := (readAll_list_iff_inOrder hlist.kind?_eq).mpr ⟨vs, hlist, horder⟩
    exact ofJson_eq_ok_iff.mpr ⟨hread, hvalid⟩

/-- A list that grants access, without any key, is accepted. -/
theorem list_body_is_accepted :
    kind? (Ascii.octets "[\"u\",true,false,true,\"2030-01-01\"]") = some .list ∧
    ofJson (Ascii.octets "[\"u\",true,false,true,\"2030-01-01\"]") =
      .ok ⟨"u", true, false, true, "2030-01-01"⟩ := by
  decide +kernel

/-- The values of a list, with blanks around them and without an expiry, make a record, whereas a
number and an empty list are refused for their form. -/
theorem listed_values_make_record :
    ListBody (Ascii.octets " [\"u\" ,true,false,false]")
      [Ascii.octets "\"u\"", Ascii.octets "true", Ascii.octets "false", Ascii.octets "false"] ∧
    InOrder ⟨"u", true, false, false, ""⟩
      [Ascii.octets "\"u\"", Ascii.octets "true", Ascii.octets "false", Ascii.octets "false"] ∧
    ofJson (Ascii.octets " [\"u\" ,true,false,false]") = .ok ⟨"u", true, false, false, ""⟩ ∧
    kind? (Ascii.octets "null") = some .null ∧
    (∃ e, ofJson (Ascii.octets "12") = .error (.json e)) ∧
    ∃ e, ofJson (Ascii.octets "[]") = .error (.json e) := by
  have hnone : Blanks [] := List.forall_mem_nil _
  have hone : Blanks [0x20] := List.forall_mem_singleton.mpr rfl
  have hfirst : Separates true [] := rfl
  have hcomma : ∀ ws, Blanks ws → Separates false (ws ++ [Ascii.comma]) :=
    fun ws hws => ⟨ws, hws, rfl⟩
  have hlist : ListBody (Ascii.octets " [\"u\" ,true,false,false]")
      [Ascii.octets "\"u\"", Ascii.octets "true", Ascii.octets "false", Ascii.octets "false"] :=
    .mk hone (.element hfirst hnone (.text (plainly "u" (by decide)))
      (.element (hcomma _ hone) hnone (.flag true) (.element (hcomma _ hnone) hnone (.flag false)
        (.element (hcomma _ hnone) hnone (.flag false) (.close hnone))))) hnone
  have horder : InOrder ⟨"u", true, false, false, ""⟩
      [Ascii.octets "\"u\"", Ascii.octets "true", Ascii.octets "false", Ascii.octets "false"] :=
    .brief ⟨plainly "u" (by decide), rfl, rfl⟩ rfl rfl rfl rfl
  refine ⟨hlist, horder, (accepted_bodies_by_kind _).2.2 _ _ hlist horder rfl, ?_,
    ((accepted_bodies_by_kind _).2.1 .number rfl (by decide) (by decide)).mpr ?_,
    ((accepted_bodies_by_kind _).2.1 .list rfl (by decide) (by decide)).mpr ?_⟩
  · rcases (accepted_bodies_by_kind (Ascii.octets "null")).1 .empty (by decide +kernel) with
      h | h | ⟨h, -⟩
    · exact h
    · cases h
    · cases h
  · rintro ⟨vs, r, hvs, -⟩
    cases hvs.kind?_eq.symm.trans (show kind? (Ascii.octets "12") = some .number from rfl)
  · rintro ⟨vs, r, hvs, hr⟩
    obtain rfl : vs = [] := by
      generalize hbody : Ascii.octets "[]" = body at hvs
      obtain @⟨ws, left, ws', _, hws, hleft, -⟩ := hvs
      have hskip : skipBlanks (Ascii.octets "[]") = Ascii.openBracket :: left := by
        rw [hbody, skipBlanks_append hws, skipBlanks_cons (by decide)]
      obtain rfl : [Ascii.closeBracket] = left := (List.cons.inj hskip).2
      cases vs with
      | nil => rfl
      | cons v vs =>
        obtain ⟨left', hnext, -⟩ := elements_cons_iff.mp hleft
        cases hnext
    cases hr

end Consent.Record
