import Consent.Proofs.Json.Objects
import Consent.Record.Wire
import Mathlib.Tactic.Choose

set_option autoImplicit false

/-!
# Decoding records by key

A record is decoded from an object by looking each field up among the members, whatever their order
and whatever else is there. Each field may be given once, under any of its keys, with a value of its
type; the access must be given, and every other field has a default.

## Main definitions

* `Consent.Record.Field` — the fields of a record, with their keys, types and defaults.
* `Consent.Record.Field.given` — the values that the members of an object give for a field.
* `Consent.Record.Complete` — the members of an object make a record.
* `Consent.Record.Holds` — the record that they make.
* `Consent.Record.known` — the members that are looked up.
* `Consent.Record.Error.kind` — errors up to what is wrong with a body.

## Main results

* `Consent.Record.fill_eq_some_iff` — reading one member after the other looks the fields up.
* `Consent.Record.readAll_eq_ok_iff` — what an object is read as.
* `Consent.Record.objects_decode_by_key` — order and unknown members do not matter.
-/

namespace Consent.Record

open Json

/-! ### Fields -/

/-- The fields of a record. -/
inductive Field where
  | user
  | main
  | userdata
  | access
  | expiry
deriving DecidableEq

namespace Field

/-- The field that a key names. The user has two keys. -/
def ofKey? : String → Option Field
  | "user_urn" => some user
  | "user" => some user
  | "accept_main" => some main
  | "accept_userdata" => some userdata
  | "testbed_access" => some access
  | "until" => some expiry
  | _ => none

/-- The type of a field. -/
def Value : Field → Type
  | user => String
  | main => Bool
  | userdata => Bool
  | access => Bool
  | expiry => String

/-- What a field is when it is not given. -/
def default : (field : Field) → field.Value
  | user => ""
  | main => false
  | userdata => false
  | access => false
  | expiry => ""

/-- A value on the wire is one of the type of a field, and denotes the given one. -/
def Denotes : (field : Field) → Bytes → field.Value → Prop
  | user => IsText
  | main => IsFlag
  | userdata => IsFlag
  | access => IsFlag
  | expiry => IsText

/-- The values that the members of an object give for a field. -/
def given (field : Field) (ms : List (String × Bytes)) : List Bytes :=
  (ms.filter fun m => ofKey? m.1 = some field).map (·.2)

end Field

/-- A field of a record. -/
def value (r : Record) : (field : Field) → field.Value
  | .user => r.userUrn
  | .main => r.acceptMain
  | .userdata => r.acceptUserdata
  | .access => r.testbedAccess
  | .expiry => r.validUntil

/-- The members of an object make a record: each field is given at most once, the access is given,
and what is given for a field has its type. -/
structure Complete (ms : List (String × Bytes)) : Prop where
  once : ∀ field : Field, (field.given ms).length ≤ 1
  access : Field.access.given ms ≠ []
  typed : ∀ field : Field, ∀ v ∈ field.given ms, ∃ a, field.Denotes v a

/-- The record that the members of an object make: each field is the one value given for it, or, if
none is given, its default. The access has no default. -/
def Holds (ms : List (String × Bytes)) (r : Record) : Prop :=
  ∀ field : Field, field.given ms = [] ∧ field ≠ .access ∧ r.value field = field.default ∨
    ∃ v, field.given ms = [v] ∧ field.Denotes v (r.value field)

/-! ### Slots -/

/-- The slot of a field. -/
def Field.slot : Field → Slot Partial
  | user => userSlot
  | main => mainSlot
  | userdata => userdataSlot
  | access => accessSlot
  | expiry => untilSlot

/-- What has been read for a field. -/
def Partial.get (p : Partial) : (field : Field) → Option field.Value
  | .user => p.userUrn
  | .main => p.acceptMain
  | .userdata => p.acceptUserdata
  | .access => p.testbedAccess
  | .expiry => p.validUntil

/-- What has been read, and the value of one more field. -/
def Partial.set (p : Partial) : (field : Field) → field.Value → Partial
  | .user, a => { p with userUrn := some a }
  | .main, a => { p with acceptMain := some a }
  | .userdata, a => { p with acceptUserdata := some a }
  | .access, a => { p with testbedAccess := some a }
  | .expiry, a => { p with validUntil := some a }

/-- What has been read is told by the fields. -/
lemma Partial.ext_get {p q : Partial} (h : ∀ field, p.get field = q.get field) : p = q := by
  have huser : p.userUrn = q.userUrn := h .user
  have hmain : p.acceptMain = q.acceptMain := h .main
  have huserdata : p.acceptUserdata = q.acceptUserdata := h .userdata
  have haccess : p.testbedAccess = q.testbedAccess := h .access
  have hexpiry : p.validUntil = q.validUntil := h .expiry
  cases p
  cases q
  simp_all

/-- The value of a field that is put in is there. -/
@[simp] lemma Partial.get_set_self (p : Partial) (field : Field) (a : field.Value) :
    (p.set field a).get field = some a := by
  cases field <;> rfl

/-- The values of the other fields stay. -/
lemma Partial.get_set_of_ne (p : Partial) {field other : Field} (h : other ≠ field)
    (a : field.Value) : (p.set field a).get other = p.get other := by
  cases field <;> cases other <;> first | rfl | exact absurd rfl h

/-- A key is looked up among the slots as it is among the fields. -/
lemma find?_slots (key : String) :
    shape.slots.find? (·.answersTo key) = (Field.ofKey? key).map Field.slot := by
  unfold Field.ofKey?
  split
  case h_7 =>
    simp_all [shape, Slot.answersTo, userSlot, mainSlot, userdataSlot, accessSlot, untilSlot,
      Slot.ofReader, List.find?]
  all_goals rfl

/-- The slots read what fields denote. -/
lemma regular_slots : ∀ slot ∈ shape.slots, slot.Regular := by
  intro slot hslot
  simp only [shape, List.mem_cons, List.not_mem_nil, or_false] at hslot
  rcases hslot with rfl | rfl | rfl | rfl | rfl
  · exact reads_textValue.regular ..
  · exact reads_flag.regular ..
  · exact reads_flag.regular ..
  · exact reads_flag.regular ..
  · exact reads_textValue.regular ..

/-- A field is filled once it has been read. -/
lemma filled_slot (field : Field) (p : Partial) : field.slot.filled p = (p.get field).isSome := by
  cases field <;> rfl

/-- Reading the value of a field puts in what it denotes. -/
lemma read_slot (field : Field) {p q : Partial} {v : Bytes} (hv : WellFormed .value v) :
    whole? (field.slot.read p v) = some q ↔ ∃ a, field.Denotes v a ∧ p.set field a = q := by
  cases field with
  | user =>
    rw [Field.slot, userSlot, reads_textValue.whole? _ _ _ _ _ _ hv]
    rfl
  | main =>
    rw [Field.slot, mainSlot, reads_flag.whole? _ _ _ _ _ _ hv]
    rfl
  | userdata =>
    rw [Field.slot, userdataSlot, reads_flag.whole? _ _ _ _ _ _ hv]
    rfl
  | access =>
    rw [Field.slot, accessSlot, reads_flag.whole? _ _ _ _ _ _ hv]
    rfl
  | expiry =>
    rw [Field.slot, untilSlot, reads_textValue.whole? _ _ _ _ _ _ hv]
    rfl

/-! ### Looking fields up -/

/-- What is known of a field after members have been read, if nothing or something was known
before. -/
def Fills (field : Field) (vs : List Bytes) (before after : Option field.Value) : Prop :=
  vs = [] ∧ after = before ∨
    before = none ∧ ∃ v a, vs = [v] ∧ field.Denotes v a ∧ after = some a

/-- A field that is known cannot be given again. -/
lemma fills_cons {field : Field} {v : Bytes} {vs : List Bytes}
    {before after : Option field.Value} :
    Fills field (v :: vs) before after ↔
      before = none ∧ ∃ a, field.Denotes v a ∧ Fills field vs (some a) after := by
  constructor
  · rintro (⟨hnil, -⟩ | ⟨hnone, w, a, hvs, hw, hafter⟩)
    · simp at hnil
    · obtain ⟨rfl, rfl⟩ := List.cons.inj hvs
      exact ⟨hnone, a, hw, .inl ⟨rfl, hafter⟩⟩
  · rintro ⟨hnone, a, hv, ⟨rfl, hafter⟩ | ⟨hsome, -⟩⟩
    · exact .inr ⟨hnone, v, a, rfl, hv, hafter⟩
    · simp at hsome

/-- A member that names a field gives a value for it. -/
lemma given_cons_self {field : Field} {key : String} (h : Field.ofKey? key = some field)
    (v : Bytes) (ms : List (String × Bytes)) :
    field.given ((key, v) :: ms) = v :: field.given ms := by
  simp [Field.given, h]

/-- A member that does not name a field gives nothing for it. -/
lemma given_cons_of_ne {field : Field} {key : String} (h : Field.ofKey? key ≠ some field)
    (v : Bytes) (ms : List (String × Bytes)) :
    field.given ((key, v) :: ms) = field.given ms := by
  simp [Field.given, h]

/-- **Reading one member after the other looks the fields up**, in whatever order they come.

**Proof sketch.** By induction on the members, for all that is known before them. A member gives a
value for the field that its key names, which must not be known, and for no other one. -/
lemma fill_eq_some_iff {ms : List (String × Bytes)} (hms : ∀ m ∈ ms, WellFormed .value m.2)
    {p q : Partial} :
    fill shape.slots p ms = some q ↔
      ∀ field : Field, Fills field (field.given ms) (p.get field) (q.get field) := by
  induction ms generalizing p with
  | nil =>
    simp only [fill, List.foldlM_nil, Option.pure_def, Option.some.injEq]
    constructor
    · rintro rfl field
      exact .inl ⟨rfl, rfl⟩
    · intro h
      refine Partial.ext_get fun field => ?_
      rcases h field with ⟨-, hsame⟩ | ⟨-, v, a, hnil, -⟩
      · exact hsame.symm
      · simp [Field.given] at hnil
  | cons m ms ih =>
    obtain ⟨key, v⟩ := m
    have hv : WellFormed .value v := hms (key, v) List.mem_cons_self
    have hfill : fill shape.slots p ((key, v) :: ms) = some q ↔
        ∃ t, put shape.slots p (key, v) = some t ∧ fill shape.slots t ms = some q := by
      simp [fill, List.foldlM_cons, Option.bind_eq_some_iff]
    have ih := fun t : Partial => ih (fun m hm => hms m (List.mem_cons_of_mem _ hm)) (p := t)
    rw [hfill]
    simp only [put, find?_slots, ih]
    cases hkey : Field.ofKey? key with
    | none =>
      have hgiven : ∀ field : Field, field.given ((key, v) :: ms) = field.given ms :=
        fun field => given_cons_of_ne (by simp [hkey]) v ms
      simp [hgiven]
    | some field =>
      have hput : ∀ t : Partial, (if field.slot.filled p = true then none
          else whole? (field.slot.read p v)) = some t ↔
            p.get field = none ∧ ∃ a, field.Denotes v a ∧ p.set field a = t := by
        intro t
        rw [filled_slot, ← read_slot field hv]
        cases p.get field <;> simp
      have hself := given_cons_self hkey v ms
      have hother : ∀ other, other ≠ field → other.given ((key, v) :: ms) = other.given ms :=
        fun other hne => given_cons_of_ne (by rw [hkey]; simpa using hne.symm) v ms
      simp only [Option.map_some, hput]
      constructor
      · rintro ⟨_, ⟨hnone, a, ha, rfl⟩, hfills⟩ other
        by_cases hne : other = field
        · subst hne
          have hrest := hfills other
          rw [Partial.get_set_self] at hrest
          rw [hself, fills_cons]
          exact ⟨hnone, a, ha, hrest⟩
        · have hrest := hfills other
          rw [Partial.get_set_of_ne p hne] at hrest
          rwa [hother other hne]
      · intro hfills
        have hfield := hfills field
        rw [hself, fills_cons] at hfield
        obtain ⟨hnone, a, ha, hrest⟩ := hfield
        refine ⟨p.set field a, ⟨hnone, a, ha, rfl⟩, fun other => ?_⟩
        by_cases hne : other = field
        · subst hne
          rwa [Partial.get_set_self]
        · rw [Partial.get_set_of_ne p hne, ← hother other hne]
          exact hfills other

/-! ### Objects -/

/-- What has been read for each field. -/
def Partial.ofGet (g : (field : Field) → Option field.Value) : Partial :=
  ⟨g .user, g .main, g .userdata, g .access, g .expiry⟩

/-- What has been read for each field is there. -/
@[simp] lemma Partial.get_ofGet (g : (field : Field) → Option field.Value) (field : Field) :
    (ofGet g).get field = g field := by
  cases field <;> rfl

/-- A record is told by its fields. -/
lemma ext_value {r r' : Record} (h : ∀ field, r.value field = r'.value field) : r = r' := by
  have huser : r.userUrn = r'.userUrn := h .user
  have hmain : r.acceptMain = r'.acceptMain := h .main
  have huserdata : r.acceptUserdata = r'.acceptUserdata := h .userdata
  have haccess : r.testbedAccess = r'.testbedAccess := h .access
  have hexpiry : r.validUntil = r'.validUntil := h .expiry
  cases r
  cases r'
  simp_all

/-- The record of what has been read: the access must have been read, and every other field that has
not is its default. -/
lemma ofPartial_eq_ok_iff {p : Partial} {r : Record} :
    ofPartial p = .ok r ↔ p.testbedAccess ≠ none ∧
      ∀ field : Field, r.value field = (p.get field).getD field.default := by
  rw [ofPartial]
  cases haccess : p.testbedAccess with
  | none => simp
  | some access =>
    have hvalue : ∀ field : Field, Record.value ⟨p.userUrn.getD "", p.acceptMain.getD false,
        p.acceptUserdata.getD false, access, p.validUntil.getD ""⟩ field =
          (p.get field).getD field.default := by
      intro field
      cases field with
      | access => exact (congrArg (Option.getD · false) haccess).symm
      | _ => rfl
    constructor
    · intro h
      obtain rfl := Except.ok.inj h
      exact ⟨by simp, hvalue⟩
    · rintro ⟨-, h⟩
      exact congrArg Except.ok (ext_value fun field => (hvalue field).trans (h field).symm)

/-- **An object is read as the record that its members make.**

**Proof sketch.** The members are looked up (`fill_eq_some_iff`), starting with nothing known. -/
lemma readAll_eq_ok_iff {body : Bytes} {ms : List (String × Bytes)} (h : ObjectBody body ms)
    {r : Record} : readAll read body = .ok r ↔ Holds ms r := by
  have hshape : readAll read body = readAll shape.read body := by
    obtain ⟨left, hleft⟩ := h.skipBlanks
    rw [readAll, readAll, read, hleft]
    rfl
  rw [hshape, h.read regular_slots]
  simp only [fill_eq_some_iff h.value]
  have hempty : ∀ field, shape.empty.get field = none := by
    intro field
    cases field <;> rfl
  constructor
  · rintro ⟨p, hfills, hbuild⟩ field
    obtain ⟨haccess, hvalue⟩ := ofPartial_eq_ok_iff.mp hbuild
    rw [hvalue field]
    rcases hfills field with ⟨hnil, hnone⟩ | ⟨-, v, a, hgiven, ha, hsome⟩
    · rw [hempty] at hnone
      refine .inl ⟨hnil, ?_, by rw [hnone, Option.getD_none]⟩
      rintro rfl
      exact haccess hnone
    · exact .inr ⟨v, hgiven, by rwa [hsome, Option.getD_some]⟩
  · intro hholds
    refine ⟨.ofGet fun field => if field.given ms = [] then none else some (r.value field),
      fun field => ?_, ofPartial_eq_ok_iff.mpr ⟨?_, fun field => ?_⟩⟩
    · rw [hempty, Partial.get_ofGet]
      rcases hholds field with ⟨hnil, -⟩ | ⟨v, hgiven, ha⟩
      · exact .inl ⟨hnil, if_pos hnil⟩
      · exact .inr ⟨rfl, v, _, hgiven, ha, if_neg (by simp [hgiven])⟩
    · rcases hholds .access with ⟨-, hne, -⟩ | ⟨v, hgiven, -⟩
      · exact absurd rfl hne
      · simp only [Partial.ofGet, hgiven, List.cons_ne_nil, if_false]
        exact Option.some_ne_none _
    · rw [Partial.get_ofGet]
      rcases hholds field with ⟨hnil, -, hdefault⟩ | ⟨v, hgiven, -⟩
      · rw [if_pos hnil, Option.getD_none, hdefault]
      · rw [if_neg (by simp [hgiven]), Option.getD_some]

/-! ### The check -/

/-- A record that has been read is checked. -/
lemma ofJson_of_readAll {body : Bytes} {r : Record} (h : readAll read body = .ok r) :
    ofJson body = r.validate.map fun _ => r := by
  rw [ofJson, h]
  cases hvalid : r.validate <;> simp [hvalid, Except.map]

/-- What a body must hold to be accepted: its members make a record, which is valid. -/
lemma ofJson_eq_ok_iff {body : Bytes} {r : Record} :
    ofJson body = .ok r ↔ readAll read body = .ok r ∧ r.validate = .ok () := by
  cases hread : readAll read body with
  | error e => simp [ofJson, hread]
  | ok r' =>
    rw [ofJson_of_readAll hread]
    cases hvalid : r'.validate with
    | error e =>
      simp only [Except.map, reduceCtorEq, Except.ok.injEq, false_iff]
      rintro ⟨rfl, hr⟩
      simp [hvalid] at hr
    | ok _ =>
      simp only [Except.map, Except.ok.injEq]
      constructor
      · rintro rfl
        exact ⟨rfl, hvalid⟩
      · exact fun h => h.1

/-! ### Order and unknown members -/

/-- The members whose keys name fields. -/
def known (ms : List (String × Bytes)) : List (String × Bytes) :=
  ms.filter fun m => (Field.ofKey? m.1).isSome

/-- What is wrong with a body, if it is read as a record that is refused. -/
def Error.kind : Error → Option Error
  | json _ => none
  | invalidExpiry text => some (.invalidExpiry text)
  | missingExpiry => some .missingExpiry

/-- Unknown members give nothing. -/
lemma given_known (field : Field) (ms : List (String × Bytes)) :
    field.given (known ms) = field.given ms := by
  rw [Field.given, Field.given, known, List.filter_filter]
  congr 2
  funext m
  cases hkey : Field.ofKey? m.1 <;> simp

/-- What is given for a field is the same up to its order when the known members are. -/
lemma given_perm {ms ms' : List (String × Bytes)} (h : (known ms).Perm (known ms'))
    (field : Field) : (field.given ms).Perm (field.given ms') := by
  rw [← given_known field ms, ← given_known field ms']
  exact (h.filter _).map _

/-- A record that members make is made by them in any order, among any unknown ones. -/
lemma Holds.perm {ms ms' : List (String × Bytes)} {r : Record} (hholds : Holds ms r)
    (h : (known ms).Perm (known ms')) : Holds ms' r := by
  intro field
  have hperm := given_perm h field
  rcases hholds field with ⟨hnil, hdefault⟩ | ⟨v, hgiven, ha⟩
  · rw [hnil] at hperm
    exact .inl ⟨List.nil_perm.mp hperm, hdefault⟩
  · rw [hgiven] at hperm
    exact .inr ⟨v, (List.singleton_perm.mp hperm).symm, ha⟩

/-- Members make a record when each field is given at most once and with its type, and the access is
given. -/
lemma exists_holds_iff {ms : List (String × Bytes)} : (∃ r, Holds ms r) ↔ Complete ms := by
  constructor
  · rintro ⟨r, hholds⟩
    refine ⟨fun field => ?_, ?_, fun field v hv => ?_⟩
    · rcases hholds field with ⟨hnil, -⟩ | ⟨v, hgiven, -⟩
      · simp [hnil]
      · simp [hgiven]
    · rcases hholds .access with ⟨-, hne, -⟩ | ⟨v, hgiven, -⟩
      · exact absurd rfl hne
      · simp [hgiven]
    · rcases hholds field with ⟨hnil, -⟩ | ⟨w, hgiven, ha⟩
      · simp [hnil] at hv
      · rw [hgiven, List.mem_singleton] at hv
        exact ⟨_, hv ▸ ha⟩
  · intro hcomplete
    have hchoice : ∀ field : Field, ∃ a : field.Value,
        field.given ms = [] ∧ field ≠ .access ∧ a = field.default ∨
          ∃ v, field.given ms = [v] ∧ field.Denotes v a := by
      intro field
      match hgiven : field.given ms with
      | [] =>
        refine ⟨field.default, .inl ⟨rfl, ?_, rfl⟩⟩
        rintro rfl
        exact hcomplete.access hgiven
      | [v] =>
        obtain ⟨a, ha⟩ := hcomplete.typed field v (by simp [hgiven])
        exact ⟨a, .inr ⟨v, rfl, ha⟩⟩
      | v :: w :: vs =>
        have honce := hcomplete.once field
        simp [hgiven] at honce
    choose value hvalue using hchoice
    refine ⟨⟨value .user, value .main, value .userdata, value .access, value .expiry⟩,
      fun field => ?_⟩
    cases field <;> exact hvalue _

/-- **Objects are decoded by key.** An object is read as a record if and only if each field is given
at most once and with its type, and the access is given; the record then holds what is given, and
the default for what is not. The order of the members, and members with other keys, change neither
the record nor the kind of error.

**Proof sketch.** What an object is read as is told by what is given for each field
(`readAll_eq_ok_iff`). That is at most one value, which no permutation changes. -/
theorem objects_decode_by_key {body : Bytes} {ms : List (String × Bytes)}
    (h : ObjectBody body ms) :
    ((∃ r, readAll read body = .ok r) ↔ Complete ms) ∧
    (∀ r, readAll read body = .ok r ↔ Holds ms r) ∧
    ∀ body' ms', ObjectBody body' ms' → (known ms).Perm (known ms') →
      (ofJson body).mapError Error.kind = (ofJson body').mapError Error.kind := by
  have hread : ∀ r, readAll read body = .ok r ↔ Holds ms r := fun r => readAll_eq_ok_iff h
  refine ⟨by simp only [hread, exists_holds_iff], hread, fun body' ms' h' hperm => ?_⟩
  have hsame : ∀ r, readAll read body = .ok r ↔ readAll read body' = .ok r := by
    intro r
    rw [readAll_eq_ok_iff h, readAll_eq_ok_iff h']
    exact ⟨(·.perm hperm), (·.perm hperm.symm)⟩
  rw [ofJson, ofJson]
  cases hbody : readAll read body with
  | ok r => rw [(hsame r).mp hbody]
  | error e =>
    cases hbody' : readAll read body' with
    | ok r =>
      rw [(hsame r).mpr hbody'] at hbody
      nomatch hbody
    | error e' => rfl

/-- The pieces of a text without escapes. -/
def plainly (s : String)
    (h : s.toList.all fun c => c ≠ '"' ∧ c ≠ '\\' ∧ 0x20 ≤ c.toNat) : List Piece :=
  s.toList.pmap .plain fun c hc => of_decide_eq_true (List.all_eq_true.mp h c hc)

/-- An object with a user and an access. -/
def briefBody : Bytes := Ascii.octets "\x7b\"user\":\"a\",\"testbed_access\":false\x7d"

/-- An object with the same members the other way round, with an escape in a key and with blanks,
and a member that is not known. -/
def ampleBody : Bytes :=
  Ascii.octets "\x7b\"testbed\\u005faccess\" : false, \"x\":[\x7b\x7d],\"user\":\"a\"\x7d"

/-- The members of the first object. -/
lemma briefBody_members : ObjectBody briefBody
    [("user", Ascii.octets "\"a\""), ("testbed_access", Ascii.octets "false")] := by
  have hnone : Blanks [] := List.forall_mem_nil _
  have huser : Keyed (plainly "user" (by decide)) (Ascii.octets "\"user\":") :=
    .mk hnone hnone hnone
  have haccess : Keyed (plainly "testbed_access" (by decide))
      (Ascii.octets "\"testbed_access\":") :=
    .mk hnone hnone hnone
  exact .members hnone (.more huser rfl (.text (plainly "a" (by decide))) hnone
    (.single haccess rfl (.flag false) hnone)) hnone

/-- The members of the second object. -/
lemma ampleBody_members : ObjectBody ampleBody
    [("testbed_access", Ascii.octets "false"), ("x", Ascii.octets "[\x7b\x7d]"),
      ("user", Ascii.octets "\"a\"")] := by
  have hnone : Blanks [] := List.forall_mem_nil _
  have hone : Blanks [0x20] := List.forall_mem_singleton.mpr rfl
  have haccess : Keyed (plainly "testbed" (by decide) ++ .unit ⟨⟨('0', 0), by decide⟩,
      ⟨('0', 0), by decide⟩, ⟨('5', 5), by decide⟩, ⟨('f', 15), by decide⟩⟩ ::
        plainly "access" (by decide)) (Ascii.octets "\"testbed\\u005faccess\" : ") :=
    .mk hnone hone hone
  have hx : Keyed (plainly "x" (by decide)) (Ascii.octets " \"x\":") := .mk hone hnone hnone
  have huser : Keyed (plainly "user" (by decide)) (Ascii.octets "\"user\":") :=
    .mk hnone hnone hnone
  have hlist : WellFormed .value (Ascii.octets "[\x7b\x7d]") :=
    .enclosed (.single (.list hnone) (.empty .object hnone) hnone)
  exact .members hnone (.more haccess rfl (.flag false) hnone (.more hx rfl hlist hnone
    (.single huser rfl (.text (plainly "a" (by decide))) hnone))) hnone

/-- The first object is read as its members say, and the second one alike. -/
theorem ample_object_decodes_alike :
    ObjectBody briefBody
      [("user", Ascii.octets "\"a\""), ("testbed_access", Ascii.octets "false")] ∧
    ObjectBody ampleBody
      [("testbed_access", Ascii.octets "false"), ("x", Ascii.octets "[\x7b\x7d]"),
        ("user", Ascii.octets "\"a\"")] ∧
    readAll read briefBody = .ok ⟨"a", false, false, false, ""⟩ ∧
    (ofJson ampleBody).mapError Error.kind = .ok ⟨"a", false, false, false, ""⟩ := by
  obtain ⟨-, hholds, halike⟩ := objects_decode_by_key briefBody_members
  have hread : readAll read briefBody = .ok ⟨"a", false, false, false, ""⟩ := by
    refine (hholds _).mpr fun field => ?_
    cases field with
    | user => exact .inr ⟨_, rfl, plainly "a" (by decide), rfl, rfl⟩
    | main => exact .inl ⟨rfl, nofun, rfl⟩
    | userdata => exact .inl ⟨rfl, nofun, rfl⟩
    | access => exact .inr ⟨_, rfl, rfl⟩
    | expiry => exact .inl ⟨rfl, nofun, rfl⟩
  refine ⟨briefBody_members, ampleBody_members, hread, ?_⟩
  rw [← halike _ _ ampleBody_members (by decide), ofJson_of_readAll hread]
  rfl

end Consent.Record
