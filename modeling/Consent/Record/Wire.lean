import Consent.Record

set_option autoImplicit false

/-!
# Records on the wire

A record is sent as a JSON object. The expiry has the key `until` and is left out when it is empty;
the user may also come under the key `user`. On reading, every member but the access has a default,
and the whole body may be `null`, which is the empty record.

## Main definitions

* `Consent.Record.json` — the form that is sent.
* `Consent.Record.shape` — the members that are read.
* `Consent.Record.ofJson` — reads and validates a record.
-/

namespace Consent.Record

/-- The form of a record that is sent. -/
def json (r : Record) : String :=
  let untilMember := if r.validUntil = "" then [] else [("until", Json.quote r.validUntil)]
  String.ofList (Json.writeObject (
    [("user_urn", Json.quote r.userUrn), ("accept_main", Json.writeFlag r.acceptMain),
      ("accept_userdata", Json.writeFlag r.acceptUserdata),
      ("testbed_access", Json.writeFlag r.testbedAccess)] ++ untilMember))

/-- The members read so far. -/
structure Partial where
  /-- The user. -/
  userUrn : Option String
  /-- The answer on the main terms. -/
  acceptMain : Option Bool
  /-- The answer on user data. -/
  acceptUserdata : Option Bool
  /-- The access. -/
  testbedAccess : Option Bool
  /-- The expiry. -/
  validUntil : Option String

/-- The member with the user. -/
def userSlot : Json.Slot Partial :=
  .ofReader "user_urn" ["user"] true (·.userUrn.isSome)
    (fun p a => { p with userUrn := some a }) Json.textValue Json.textValue_shorter

/-- The member with the answer on the main terms. -/
def mainSlot : Json.Slot Partial :=
  .ofReader "accept_main" [] true (·.acceptMain.isSome)
    (fun p a => { p with acceptMain := some a }) Json.flag Json.flag_shorter

/-- The member with the answer on user data. -/
def userdataSlot : Json.Slot Partial :=
  .ofReader "accept_userdata" [] true (·.acceptUserdata.isSome)
    (fun p a => { p with acceptUserdata := some a }) Json.flag Json.flag_shorter

/-- The member with the access. -/
def accessSlot : Json.Slot Partial :=
  .ofReader "testbed_access" [] false (·.testbedAccess.isSome)
    (fun p a => { p with testbedAccess := some a }) Json.flag Json.flag_shorter

/-- The member with the expiry. -/
def untilSlot : Json.Slot Partial :=
  .ofReader "until" [] true (·.validUntil.isSome)
    (fun p a => { p with validUntil := some a }) Json.textValue Json.textValue_shorter

/-- The record that some members make: the access must be among them. -/
def ofPartial (p : Partial) : Except Json.Cause Record :=
  match p.testbedAccess with
  | none => .error (.missingField "testbed_access")
  | some access =>
    .ok ⟨p.userUrn.getD "", p.acceptMain.getD false, p.acceptUserdata.getD false, access,
      p.validUntil.getD ""⟩

/-- The shape of a record. -/
def shape : Json.Shape Partial Record where
  name := "struct ConsentRecord"
  slots := [userSlot, mainSlot, userdataSlot, accessSlot, untilSlot]
  empty := ⟨none, none, none, none, none⟩
  build := ofPartial

/-- Reads a record, or `null` for the empty one. -/
def read : Json.Reader Record := fun left =>
  match Json.skipBlanks left with
  | Ascii.lowerN :: rest => (Json.word Json.nullTail rest).map (Record.empty, ·)
  | _ => shape.read left

/-- Reads a record from a body and checks it. -/
def ofJson (body : Bytes) : Except Error Record :=
  match Json.readAll read body with
  | .error e => .error (.json e)
  | .ok r =>
    match r.validate with
    | .error e => .error e
    | .ok () => .ok r

end Consent.Record
