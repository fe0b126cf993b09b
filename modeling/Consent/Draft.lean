import Consent.Json.Shape
import Consent.Json.Value

set_option autoImplicit false

/-!
# Drafts

A draft is what a client proposes: an answer to each of the two questions, or none. The server
takes it as a full replacement, so a question without an answer counts as not accepted.

## Main definitions

* `Consent.Draft` — the proposed answers.
* `Consent.Draft.acceptAll`, `Consent.Draft.declineAll` — the two uniform drafts.
* `Consent.Draft.json` — the form that is sent.
* `Consent.Draft.ofJson` — reads that form.
-/

namespace Consent

/-- The answers that a client proposes. -/
structure Draft where
  /-- Whether the main terms are accepted. -/
  acceptMain : Option Bool
  /-- Whether the processing of user data is accepted. -/
  acceptUserdata : Option Bool
deriving DecidableEq, Repr

namespace Draft

/-- The draft without answers. -/
def empty : Draft := ⟨none, none⟩

/-- The draft with an answer on the main terms. -/
def withMain (d : Draft) (accepted : Bool) : Draft := { d with acceptMain := some accepted }

/-- The draft with an answer on user data. -/
def withUserdata (d : Draft) (accepted : Bool) : Draft :=
  { d with acceptUserdata := some accepted }

/-- The draft that accepts everything. -/
def acceptAll : Draft := (empty.withMain true).withUserdata true

/-- The draft that accepts nothing. -/
def declineAll : Draft := (empty.withMain false).withUserdata false

/-- One answer as a member; a missing answer is left out. -/
def answerMember (key : String) : Option Bool → List (String × List Char)
  | none => []
  | some b => [(key, Json.writeFlag b)]

/-- The form of a draft that is sent. -/
def json (d : Draft) : String :=
  String.ofList (Json.writeObject
    (answerMember "accept_main" d.acceptMain ++ answerMember "accept_userdata" d.acceptUserdata))

/-- The answers read so far: for each question, whether its member came, and its answer. -/
structure Partial where
  /-- The member on the main terms. -/
  main : Option (Option Bool)
  /-- The member on user data. -/
  userdata : Option (Option Bool)

/-- The member on the main terms. -/
def mainSlot : Json.Slot Partial :=
  .ofReader "accept_main" [] false (·.main.isSome) (fun p a => { p with main := some a })
    Json.optionalFlag Json.optionalFlag_shorter

/-- The member on user data. -/
def userdataSlot : Json.Slot Partial :=
  .ofReader "accept_userdata" [] false (·.userdata.isSome)
    (fun p a => { p with userdata := some a }) Json.optionalFlag Json.optionalFlag_shorter

/-- The shape of a draft: in an object either member may be missing, in a list neither. -/
def shape : Json.Shape Partial Draft where
  name := "struct ConsentDraft"
  slots := [mainSlot, userdataSlot]
  empty := ⟨none, none⟩
  build p := .ok ⟨p.main.join, p.userdata.join⟩

/-- Reads a draft from a body. -/
def ofJson (body : Bytes) : Except Json.Error Draft := Json.readAll shape.read body

end Draft

end Consent
