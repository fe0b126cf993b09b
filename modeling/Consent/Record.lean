import Consent.Draft
import Consent.Expiry

set_option autoImplicit false

/-!
# Consent records

A record is the server's view of a user's consent: the user's two answers, and what follows from
them, which the client never sets: whether access to the testbed is granted, and until when.

## Main definitions

* `Consent.Record` — the record.
* `Consent.Record.validate` — an expiry must be readable, and access needs one.
* `Consent.Record.grantsAccessAt` — whether a record grants access at an instant.
* `Consent.Verdict`, `Consent.Record.verdict` — what an observer is told about a record.

## Main results

* `Consent.Record.validate_eq_ok_iff` — which records are valid.
-/

namespace Consent

open Calendar

/-- The server's view of a user's consent. -/
structure Record where
  /-- The user's name. -/
  userUrn : String
  /-- Whether the main terms are accepted. -/
  acceptMain : Bool
  /-- Whether the processing of user data is accepted. -/
  acceptUserdata : Bool
  /-- Whether access to the testbed is granted. -/
  testbedAccess : Bool
  /-- Until when consent is valid, verbatim; empty when no consent is active. -/
  validUntil : String
deriving DecidableEq, Repr

/-- What an observer is told. -/
inductive Verdict where
  /-- Access is granted until the given time, verbatim. -/
  | approve (expiry : String)
  /-- Access is not granted. -/
  | decline
deriving DecidableEq, Repr

namespace Record

/-- The record of a user about whom nothing is stored. -/
def empty : Record := ⟨"", false, false, false, ""⟩

/-- Why a record is refused. -/
inductive Error where
  /-- The body is not a record. -/
  | json (e : Json.Error)
  /-- The expiry cannot be read. -/
  | invalidExpiry (text : String)
  /-- Access is granted without an expiry. -/
  | missingExpiry
deriving DecidableEq, Repr

/-- The words for an error. -/
def Error.message : Error → String
  | json e => "invalid json: " ++ e.message
  | invalidExpiry text => "unparseable expiry " ++ Text.quoted text
  | missingExpiry => "testbed access granted without an expiry"

/-- Checks that an expiry is readable, and that access has one. -/
def validate (r : Record) : Except Error Unit :=
  if r.validUntil = "" then
    if r.testbedAccess then .error .missingExpiry else .ok ()
  else if (Expiry.parse r.validUntil).isNone then .error (.invalidExpiry r.validUntil)
  else .ok ()

/-- A record is valid when it has a readable expiry, or neither an expiry nor access. -/
theorem validate_eq_ok_iff (r : Record) :
    r.validate = .ok () ↔
      (r.validUntil = "" ∧ r.testbedAccess = false) ∨
      (r.validUntil ≠ "" ∧ (Expiry.parse r.validUntil).isSome = true) := by
  unfold validate
  by_cases h : r.validUntil = ""
  · cases ha : r.testbedAccess <;> simp [h]
  · cases hp : Expiry.parse r.validUntil <;> simp [h]

/-- The expiry, if it can be read. -/
def expiry (r : Record) : Option Expiry := Expiry.parse r.validUntil

/-- Whether a record grants access at an instant: it must lie strictly before the expiry. -/
def grantsAccessAt (r : Record) (now : Instant) : Bool :=
  r.testbedAccess && r.expiry.any fun e => now.before e.instant

/-- The draft that submits a record's answers unchanged. -/
def draft (r : Record) : Draft :=
  (Draft.empty.withMain r.acceptMain).withUserdata r.acceptUserdata

/-- What an observer is told about a record. -/
def verdict (r : Record) : Verdict :=
  if r.testbedAccess then .approve r.validUntil else .decline

end Record

end Consent
