import Consent.Operation
import Consent.Record.Wire

set_option autoImplicit false

/-!
# Failures of an operation

An operation fails when no response arrives, when the response has another status than the one that
means success, or when the body of a fetched record is not one.

## Main definitions

* `Consent.SyncError`, `Consent.SyncError.message` — the failures, in words.
* `Consent.SyncError.cut?`, `Consent.SyncError.snippet` — the start of a body that a failure keeps,
  and where it ends.
* `Consent.Operation.check` — the status of a response.
* `Consent.decodeRecord` — the record of a fetch response.
-/

namespace Consent

/-- Why no response arrived. -/
inductive TransportFailure where
  | timeout
  | connect
  | other
deriving DecidableEq, Repr

/-- The name of a transport failure. -/
def TransportFailure.name : TransportFailure → String
  | timeout => "timeout"
  | connect => "connect"
  | other => "other"

/-- Why an operation failed. -/
inductive SyncError where
  /-- No response arrived. -/
  | transport (kind : TransportFailure) (detail : String)
  /-- The response has another status than the one that means success. -/
  | unexpectedStatus (operation : Operation) (status : Nat) (body : String)
  /-- The response does not hold what it should. -/
  | malformedResponse (operation : Operation) (reason : String)
deriving DecidableEq, Repr

namespace SyncError

/-- The words for a failure. -/
def message : SyncError → String
  | transport kind detail => "transport error (" ++ kind.name ++ "): " ++ detail
  | unexpectedStatus operation status _ =>
    operation.name ++ ": unexpected status " ++ toString status
  | malformedResponse operation reason => operation.name ++ ": malformed response: " ++ reason

/-- The operation that failed, if a response had arrived. -/
def operation : SyncError → Option Operation
  | transport _ _ => none
  | unexpectedStatus operation _ _ => some operation
  | malformedResponse operation _ => some operation

/-- How many characters of a body a failure keeps. -/
def snippetLength : Nat := 256

/-- The octet at which a text is cut: there begins the first character that a failure does not
keep. -/
def cut? (text : List Char) : Option Nat :=
  (Utf8.charIndices 0 text)[snippetLength]?.map (·.1)

/-- A text with more characters than are kept is cut behind the octets of those. -/
theorem cut?_eq_some_iff {text : List Char} {index : Nat} : cut? text = some index ↔
    snippetLength < text.length ∧
      index = (String.ofList (text.take snippetLength)).utf8ByteSize := by
  rw [cut?, Utf8.getElem?_charIndices, Option.map_map, Option.map_eq_some_iff]
  constructor
  · rintro ⟨c, hc, rfl⟩
    exact ⟨(List.getElem?_eq_some_iff.mp hc).1, Nat.zero_add _⟩
  · rintro ⟨hlong, rfl⟩
    exact ⟨text[snippetLength], List.getElem?_eq_getElem hlong, Nat.zero_add _⟩

/-- A text is cut between two of its characters. -/
theorem isValid_of_cut? {text : List Char} {index : Nat} (h : cut? text = some index) :
    (⟨index⟩ : String.Pos.Raw).IsValid (String.ofList text) :=
  String.Pos.Raw.isValid_ofList.mpr ⟨snippetLength, (cut?_eq_some_iff.mp h).2⟩

/-- The start of a body, with an ellipsis if there is more. -/
def snippet (body : Bytes) : String :=
  let text := String.ofList (Utf8.decodeLossy body)
  match h : cut? (Utf8.decodeLossy body) with
  | some index => (text.sliceTo (text.pos ⟨index⟩ (isValid_of_cut? h))).copy ++ "…"
  | none => text

/-- The failure of an operation whose response has another status than the one that means
success. -/
def ofStatus (operation : Operation) (status : Nat) (body : Bytes) : SyncError :=
  unexpectedStatus operation status (snippet body)

end SyncError

/-- Fails unless the response has the status that means success. -/
def Operation.check (operation : Operation) (response : Response) : Except SyncError Unit :=
  if response.status = operation.successStatus then .ok ()
  else .error (.ofStatus operation response.status response.body)

/-- The record of a fetch response: its status must mean success, and its body must be a valid
record. -/
def decodeRecord (response : Response) : Except SyncError Record :=
  match Operation.fetch.check response with
  | .error e => .error e
  | .ok () =>
    match Record.ofJson response.body with
    | .error e => .error (.malformedResponse .fetch e.message)
    | .ok r => .ok r

end Consent
