import Consent.Draft

set_option autoImplicit false

/-!
# Operations, requests and responses

One resource on the server answers to three operations: its record is fetched, replaced by a draft,
or revoked. Each has its method and the one status that means success.

## Main definitions

* `Consent.Method`, `Consent.Operation` — what is done, and how it is asked for.
* `Consent.Request`, `Consent.Response` — what is sent and what comes back.
-/

namespace Consent

/-- The method of a request. -/
inductive Method where
  | get
  | put
  | delete
deriving DecidableEq, Repr

/-- The name of a method. -/
def Method.name : Method → String
  | get => "GET"
  | put => "PUT"
  | delete => "DELETE"

/-- What a client does with the resource. -/
inductive Operation where
  | fetch
  | submit
  | revoke
deriving DecidableEq, Repr

namespace Operation

/-- The name of an operation. -/
def name : Operation → String
  | fetch => "fetch"
  | submit => "submit"
  | revoke => "revoke"

/-- The method that asks for an operation. -/
def method : Operation → Method
  | fetch => .get
  | submit => .put
  | revoke => .delete

/-- The only status that means success. -/
def successStatus : Operation → Nat
  | fetch => 200
  | submit => 204
  | revoke => 204

end Operation

/-- The path of the resource about data protection. -/
def gdprEndpoint : String := "/gdpr/accept"

/-- A request, whatever carries it. -/
structure Request where
  /-- What is asked for. -/
  operation : Operation
  /-- The path of the resource. -/
  path : String
  /-- What is sent along. -/
  body : Option Bytes
deriving DecidableEq, Repr

namespace Request

/-- Asks for the record. -/
def fetch (endpoint : String) : Request := ⟨.fetch, endpoint, none⟩

/-- Asks to replace the answers by a draft. -/
def submit (endpoint : String) (draft : Draft) : Request :=
  ⟨.submit, endpoint, some (Utf8.ofString draft.json)⟩

/-- Asks to revoke every answer. -/
def revoke (endpoint : String) : Request := ⟨.revoke, endpoint, none⟩

/-- The method of a request. -/
def method (r : Request) : Method := r.operation.method

/-- The type of what is sent along. -/
def contentType (r : Request) : Option String := r.body.map fun _ => "application/json"

end Request

/-- A response, whatever carried it. -/
structure Response where
  /-- The status, below `2 ^ 16`. -/
  status : Nat
  /-- What came along. -/
  body : Bytes
deriving DecidableEq, Repr

namespace Response

/-- A response without a body. -/
def empty (status : Nat) : Response := ⟨status, []⟩

/-- A response with a JSON value. -/
def json (status : Nat) (value : Json.Value) : Response := ⟨status, Utf8.encode value.write⟩

end Response

end Consent
