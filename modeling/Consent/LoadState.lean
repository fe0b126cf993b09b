import Consent.SyncError

set_option autoImplicit false

/-!
# Load states

What a client shows: nothing yet, that an operation runs, a record, or a failure.

## Main definitions

* `Consent.LoadState` — the state.
* `Consent.LoadState.text` — the state in one line.
-/

namespace Consent

/-- What a client shows. -/
inductive LoadState where
  | idle
  | loading
  | ready (record : Record)
  | failed (error : SyncError)
deriving DecidableEq, Repr

namespace LoadState

/-- Whether an operation runs. -/
def isLoading : LoadState → Bool
  | loading => true
  | _ => false

/-- The record, if one is shown. -/
def record? : LoadState → Option Record
  | ready r => some r
  | _ => none

/-- The failure, if one is shown. -/
def error? : LoadState → Option SyncError
  | failed e => some e
  | _ => none

/-- The name of a state. -/
def label : LoadState → String
  | idle => "idle"
  | loading => "loading"
  | ready _ => "ready"
  | failed _ => "failed"

/-- The state in one line. -/
def text : LoadState → String
  | ready r =>
    "ready (testbed_access=" ++ (if r.testbedAccess then "true" else "false") ++ ", until=" ++
      (if r.validUntil = "" then "-" else r.validUntil) ++ ")"
  | failed e => "failed: " ++ e.message
  | state => state.label

end LoadState

end Consent
