import Consent.LoadState

set_option autoImplicit false

/-!
# The client

A client moves from `idle` to `loading`, and from there to `ready` or `failed`; each operation takes
it back to `loading` the moment it is called. Operations are told apart by their *generation*: a
completion changes the state only while its generation is the latest one.

## Main definitions

* `Consent.Client` — the state of a client.
* `Consent.Client.begin` — a new operation.
* `Consent.Client.settle?` — the completion of an operation.
-/

namespace Consent

/-- The state of a client. Generations are natural numbers where a client counts with 64 bits, which
is the same for the first `2 ^ 64 - 1` operations. -/
structure Client where
  /-- What the client shows. -/
  state : LoadState
  /-- The generation of the latest operation. -/
  generation : Nat
  /-- The record of the last ready state, kept across failures. -/
  lastReady : Option Record
deriving DecidableEq, Repr

namespace Client

/-- A client that has done nothing. -/
def fresh : Client := ⟨.idle, 0, none⟩

/-- The client with another state. -/
def transition (c : Client) (next : LoadState) : Client :=
  { c with state := next, lastReady := next.record?.or c.lastReady }

/-- The client with a new operation, whose generation is the latest one. -/
def begin (c : Client) : Client :=
  { c with generation := c.generation + 1 }.transition .loading

/-- The client after the completion of an operation, unless a newer one has begun. -/
def settle? (c : Client) (generation : Nat) (next : LoadState) : Option Client :=
  if c.generation = generation then some (c.transition next) else none

/-- A new operation shows as loading, and leaves the last known record. -/
theorem begin_state (c : Client) :
    c.begin.state = .loading ∧ c.begin.lastReady = c.lastReady ∧
      c.begin.generation = c.generation + 1 := by
  simp [begin, transition, LoadState.record?]

end Client

end Consent
