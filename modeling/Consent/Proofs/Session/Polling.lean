import Consent.Session
import Mathlib.Tactic.Lemma

set_option autoImplicit false

/-!
# Polling a future

What the parts of a poll do to a session: looking for a reply changes nothing but the wire, and
a reply is used by settling, unless the operation has been superseded.

## Main definitions

* `Consent.Session.withWire` — a session with another wire.
* `Consent.Poll.outcome` — what comes of a step that polls a future.
* `Consent.Future.lapse` — what a future comes to when its reply has no effect.

## Main results

* `Consent.Session.settle_of_superseded` — a superseded operation settles nothing.
* `Consent.Session.receive_eq` — looking for a reply touches the wire only.
* `Consent.Session.consume_of_superseded` — a superseded operation drops its reply.
* `Consent.Session.poll_of_reply` — a poll that finds a reply uses it.
-/

namespace Consent

open Observer

/-- What a future comes to when its reply has no effect, in a client with the given state. -/
def Future.lapse (state : LoadState) : Future → Poll
  | .load _ _ => .loaded state
  | .mutation _ _ _ => .done
  | .reload _ _ => .done

/-- What comes of a step that polls a future. -/
def Poll.outcome : Poll → SessionOutcome
  | .pending _ => .pending
  | .loaded state => .loaded state
  | .done => .done

namespace Session

/-- The session with another wire. -/
def withWire (s : Session) (w : Wire) : Session := { s with wire := w }

variable {s : Session}

/-! ### Settling -/

/-- A superseded operation settles nothing. -/
lemma settle_of_superseded {generation : Nat} (h : s.client.generation ≠ generation)
    (next : LoadState) : s.settle generation next = s := by
  simp [settle, Client.settle?, h]

/-! ### Looking for a reply -/

/-- Looking for a reply touches the wire only. -/
lemma exchange_eq (s : Session) (request : Request) (sent : Option Nat) :
    (s.exchange request sent).1 = s.withWire (s.exchange request sent).1.wire := by
  cases sent <;> rfl

/-- A request is sent unless it has been. -/
lemma exchange_sent (s : Session) (request : Request) (sent : Option Nat) :
    (s.exchange request sent).1.wire.sent =
      if sent.isSome then s.wire.sent else s.wire.sent ++ [request] := by
  cases sent <;> rfl

/-- Looking for the reply of a future touches the wire only. -/
lemma receive_eq {f : Future} {s' : Session} {number : Nat} {reply : Option Reply}
    (h : s.receive f = (s', number, reply)) : s' = s.withWire s'.wire := by
  have := exchange_eq s (f.request s.endpoint) f.sent
  rwa [← receive, h] at this

/-- A future sends its request unless it has been sent. -/
lemma receive_sent {f : Future} {s' : Session} {number : Nat} {reply : Option Reply}
    (h : s.receive f = (s', number, reply)) :
    s'.wire.sent =
      if f.sent.isSome then s.wire.sent else s.wire.sent ++ [f.request s.endpoint] := by
  have := exchange_sent s (f.request s.endpoint) f.sent
  rwa [← receive, h] at this

/-! ### Using a reply -/

/-- **A superseded operation drops its reply**, whatever the reply is.

**Proof sketch.** A load and a failure are settled, which checks the generation; an accepted
submission or revocation checks it itself before it goes on. -/
lemma consume_of_superseded {f : Future} (h : f.generation ≠ s.client.generation)
    (reply : Reply) : s.consume f reply = (s, f.lapse s.client.state) := by
  cases f with
  | load generation _ =>
    have h : s.client.generation ≠ generation := Ne.symm h
    simp only [consume, settle_of_superseded h, Future.lapse]
  | reload generation _ =>
    have h : s.client.generation ≠ generation := Ne.symm h
    simp only [consume, settle_of_superseded h, Future.lapse]
  | mutation generation request _ =>
    have h : s.client.generation ≠ generation := Ne.symm h
    cases hr : reply.bind request.operation.check with
    | error e => simp only [consume, hr, settle_of_superseded h, Future.lapse]
    | ok _ => simp only [consume, hr, if_neg h, Future.lapse]

/-- What is done with a reply does not depend on the number of the request. -/
lemma consume_waitingFor (s : Session) (f : Future) (number : Nat) (reply : Reply) :
    s.consume (f.waitingFor number) reply = s.consume f reply := by
  cases f <;> rfl

/-- The load after a submission or a revocation waits when no reply is there. -/
lemma reload_of_waiting {s' : Session} {number : Nat}
    (h : s.begin.1.exchange (.fetch s.endpoint) none = (s', number, none)) :
    s.reload = (s', .pending (.reload s.begin.2 number)) := by
  simp only [reload, h]

/-- The load after a submission or a revocation uses a reply that is there. -/
lemma reload_of_reply {s' : Session} {number : Nat} {reply : Reply}
    (h : s.begin.1.exchange (.fetch s.endpoint) none = (s', number, some reply)) :
    s.reload = (s'.settle s.begin.2 (settled reply), .done) := by
  simp only [reload, h]

/-- A future whose reply has no effect is done, and not kept. -/
lemma keep_lapse (name : String) (f : Future) (state : LoadState) :
    keep name (s, f.lapse state) = (s, (f.lapse state).outcome) := by
  cases f <;> rfl

/-- A poll that finds a reply uses it. -/
lemma poll_of_reply {name : String} {f : Future} {s' : Session} {number : Nat} {reply : Reply}
    (hf : s.futures.find? name = some f)
    (h : (s.without name).receive f = (s', number, some reply)) :
    s.poll name = keep name (s'.consume f reply) := by
  simp only [poll, hf, pollFuture, h]

end Session

end Consent
