import Consent.Proofs.Session.Forwarding
import Consent.Proofs.Session.Ownership

set_option autoImplicit false

/-!
# A client and its server

The server keeps one record for the user, or none. A fetch is answered with what it keeps, a
submission replaces it, and a revocation empties it. A request that has been sent takes effect once,
at any time, and then it can be answered, at any time; nothing else answers it. So the requests of
operations that overlap take effect in any order, and so do their replies come in.

What the server does is logged. An effect is *heeded* if the operation that sent the request is the
latest one at that moment.

## Main definitions

* `Consent.Stored` — what a server keeps.
* `Consent.Server` — how a submission replaces it.
* `Consent.Effect` — a request that has taken effect.
* `Consent.World`, `Consent.WorldStep`, `Consent.World.step`, `Consent.World.run` — a client
  with its server.
* `Consent.World.transcript` — what is done in the session.

## Main results

* `Consent.settled_reply` — a fetch that is answered settles what the server keeps.
* `Consent.World.session_run` — the session of a world is a session.
-/

namespace Consent

open Observer

/-- What a server keeps for a user: a record, and the body that stands for it. -/
structure Stored where
  record : Record
  body : Bytes
  /-- The body can be read, and the record is valid. -/
  reads : Record.ofJson body = .ok record
deriving DecidableEq

/-- A server: what it keeps after a submission, given what it has kept and what is sent along. -/
abbrev Server := Option Stored → Option Bytes → Stored

namespace Stored

/-- The body that a fetch is answered with. -/
def bodyOf : Option Stored → Bytes
  | none => Utf8.ofString "null"
  | some stored => stored.body

/-- The record that the server keeps; the empty one if it keeps none. -/
def recordOf : Option Stored → Record
  | none => .empty
  | some stored => stored.record

/-- The body of an answer stands for the record that the server keeps. -/
lemma ofJson_bodyOf (stored : Option Stored) :
    Record.ofJson (bodyOf stored) = .ok (recordOf stored) := by
  cases stored with
  | none => decide +kernel
  | some stored => exact stored.reads

end Stored

/-- What a server keeps after a request. -/
def Server.after (server : Server) (stored : Option Stored) (request : Request) : Option Stored :=
  match request.operation with
  | .fetch => stored
  | .submit => some (server stored request.body)
  | .revoke => none

/-- A request that has taken effect. -/
structure Effect where
  /-- The number of the request. -/
  number : Nat
  /-- The request. -/
  request : Request
  /-- What the server keeps afterwards. -/
  stored : Option Stored
  /-- Whether the operation that sent the request is the latest one. -/
  heeded : Bool

/-- The reply to a request that has taken effect. -/
def Effect.reply (e : Effect) : Reply :=
  match e.request.operation with
  | .fetch => .ok ⟨200, Stored.bodyOf e.stored⟩
  | .submit => .ok (.empty 204)
  | .revoke => .ok (.empty 204)

/-- A fetch that is answered settles the record that the server kept when it took effect. -/
lemma settled_reply {e : Effect} (h : e.request.operation = .fetch) :
    Session.settled e.reply = .ready (Stored.recordOf e.stored) := by
  simp only [Session.settled, Effect.reply, h, Except.bind, decodeRecord, Operation.check,
    Operation.successStatus, if_true, Stored.ofJson_bodyOf]

/-- What is not a fetch is accepted when it is answered. -/
lemma check_reply {e : Effect} (h : e.request.operation.successStatus = 204) :
    e.reply.bind e.request.operation.check = .ok () := by
  have hreply : e.reply = .ok (.empty 204) := by
    rw [Effect.reply]
    cases hop : e.request.operation with
    | fetch => simp [hop, Operation.successStatus] at h
    | submit => rfl
    | revoke => rfl
  simp [hreply, Except.bind, Operation.check, h, Response.empty]

/-- A session, and the server that its requests go to. -/
structure World where
  /-- The session. -/
  session : Session
  /-- What the server keeps. -/
  stored : Option Stored
  /-- The requests that have taken effect, the last one first. -/
  effects : List Effect

/-- What is done in a world. -/
inductive WorldStep where
  /-- Something is done in the session. -/
  | client (x : SessionStep)
  /-- A request takes effect. -/
  | serve (number : Nat)
  /-- The reply to a request comes in. -/
  | answer (number : Nat)

namespace World

/-- A world in which nothing has happened, with what the server keeps. -/
def fresh (endpoint : String) (surface : Surface) (bridge : Bridge) (stored : Option Stored) :
    World :=
  ⟨.fresh endpoint surface bridge [], stored, []⟩

/-- Whether a request was sent by the latest operation. -/
def heeds (s : Session) (number : Nat) : Bool :=
  s.futures.any fun entry =>
    entry.2.generation = s.client.generation && entry.2.sent = some number

/-- What a step does in the session. Replies come from the server only, and only once the request
has taken effect. -/
def sessionStep? (w : World) : WorldStep → Option SessionStep
  | .client (.respond _ _) => none
  | .client x => some x
  | .serve _ => none
  | .answer number =>
    (w.effects.find? (·.number = number)).map fun e => .respond number e.reply

/-- A request takes effect, if it has been sent and has not taken effect yet. -/
def serve (server : Server) (w : World) (number : Nat) : World :=
  match w.session.wire.sent[number]? with
  | none => w
  | some request =>
    if w.effects.any (·.number = number) then w
    else
      let stored := server.after w.stored request
      { w with
        stored := stored
        effects := ⟨number, request, stored, heeds w.session number⟩ :: w.effects }

/-- One step. -/
def step (server : Server) (w : World) (x : WorldStep) : World :=
  match x with
  | .serve number => w.serve server number
  | x =>
    match w.sessionStep? x with
    | none => w
    | some y => { w with session := (w.session.step y).1 }

/-- The world after some steps. -/
def run (server : Server) (w : World) (steps : List WorldStep) : World :=
  steps.foldl (step server) w

/-- What is done in the session. -/
def transcript (server : Server) (w : World) : List WorldStep → List SessionStep
  | [] => []
  | x :: xs => (w.sessionStep? x).toList ++ (w.step server x).transcript server xs

variable (server : Server)

/-- Serving a request does nothing in the session. -/
lemma session_serve (w : World) (number : Nat) : (w.serve server number).session = w.session := by
  rw [serve]
  split
  · rfl
  · split <;> rfl

/-- A request that has been sent takes effect, unless it has. -/
lemma serve_of_sent {w : World} {number : Nat} {request : Request}
    (hrequest : w.session.wire.sent[number]? = some request)
    (hnew : ∀ e ∈ w.effects, e.number ≠ number) :
    w.serve server number = { w with
      stored := server.after w.stored request
      effects := ⟨number, request, server.after w.stored request, heeds w.session number⟩ ::
        w.effects } := by
  have hany : w.effects.any (·.number = number) = false := by simpa using hnew
  simp only [serve, hrequest, hany, Bool.false_eq_true, if_false]

/-- One step, seen from the session. -/
lemma session_step (w : World) (x : WorldStep) :
    (w.step server x).session = w.session.run (w.sessionStep? x).toList := by
  cases x with
  | serve number => exact session_serve server w number
  | client y =>
    simp only [step]
    cases w.sessionStep? (.client y) <;> rfl
  | answer number =>
    simp only [step]
    cases w.sessionStep? (.answer number) <;> rfl

/-- A request that has taken effect is answered. -/
lemma session_answer {w : World} {number : Nat} {e : Effect}
    (he : w.effects.find? (·.number = number) = some e) :
    (w.step server (.answer number)).session = (w.session.step (.respond number e.reply)).1 := by
  rw [session_step, sessionStep?, he]
  rfl

/-- **The session of a world is a session**, in which what the transcript says is done. -/
lemma session_run (w : World) (steps : List WorldStep) :
    (w.run server steps).session = w.session.run (w.transcript server steps) := by
  induction steps generalizing w with
  | nil => rfl
  | cons x xs ih =>
    rw [transcript, Session.run_append, ← session_step]
    exact ih (w.step server x)

end World

end Consent
