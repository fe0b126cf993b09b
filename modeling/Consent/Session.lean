import Consent.Client
import Consent.Observer.Host
import Consent.Surface

set_option autoImplicit false

/-!
# Sessions

A session is a client with everything around it: the host with its observers and the bridge, the
surface that the client shows its states on, the wire that its requests go over, and the *futures*,
operations that have been called and not completed.

A future moves only when it is polled. Its request is sent at the first poll, and the poll that
finds a reply completes the exchange. A submission or a revocation that succeeds goes on with one
load, unless it has been superseded; so records always come from the server.

## Main definitions

* `Consent.Reply`, `Consent.Wire` — replies, and the requests they answer.
* `Consent.Future` — an operation under way.
* `Consent.Output` — the texts that are shown and the calls of observers, in one order.
* `Consent.Session` — the state of a session.
* `Consent.Session.receive`, `Consent.Session.consume` — a reply is looked for, and used.
* `Consent.SessionStep`, `Consent.SessionOutcome` — what is done, and what comes of it.
* `Consent.Session.step`, `Consent.Session.run` — one step, and all steps.
* `Consent.Session.Report` — what can be seen after a step.
-/

namespace Consent

open Observer

/-- What comes back for a request. -/
abbrev Reply := Except SyncError Response

/-- The requests sent so far, numbered from 0, and the replies that are there for them. -/
structure Wire where
  /-- The requests, in the order in which they were sent. -/
  sent : List Request
  /-- The replies that are known in advance, by the number of the request. -/
  scripted : List (Option Reply)
  /-- The replies that came in later and have not been used. -/
  arrived : List (Nat × Reply)

namespace Wire

/-- A wire that no request went over. -/
def fresh (scripted : List (Option Reply)) : Wire := ⟨[], scripted, []⟩

/-- The wire after a request, with its number and the reply that is known in advance. -/
def send (w : Wire) (request : Request) : Wire × Nat × Option Reply :=
  let number := w.sent.length
  ({ w with sent := w.sent ++ [request] }, number, (w.scripted[number]?).join)

/-- A reply comes in for a request that was sent; it replaces one that has not been used. -/
def arrive? (w : Wire) (number : Nat) (reply : Reply) : Option Wire :=
  if number < w.sent.length then
    some { w with arrived := (number, reply) :: w.arrived.filter fun entry => entry.1 ≠ number }
  else none

/-- Takes the reply to a request, if it has come in. -/
def take (w : Wire) (number : Nat) : Wire × Option Reply :=
  ({ w with arrived := w.arrived.filter fun entry => entry.1 ≠ number },
    List.lookup number w.arrived)

end Wire

/-- An operation that has been called and not completed. What it waits for is the number of its
request, or nothing when the request has not been sent. -/
inductive Future where
  /-- A load. -/
  | load (generation : Nat) (sent : Option Nat)
  /-- A submission or a revocation. -/
  | mutation (generation : Nat) (request : Request) (sent : Option Nat)
  /-- The load that follows a successful submission or revocation. -/
  | reload (generation : Nat) (sent : Nat)
deriving DecidableEq, Repr

/-- What polling a future comes to. -/
inductive Poll where
  /-- The future is not done, and goes on as the given one. -/
  | pending (f : Future)
  /-- A load is done, and gives the client's state. -/
  | loaded (state : LoadState)
  /-- A submission or a revocation is done. -/
  | done
deriving DecidableEq, Repr

namespace Future

/-- The generation of the operation. -/
def generation : Future → Nat
  | load generation _ => generation
  | mutation generation _ _ => generation
  | reload generation _ => generation

/-- The number of the request, if it has been sent. -/
def sent : Future → Option Nat
  | load _ sent => sent
  | mutation _ _ sent => sent
  | reload _ sent => some sent

/-- The request whose reply the future waits for. -/
def request (endpoint : String) : Future → Request
  | load _ _ => .fetch endpoint
  | mutation _ request _ => request
  | reload _ _ => .fetch endpoint

/-- The future once its request has a number. -/
def waitingFor (number : Nat) : Future → Future
  | load generation _ => load generation (some number)
  | mutation generation request _ => mutation generation request (some number)
  | reload generation _ => reload generation number

end Future

/-- A call of an observer, as it is noted. -/
structure Note where
  /-- The reference that the call went over. -/
  handle : Handle
  /-- The observer's name. -/
  observer : String
  /-- What the observer is told. -/
  verdict : Verdict
  /-- The client's state during the call. -/
  state : LoadState
  /-- Whether the observer looks at the client's state. -/
  looks : Bool
deriving DecidableEq, Repr

/-- A note in one line. -/
def Note.text (n : Note) : String :=
  n.observer ++ ":" ++
    (match n.verdict with
      | .approve expiry => "approve(" ++ expiry ++ ")"
      | .decline => "decline()") ++
    if n.looks then " in " ++ n.state.label else ""

/-- What a session puts out. -/
inductive Output where
  /-- A text that the surface shows. -/
  | shown (text : String)
  /-- A call of an observer. -/
  | told (note : Note)
deriving DecidableEq, Repr

namespace Output

/-- The text, if one is shown. -/
@[simp] def text? : Output → Option String
  | shown text => some text
  | told _ => none

/-- The note, if an observer is called. -/
@[simp] def note? : Output → Option Note
  | shown _ => none
  | told note => some note

end Output

/-- The state of a session. -/
structure Session where
  /-- The path of the resource. -/
  endpoint : String
  /-- The client. -/
  client : Client
  /-- What the client shows its states on. -/
  surface : Surface
  /-- The host. -/
  host : Host
  /-- The wire. -/
  wire : Wire
  /-- The futures. -/
  futures : Table Future
  /-- How many loads observers have called for. -/
  reentered : Nat
  /-- The states shown so far. -/
  rendered : List LoadState
  /-- What has been put out so far, in the order in which it came. -/
  output : List Output

/-- What is done in a session. -/
inductive SessionStep where
  | host (step : HostStep)
  | load (name : String)
  | start (name : String)
  | submit (name : String) (draft : Draft)
  | revoke (name : String)
  /-- Submits the answers of the last known record. -/
  | resubmit (name : String)
  | poll (name : String)
  | dropFuture (name : String)
  | respond (request : Nat) (reply : Reply)

/-- What comes of a step. -/
inductive SessionOutcome where
  | host (outcome : Outcome)
  | nothing
  | flag (b : Bool)
  | started
  | noSuchFuture
  | noSuchRequest
  | pending
  | loaded (state : LoadState)
  | done

namespace Session

/-- A session in which nothing has happened. -/
def fresh (endpoint : String) (surface : Surface) (bridge : Bridge)
    (scripted : List (Option Reply)) : Session where
  endpoint := endpoint
  client := .fresh
  surface := surface
  host := .fresh bridge
  wire := .fresh scripted
  futures := []
  reentered := 0
  rendered := []
  output := []

/-- The texts shown so far. -/
def shown (s : Session) : List String := s.output.filterMap Output.text?

/-- The calls of observers so far. -/
def notes (s : Session) : List Note := s.output.filterMap Output.note?

/-- The session with a client that has moved to another state, which is shown. -/
def showing (s : Session) (client : Client) : Session :=
  let (surface, text) := s.surface.render client.state
  { s with
    client := client
    surface := surface
    rendered := s.rendered ++ [client.state]
    output := s.output ++ text.toList.map .shown }

/-- The session with one more call of an observer. -/
def noted (s : Session) (n : Note) : Session := { s with output := s.output ++ [.told n] }

/-- A client that is shown adds the text of its state. -/
@[simp] theorem shown_showing (s : Session) (client : Client) :
    (s.showing client).shown = s.shown ++ (s.surface.render client.state).2.toList := by
  simp [showing, shown, Function.comp_def]

/-- A client that is shown calls no observer. -/
@[simp] theorem notes_showing (s : Session) (client : Client) :
    (s.showing client).notes = s.notes := by
  simp [showing, notes, Function.comp_def]

/-- A call of an observer shows nothing. -/
@[simp] theorem shown_noted (s : Session) (n : Note) : (s.noted n).shown = s.shown := by
  simp [noted, shown]

/-- A call of an observer is noted behind those before. -/
@[simp] theorem notes_noted (s : Session) (n : Note) : (s.noted n).notes = s.notes ++ [n] := by
  simp [noted, notes]

/-- Begins an operation: the session after it, and the operation's generation. -/
def begin (s : Session) : Session × Nat :=
  let s := s.showing s.client.begin
  (s, s.client.generation)

/-- Calls a load under a name. -/
def callLoad (s : Session) (name : String) : Session :=
  let (s, generation) := s.begin
  { s with futures := s.futures.put name (.load generation none) }

/-- The name of the next future of an observer. -/
def reentryName (s : Session) : String := "re" ++ toString s.reentered

/-- The note of a call. -/
def note (s : Session) (call : Call) : Note :=
  ⟨call.handle, call.observer, call.verdict, s.client.state, call.reaction = .state⟩

/-- Does what an observer does inside a call. -/
def react (s : Session) : Reaction → Session
  | .load => { s.callLoad s.reentryName with reentered := s.reentered + 1 }
  | .nothing | .state => s

/-- Notes a call of an observer, and does what the observer does inside it. -/
def noting (s : Session) : Option Call → Session
  | none => s
  | some call => (s.noted (s.note call)).react call.reaction

/-- The session after its bridge has given out a ticket, with the ticket. -/
def takeTicket (s : Session) : Session × Ticket :=
  let (bridge, ticket) := s.host.bridge.takeTicket
  ({ s with host := { s.host with bridge := bridge } }, ticket)

/-- Forwards a record to the host's observer. -/
def forward (s : Session) (t : Ticket) (r : Record) : Session :=
  let (host, call) := s.host.notifyAt t r
  { s with host := host }.noting call

/-- Settles an operation. A record that is settled takes its ticket before the state is shown, and
is forwarded to the host's observer afterwards. -/
def settle (s : Session) (generation : Nat) (next : LoadState) : Session :=
  match s.client.settle? generation next with
  | none => s
  | some client =>
    match next.record? with
    | none => s.showing client
    | some r =>
      let (s, ticket) := s.takeTicket
      (s.showing client).forward ticket r

/-- Sends a request if it has not been sent, and looks for its reply. -/
def exchange (s : Session) (request : Request) : Option Nat → Session × Nat × Option Reply
  | none =>
    let (wire, number, reply) := s.wire.send request
    ({ s with wire := wire }, number, reply)
  | some number =>
    let (wire, reply) := s.wire.take number
    ({ s with wire := wire }, number, reply)

/-- The state that a reply to a fetch settles. -/
def settled (reply : Reply) : LoadState :=
  match reply.bind decodeRecord with
  | .ok r => .ready r
  | .error e => .failed e

/-- Begins the load that follows a submission or a revocation, and polls it. -/
def reload (s : Session) : Session × Poll :=
  let begun := s.begin
  match begun.1.exchange (.fetch s.endpoint) none with
  | (s, number, none) => (s, .pending (.reload begun.2 number))
  | (s, _, some reply) => (s.settle begun.2 (settled reply), .done)

/-- What a future does with its reply. A submission or a revocation that has been accepted goes on
with a load, unless a newer operation has begun. -/
def consume (s : Session) (f : Future) (reply : Reply) : Session × Poll :=
  match f with
  | .load generation _ =>
    let s := s.settle generation (settled reply)
    (s, .loaded s.client.state)
  | .reload generation _ => (s.settle generation (settled reply), .done)
  | .mutation generation request _ =>
    match reply.bind request.operation.check with
    | .error e => (s.settle generation (.failed e), .done)
    | .ok () => if s.client.generation = generation then s.reload else (s, .done)

/-- Sends the request of a future if it has not been sent, and looks for its reply. -/
def receive (s : Session) (f : Future) : Session × Nat × Option Reply :=
  s.exchange (f.request s.endpoint) f.sent

/-- Polls a future. -/
def pollFuture (s : Session) (f : Future) : Session × Poll :=
  match s.receive f with
  | (s, number, none) => (s, .pending (f.waitingFor number))
  | (s, _, some reply) => s.consume f reply

/-- Calls a submission or a revocation under a name. -/
def callMutation (s : Session) (name : String) (request : Request) : Session :=
  let (s, generation) := s.begin
  { s with futures := s.futures.put name (.mutation generation request none) }

/-- The session without a named future. -/
def without (s : Session) (name : String) : Session := { s with futures := s.futures.erase name }

/-- The session after a poll, in which a future that is not done is kept under its name. -/
def keep (name : String) : Session × Poll → Session × SessionOutcome
  | (s, .pending future) => ({ s with futures := s.futures.put name future }, .pending)
  | (s, .loaded state) => (s, .loaded state)
  | (s, .done) => (s, .done)

/-- Polls a named future. -/
def poll (s : Session) (name : String) : Session × SessionOutcome :=
  match s.futures.find? name with
  | none => (s, .noSuchFuture)
  | some future => keep name ((s.without name).pollFuture future)

/-- One step: the session after it, and what comes of it. -/
def step (s : Session) : SessionStep → Session × SessionOutcome
  | .host step =>
    let (host, outcome, call) := s.host.step step
    ({ s with host := host }.noting call, .host outcome)
  | .load name => (s.callLoad name, .nothing)
  | .start name => ({ s with host := (s.host.arm false).1 }.callLoad name, .nothing)
  | .submit name draft => (s.callMutation name (.submit s.endpoint draft), .nothing)
  | .revoke name => (s.callMutation name (.revoke s.endpoint), .nothing)
  | .resubmit name =>
    match s.client.lastReady with
    | none => (s, .nothing)
    | some r => (s.callMutation name (.submit s.endpoint r.draft), .started)
  | .poll name => s.poll name
  | .dropFuture name => (s.without name, .flag (s.futures.has name))
  | .respond request reply =>
    match s.wire.arrive? request reply with
    | none => (s, .noSuchRequest)
    | some wire => ({ s with wire := wire }, .nothing)

/-- What can be seen after a step. -/
structure Report where
  /-- What came of the step. -/
  outcome : SessionOutcome
  /-- The session after the step. -/
  session : Session
  /-- The texts shown during the step. -/
  shown : List String
  /-- The requests sent during the step. -/
  sent : List Request
  /-- The calls of observers during the step. -/
  notes : List Note

/-- Takes a step and reports it. -/
def reportStep (s : Session) (step : SessionStep) : Report :=
  let (after, outcome) := s.step step
  ⟨outcome, after, after.shown.drop s.shown.length, after.wire.sent.drop s.wire.sent.length,
    after.notes.drop s.notes.length⟩

/-- The reports of some steps, one after the other. -/
def reports (s : Session) : List SessionStep → List Report
  | [] => []
  | step :: steps =>
    let report := s.reportStep step
    report :: report.session.reports steps

/-- The session after some steps. -/
def run (s : Session) (steps : List SessionStep) : Session :=
  steps.foldl (fun s step => (s.step step).1) s

end Session

end Consent
