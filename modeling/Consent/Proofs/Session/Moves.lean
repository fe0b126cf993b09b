import Consent.Proofs.Session.Polling

set_option autoImplicit false

/-!
# What a step does to the client

Of all that happens in a session, the client has to do with little: operations begin, requests are
sent, replies are used, and states are shown. This module lists what can happen to the client in one
step, as a list of *events*, and cuts each step into *moves*, each of which changes the client, its
futures and the requests in one way. What holds in every reachable session is then proved move by
move.

## Main definitions

* `Consent.Event` — what happens to the client.
* `Consent.Future.result` — what a future settles with a reply.
* `Consent.Session.called` — the future that a step calls.
* `Consent.Session.events`, `Consent.Session.eventsIn` — the events of a step and of a run.
* `Consent.Session.Move`, `Consent.Session.Moves` — one move, and some moves, with their events.
* `Consent.Session.Change` — what a move does to the client and its futures.

## Main results

* `Consent.Session.step_cases_moves` — a step drops a future, or is a sequence of moves.
* `Consent.Session.reentered_step` — how many loads observers call for in a step.
-/

namespace Consent

open Observer

/-- Whether a state is the outcome of an operation. -/
def LoadState.isSettled : LoadState → Bool
  | .ready _ => true
  | .failed _ => true
  | .idle => false
  | .loading => false

/-- What happens to the client. -/
inductive Event where
  /-- An operation is called. -/
  | called
  /-- An accepted submission or revocation goes on with a load. -/
  | reloaded
  /-- An observer has the client load. -/
  | reentered
  /-- The operation of a generation settles a state. -/
  | settled (generation : Nat) (state : LoadState)
deriving DecidableEq, Repr

namespace Event

/-- The state that is shown. -/
def shown : Event → LoadState
  | settled _ state => state
  | called => .loading
  | reloaded => .loading
  | reentered => .loading

/-- The generation that settles. -/
def generation? : Event → Option Nat
  | settled generation _ => some generation
  | called => none
  | reloaded => none
  | reentered => none

end Event

namespace Future

/-- The state that a future settles with a reply; none when a submission or a revocation has been
accepted, and goes on. -/
def result : Future → Reply → Option LoadState
  | load _ _, reply => some (Session.settled reply)
  | reload _ _, reply => some (Session.settled reply)
  | mutation _ request _, reply =>
    match reply.bind request.operation.check with
    | .error e => some (.failed e)
    | .ok () => none

/-- What a future settles is the outcome of an operation. -/
lemma isSettled_of_result {f : Future} {reply : Reply} {next : LoadState}
    (h : f.result reply = some next) : next.isSettled = true := by
  have hfetch : (Session.settled reply).isSettled = true := by
    rw [Session.settled]
    split <;> rfl
  cases f with
  | load _ _ => exact Option.some.inj h ▸ hfetch
  | reload _ _ => exact Option.some.inj h ▸ hfetch
  | mutation _ request _ =>
    simp only [result] at h
    split at h
    · exact Option.some.inj h ▸ rfl
    · simp at h

/-- Sending its request does not change the generation of a future. -/
@[simp] lemma generation_waitingFor (f : Future) (number : Nat) :
    (f.waitingFor number).generation = f.generation := by
  cases f <;> rfl

/-- Sending its request gives a future something to wait for. -/
@[simp] lemma sent_waitingFor (f : Future) (number : Nat) :
    (f.waitingFor number).sent = some number := by
  cases f <;> rfl

/-- Sending its request does not change what a future settles. -/
@[simp] lemma result_waitingFor (f : Future) (number : Nat) :
    (f.waitingFor number).result = f.result := by
  cases f <;> rfl

/-- Sending its request does not change the request of a future. -/
@[simp] lemma request_waitingFor (f : Future) (number : Nat) (endpoint : String) :
    (f.waitingFor number).request endpoint = f.request endpoint := by
  cases f <;> rfl

/-- A future that waits for a request goes on waiting for it. -/
lemma waitingFor_of_sent {f : Future} {number : Nat} (h : f.sent = some number) :
    f.waitingFor number = f := by
  cases f <;> simp_all [sent, waitingFor]

end Future

/-- A reply that comes in changes nothing but the replies that have come in. -/
lemma Wire.arrive?_eq_some {v w : Wire} {number : Nat} {reply : Reply}
    (h : v.arrive? number reply = some w) :
    w = { v with
      arrived := (number, reply) :: v.arrived.filter fun entry => entry.1 ≠ number } := by
  rw [arrive?] at h
  split at h
  · exact (Option.some.inj h).symm
  · simp at h

namespace Session

/-! ### Calls and events -/

/-- The future that a step calls, with its name. -/
def called (s : Session) : SessionStep → Option (String × Future)
  | .load name => some (name, .load (s.client.generation + 1) none)
  | .start name => some (name, .load (s.client.generation + 1) none)
  | .submit name draft =>
    some (name, .mutation (s.client.generation + 1) (.submit s.endpoint draft) none)
  | .revoke name => some (name, .mutation (s.client.generation + 1) (.revoke s.endpoint) none)
  | .resubmit name =>
    s.client.lastReady.map fun r =>
      (name, .mutation (s.client.generation + 1) (.submit s.endpoint r.draft) none)
  | .host _ => none
  | .poll _ => none
  | .dropFuture _ => none
  | .respond _ _ => none

/-- The events of the load that follows a submission or a revocation. -/
def reloadEvents (s : Session) : List Event :=
  .reloaded ::
    match s.wire.scripted[s.wire.sent.length]?.join with
    | none => []
    | some reply => [.settled (s.client.generation + 1) (settled reply)]

/-- The events of a future that uses its reply. -/
def consumeEvents (s : Session) (f : Future) (reply : Reply) : List Event :=
  if s.client.generation = f.generation then
    match f.result reply with
    | some next => [.settled f.generation next]
    | none => s.reloadEvents
  else []

/-- The events of a poll, up to what observers do. -/
def pollEvents (s : Session) (name : String) : List Event :=
  match s.futures.find? name with
  | none => []
  | some f =>
    match (s.without name).receive f with
    | (_, _, none) => []
    | (s, _, some reply) => s.consumeEvents f reply

/-- The events of a step, up to what observers do. -/
def ownEvents (s : Session) : SessionStep → List Event
  | .poll name => s.pollEvents name
  | x => if (s.called x).isSome then [.called] else []

/-- The events of a step. What an observer does inside a call comes last. -/
def events (s : Session) (x : SessionStep) : List Event :=
  s.ownEvents x ++ List.replicate ((s.step x).1.reentered - s.reentered) .reentered

/-- The events of a run. -/
def eventsIn (s : Session) : List SessionStep → List Event
  | [] => []
  | x :: xs => s.events x ++ (s.step x).1.eventsIn xs

/-- A future that is called belongs to a new generation, and has sent nothing. -/
lemma called_generation {s : Session} {x : SessionStep} {name : String} {f : Future}
    (h : s.called x = some (name, f)) :
    f.generation = s.client.generation + 1 ∧ f.sent = none := by
  cases x with
  | resubmit other =>
    obtain ⟨r, -, hr⟩ := Option.map_eq_some_iff.mp h
    obtain ⟨-, rfl⟩ := Prod.mk.inj hr
    exact ⟨rfl, rfl⟩
  | host _ => simp [called] at h
  | poll _ => simp [called] at h
  | dropFuture _ => simp [called] at h
  | respond _ _ => simp [called] at h
  | _ =>
    obtain ⟨-, rfl⟩ := Prod.mk.inj (Option.some.inj h)
    exact ⟨rfl, rfl⟩

/-! ### Moves -/

/-- The client, its futures and the requests are the same. -/
structure Beside (s t : Session) : Prop where
  endpoint : t.endpoint = s.endpoint
  client : t.client = s.client
  rendered : t.rendered = s.rendered
  futures : t.futures = s.futures
  reentered : t.reentered = s.reentered
  sent : t.wire.sent = s.wire.sent
  scripted : t.wire.scripted = s.wire.scripted

/-- A session is beside itself. -/
lemma Beside.refl (s : Session) : s.Beside s := ⟨rfl, rfl, rfl, rfl, rfl, rfl, rfl⟩

/-- The session after a new operation, whose future has a name. -/
def calling (s : Session) (name : String) (f : Future) : Session :=
  { s.begin.1 with futures := s.futures.put name f }

/-- The session after a future has sent its request. -/
def sending (s : Session) (name : String) (f : Future) : Session :=
  { s with
    wire := (s.wire.send (f.request s.endpoint)).1
    futures := s.futures.put name (f.waitingFor s.wire.sent.length) }

/-- The session after a future has settled a state. -/
def settling (s : Session) (name : String) (next : LoadState) : Session :=
  (s.without name).showing (s.client.transition next)

/-- The session after a load has begun and sent its request. -/
def refetching (s : Session) : Session :=
  { s.begin.1 with wire := (s.wire.send (.fetch s.endpoint)).1 }

/-- The session after an accepted submission or revocation has gone on with a load. -/
def reloading (s : Session) (name : String) : Session :=
  { s.refetching with
    futures := s.futures.put name (.reload (s.client.generation + 1) s.wire.sent.length) }

section Moves

/- The replies that may be used, by the number of the request. -/
variable (offered : Nat → Reply → Prop)

/-- One move, with its events. -/
inductive Move : Session → List Event → Session → Prop where
  | beside {s t : Session} (h : s.Beside t) : Move s [] t
  | call {s : Session} {x : SessionStep} {name : String} {f : Future}
      (hcall : s.called x = some (name, f)) : Move s [.called] (s.calling name f)
  | reenter (s : Session) : Move s [.reentered] (s.react .load)
  | send {s : Session} {name : String} {f : Future} (hf : s.futures.find? name = some f)
      (hsent : f.sent = none) : Move s [] (s.sending name f)
  | wait {s : Session} {name : String} {f : Future} (hf : s.futures.find? name = some f) :
      Move s [] { s with futures := s.futures.put name f }
  | lapse {s : Session} {name : String} {f : Future} (hf : s.futures.find? name = some f)
      (hold : s.client.generation ≠ f.generation) : Move s [] (s.without name)
  | settle {s : Session} {name : String} {f : Future} {number : Nat} {reply : Reply}
      {next : LoadState} (hf : s.futures.find? name = some f)
      (hlatest : s.client.generation = f.generation) (hsent : f.sent = some number)
      (hreply : offered number reply) (hresult : f.result reply = some next) :
      Move s [.settled f.generation next] (s.settling name next)
  | reload {s : Session} {name : String} {f : Future} {number : Nat} {reply : Reply}
      (hf : s.futures.find? name = some f) (hlatest : s.client.generation = f.generation)
      (hsent : f.sent = some number) (hreply : offered number reply)
      (hresult : f.result reply = none) : Move s [.reloaded] (s.reloading name)

/-- Some moves, with their events. -/
inductive Moves : Session → List Event → Session → Prop where
  | nil (s : Session) : Moves s [] s
  | cons {s t u : Session} {es es' : List Event} (h : Move offered s es t)
      (hs : Moves t es' u) : Moves s (es ++ es') u

end Moves

variable {offered : Nat → Reply → Prop} {s t u : Session}

/-- One move is a sequence of moves. -/
lemma Move.moves {es : List Event} (h : Move offered s es t) : Moves offered s es t := by
  simpa using Moves.cons h (.nil t)

/-- Moves add up. -/
lemma Moves.append {es es' : List Event} (h : Moves offered s es t) (h' : Moves offered t es' u) :
    Moves offered s (es ++ es') u := by
  induction h with
  | nil s => exact h'
  | cons h _ ih => exact List.append_assoc .. ▸ .cons h (ih h')

/-- What does not matter to the client may come first. -/
lemma Beside.moves {es : List Event} (h : s.Beside t) (h' : Moves offered t es u) :
    Moves offered s es u :=
  .cons (.beside h) h'

/-- What does not matter to the client may come last. -/
lemma Moves.beside {es : List Event} (h : Moves offered s es t) (h' : t.Beside u) :
    Moves offered s es u := by
  simpa using h.append (Move.beside h').moves

/-- What a move does to the client and its futures: nothing, a future goes on, a superseded one
completes, an operation begins, or the latest operation settles. -/
inductive Change (s t : Session) : List Event → Prop where
  | same (hclient : t.client = s.client) (hrendered : t.rendered = s.rendered)
      (hfutures : t.futures = s.futures) : Change s t []
  | goesOn {name : String} {f g : Future} (hf : s.futures.find? name = some f)
      (hg : g.generation = f.generation) (hclient : t.client = s.client)
      (hrendered : t.rendered = s.rendered) (hfutures : t.futures = s.futures.put name g) :
      Change s t []
  | lapses {name : String} {f : Future} (hf : s.futures.find? name = some f)
      (hold : s.client.generation ≠ f.generation) (hclient : t.client = s.client)
      (hrendered : t.rendered = s.rendered) (hfutures : t.futures = s.futures.erase name) :
      Change s t []
  | begins {name : String} {g : Future} {e : Event} (he : e.shown = .loading ∧ e.generation? = none)
      (hg : g.generation = s.client.generation + 1) (hclient : t.client = s.client.begin)
      (hrendered : t.rendered = s.rendered ++ [.loading])
      (hfutures : t.futures = s.futures.put name g) : Change s t [e]
  | settles {name : String} {f : Future} {next : LoadState} (hf : s.futures.find? name = some f)
      (hlatest : s.client.generation = f.generation) (hnext : next.isSettled = true)
      (hclient : t.client = s.client.transition next)
      (hrendered : t.rendered = s.rendered ++ [next])
      (hfutures : t.futures = s.futures.erase name) : Change s t [.settled f.generation next]

/-- What a move does to the client and its futures. -/
lemma Move.change {es : List Event} (h : Move offered s es t) : Change s t es := by
  cases h with
  | beside h => exact .same h.client h.rendered h.futures
  | call hcall => exact .begins ⟨rfl, rfl⟩ (called_generation hcall).1 rfl rfl rfl
  | reenter => exact .begins ⟨rfl, rfl⟩ rfl rfl rfl rfl
  | send hf _ => exact .goesOn hf (by simp) rfl rfl rfl
  | wait hf => exact .goesOn hf rfl rfl rfl rfl
  | lapse hf hold => exact .lapses hf hold rfl rfl rfl
  | settle hf hlatest _ _ hresult =>
    exact .settles hf hlatest (Future.isSettled_of_result hresult) rfl rfl rfl
  | reload _ _ _ _ _ => exact .begins ⟨rfl, rfl⟩ rfl rfl rfl rfl

/-! ### Cutting a step into moves -/

variable (offered) in
/-- A call of an observer is at most one new load. -/
lemma noting_moves (s : Session) (call : Option Call) :
    ∃ k, Moves offered s (List.replicate k .reentered) (s.noting call) := by
  cases call with
  | none => exact ⟨0, .nil s⟩
  | some call =>
    have hnote : s.Beside (s.noted (s.note call)) :=
      ⟨rfl, rfl, rfl, rfl, rfl, rfl, rfl⟩
    simp only [noting]
    cases call.reaction with
    | nothing => exact ⟨0, (Move.beside hnote).moves⟩
    | state => exact ⟨0, (Move.beside hnote).moves⟩
    | load => exact ⟨1, hnote.moves (Move.reenter _).moves⟩

variable (offered) in
/-- Forwarding a record is at most one new load. -/
lemma forward_moves (s : Session) (ticket : Ticket) (r : Record) :
    ∃ k, Moves offered s (List.replicate k .reentered) (s.forward ticket r) := by
  obtain ⟨k, hk⟩ := noting_moves offered
    { s with host := (s.host.notifyAt ticket r).1 } (s.host.notifyAt ticket r).2
  have hhost : s.Beside { s with host := (s.host.notifyAt ticket r).1 } :=
    ⟨rfl, rfl, rfl, rfl, rfl, rfl, rfl⟩
  exact ⟨k, hhost.moves hk⟩

variable (offered) in
/-- Settling shows the state; what an observer does comes after. -/
lemma settle_moves (s : Session) (next : LoadState) :
    ∃ k, Moves offered (s.showing (s.client.transition next)) (List.replicate k .reentered)
      (s.settle s.client.generation next) := by
  simp only [settle, Client.settle?, if_pos]
  cases next.record? with
  | none => exact ⟨0, .nil _⟩
  | some r =>
    have hticket : (s.showing (s.client.transition next)).Beside
        (s.takeTicket.1.showing (s.client.transition next)) := ⟨rfl, rfl, rfl, rfl, rfl, rfl, rfl⟩
    obtain ⟨k, hk⟩ := forward_moves offered
      (s.takeTicket.1.showing (s.client.transition next)) s.takeTicket.2 r
    exact ⟨k, hticket.moves hk⟩

/-- Showing a state does not depend on what is beside the client. -/
lemma Beside.showing (h : s.Beside t) (c : Client) : (s.showing c).Beside (t.showing c) where
  endpoint := h.endpoint
  client := rfl
  rendered := by simp only [Session.showing, h.rendered]
  futures := h.futures
  reentered := h.reentered
  sent := h.sent
  scripted := h.scripted

/-- A new operation does not depend on what is beside the client. -/
lemma Beside.begin (h : s.Beside t) : s.begin.1.Beside t.begin.1 := by
  have hshow := h.showing s.client.begin
  rw [Session.begin, Session.begin, h.client]
  exact hshow

variable (offered) in
/-- Settling the state of a future that has been taken out. -/
lemma settling_moves {name : String} (h : (s.without name).Beside t) (next : LoadState) :
    ∃ k, Moves offered (s.settling name next) (List.replicate k .reentered)
      (t.settle t.client.generation next) := by
  obtain ⟨k, hk⟩ := settle_moves offered t next
  have hclient : t.client = s.client := h.client
  have hshow := h.showing (s.client.transition next)
  rw [← hclient] at hshow
  refine ⟨k, Beside.moves ?_ hk⟩
  rwa [settling, ← hclient]

/-- Beginning a load and sending its request does not depend on what is beside the client. -/
lemma Beside.refetching (h : s.Beside t) : s.refetching.Beside t.refetching where
  endpoint := h.endpoint
  client := h.begin.client
  rendered := h.begin.rendered
  futures := h.futures
  reentered := h.reentered
  sent := by simp only [Session.refetching, Wire.send, h.sent, h.endpoint]
  scripted := h.scripted

/-- The load that follows a submission or a revocation begins, sends its request, and settles if its
reply is there at once. -/
lemma reload_eq (s : Session) :
    s.reload = match s.wire.scripted[s.wire.sent.length]?.join with
      | none =>
        (s.refetching, .pending (.reload (s.client.generation + 1) s.wire.sent.length))
      | some reply =>
        (s.refetching.settle s.refetching.client.generation (settled reply), .done) := by
  have hx : s.begin.1.exchange (.fetch s.endpoint) none =
      (s.refetching, s.wire.sent.length, s.wire.scripted[s.wire.sent.length]?.join) := rfl
  cases hr : s.wire.scripted[s.wire.sent.length]?.join with
  | none => exact reload_of_waiting (hr ▸ hx)
  | some reply => exact reload_of_reply (hr ▸ hx)

/-- A future with an outcome settles it. -/
lemma keep_consume_of_result {f : Future} {reply : Reply} {next : LoadState}
    (h : f.result reply = some next) (s : Session) (name : String) :
    (keep name (s.consume f reply)).1 = s.settle f.generation next := by
  cases f with
  | load generation _ => rw [← Option.some.inj h]; rfl
  | reload generation _ => rw [← Option.some.inj h]; rfl
  | mutation generation request _ =>
    cases hr : reply.bind request.operation.check with
    | ok _ => simp [Future.result, hr] at h
    | error e =>
      simp only [Future.result, hr] at h
      simp only [consume, hr, keep, ← Option.some.inj h]
      rfl

/-- A submission or a revocation that is accepted, and is the latest operation, goes on with a
load. -/
lemma consume_of_accepted {f : Future} {reply : Reply} (h : f.result reply = none) (s : Session)
    (hlatest : s.client.generation = f.generation) : s.consume f reply = s.reload := by
  cases f with
  | load generation _ => simp [Future.result] at h
  | reload generation _ => simp [Future.result] at h
  | mutation generation request _ =>
    cases hr : reply.bind request.operation.check with
    | error e => simp [Future.result, hr] at h
    | ok _ => simp only [consume, hr, if_pos (show s.client.generation = generation from hlatest)]

/-- The load that takes the place of an accepted submission or revocation is a move, and so is its
settling, if its reply is there at once. -/
lemma reload_moves {name : String} (h : (s.without name).Beside t)
    (hreload : Move offered s [.reloaded] (s.reloading name))
    (hscript : ∀ m r, t.wire.scripted[m]?.join = some r → offered m r) :
    ∃ k, Moves offered s (t.reloadEvents ++ List.replicate k .reentered)
      (keep name t.reload).1 := by
  have hclient : t.client = s.client := h.client
  have hnumber : t.wire.sent.length = s.wire.sent.length := congrArg List.length h.sent
  rw [reload_eq, reloadEvents, hclient, hnumber]
  cases hr : t.wire.scripted[s.wire.sent.length]?.join with
  | none =>
    refine ⟨0, hreload.moves.beside ?_⟩
    have hfutures : t.futures = s.futures.erase name := h.futures
    have hfetch := h.refetching
    refine ⟨hfetch.endpoint, hfetch.client, hfetch.rendered, ?_, hfetch.reentered, hfetch.sent,
      hfetch.scripted⟩
    show t.futures.put name _ = s.futures.put name _
    rw [hfutures, Table.put_erase_self]
  | some reply =>
    have hbeside : ((s.reloading name).without name).Beside t.refetching := by
      have hfetch := h.refetching
      refine ⟨hfetch.endpoint, hfetch.client, hfetch.rendered, ?_, hfetch.reentered, hfetch.sent,
        hfetch.scripted⟩
      show t.futures = (s.futures.put name _).erase name
      rw [Table.erase_put_self]
      exact h.futures
    have hsettle : Move offered (s.reloading name)
        [.settled (s.client.generation + 1) (settled reply)]
        ((s.reloading name).settling name (settled reply)) :=
      .settle (f := .reload (s.client.generation + 1) s.wire.sent.length)
        (Table.find?_put_self _ _ _) rfl rfl (hscript _ _ hr) rfl
    obtain ⟨k, hk⟩ := settling_moves offered hbeside (settled reply)
    exact ⟨k, hreload.moves.append (hsettle.moves.append hk)⟩

/-- **Using a reply is a sequence of moves**: a superseded future lapses, one with an outcome
settles it, and an accepted submission or revocation goes on with a load. -/
lemma consume_moves {name : String} {f g : Future} {number : Nat} {reply : Reply}
    (h : (s.without name).Beside t) (hg : s.futures.find? name = some g)
    (hgeneration : g.generation = f.generation) (hresult : g.result = f.result)
    (hsent : g.sent = some number) (hreply : offered number reply)
    (hscript : ∀ m r, t.wire.scripted[m]?.join = some r → offered m r) :
    ∃ k, Moves offered s (t.consumeEvents f reply ++ List.replicate k .reentered)
      (keep name (t.consume f reply)).1 := by
  have hclient : t.client = s.client := h.client
  by_cases hlatest : t.client.generation = f.generation
  · have howner : s.client.generation = g.generation := by rw [← hclient, hlatest, hgeneration]
    rw [consumeEvents, if_pos hlatest]
    cases hf : f.result reply with
    | some next =>
      rw [keep_consume_of_result hf, ← hlatest]
      obtain ⟨k, hk⟩ := settling_moves offered h next
      have hsettle := Move.settle hg howner hsent hreply (hresult ▸ hf)
      rw [← howner, ← hclient] at hsettle
      exact ⟨k, .cons hsettle hk⟩
    | none =>
      rw [consume_of_accepted hf t hlatest]
      exact reload_moves h (.reload hg howner hsent hreply (hresult ▸ hf)) hscript
  · rw [consumeEvents, if_neg hlatest, consume_of_superseded (Ne.symm hlatest), keep_lapse]
    have hold : s.client.generation ≠ g.generation := by rwa [← hclient, hgeneration]
    exact ⟨0, (Move.lapse hg hold).moves.beside h⟩

/-- The replies that a session can use: those that have come in, and those known in advance. -/
def Offers (s : Session) (number : Nat) (reply : Reply) : Prop :=
  s.wire.arrived.lookup number = some reply ∨ s.wire.scripted[number]?.join = some reply

/-- **A poll is a sequence of moves.**

**Proof sketch.** A future that has sent nothing sends its request first. Then it waits, or it uses
the reply. -/
lemma poll_moves (s : Session) (name : String) :
    ∃ k, Moves s.Offers s (s.pollEvents name ++ List.replicate k .reentered) (s.poll name).1 := by
  cases hf : s.futures.find? name with
  | none =>
    refine ⟨0, ?_⟩
    simp only [pollEvents, poll, hf]
    exact .nil s
  | some f =>
    simp only [pollEvents, poll, hf, pollFuture]
    cases hsent : f.sent with
    | none =>
      have hx : (s.without name).receive f =
          ({ s.without name with wire := (s.wire.send (f.request s.endpoint)).1 },
            s.wire.sent.length, s.wire.scripted[s.wire.sent.length]?.join) := by
        simp only [receive, hsent]
        rfl
      have hsend : Moves s.Offers s [] (s.sending name f) := (Move.send hf hsent).moves
      rw [hx]
      cases hr : s.wire.scripted[s.wire.sent.length]?.join with
      | none =>
        refine ⟨0, hsend.beside ⟨rfl, rfl, rfl, ?_, rfl, rfl, rfl⟩⟩
        exact Table.put_erase_self _ _ _
      | some reply =>
        have hbeside : ((s.sending name f).without name).Beside
            { s.without name with wire := (s.wire.send (f.request s.endpoint)).1 } :=
          ⟨rfl, rfl, rfl, (Table.erase_put_self _ _ _).symm, rfl, rfl, rfl⟩
        obtain ⟨k, hk⟩ := consume_moves (g := f.waitingFor s.wire.sent.length) (f := f)
          hbeside (Table.find?_put_self _ _ _) (by simp) (by simp) (by simp) (.inr hr)
          fun m r h => Or.inr h
        exact ⟨k, hsend.append hk⟩
    | some number =>
      have hx : (s.without name).receive f =
          ({ s.without name with wire := (s.wire.take number).1 }, number,
            s.wire.arrived.lookup number) := by
        simp only [receive, hsent]
        rfl
      rw [hx]
      cases hr : s.wire.arrived.lookup number with
      | none =>
        refine ⟨0, (Move.wait hf).moves.beside ⟨rfl, rfl, rfl, ?_, rfl, rfl, rfl⟩⟩
        show (s.futures.erase name).put name (f.waitingFor number) = s.futures.put name f
        rw [Table.put_erase_self, Future.waitingFor_of_sent hsent]
      | some reply =>
        have hbeside : (s.without name).Beside
            { s.without name with wire := (s.wire.take number).1 } :=
          ⟨rfl, rfl, rfl, rfl, rfl, rfl, rfl⟩
        exact consume_moves hbeside hf rfl rfl hsent (.inl hr) fun m r h => Or.inr h

/-- A call begins an operation, and puts its future under its name. -/
lemma called_beside {x : SessionStep} {name : String} {f : Future}
    (h : s.called x = some (name, f)) : (s.calling name f).Beside (s.step x).1 := by
  cases x with
  | resubmit other =>
    obtain ⟨r, hlast, hr⟩ := Option.map_eq_some_iff.mp h
    obtain ⟨rfl, rfl⟩ := Prod.mk.inj hr
    simp only [step, hlast]
    exact ⟨rfl, rfl, rfl, rfl, rfl, rfl, rfl⟩
  | host _ => simp [called] at h
  | poll _ => simp [called] at h
  | dropFuture _ => simp [called] at h
  | respond _ _ => simp [called] at h
  | _ =>
    obtain ⟨rfl, rfl⟩ := Prod.mk.inj (Option.some.inj h)
    exact ⟨rfl, rfl, rfl, rfl, rfl, rfl, rfl⟩

/-- A call is a move. -/
lemma called_moves {x : SessionStep} {name : String} {f : Future}
    (h : s.called x = some (name, f)) : Moves offered s [.called] (s.step x).1 :=
  (Move.call h).moves.beside (called_beside h)

/-- A step that drops no future is a sequence of moves. -/
lemma step_moves_of_count (s : Session) {x : SessionStep} (hx : ∀ name, x ≠ .dropFuture name) :
    ∃ k, Moves s.Offers s (s.ownEvents x ++ List.replicate k .reentered) (s.step x).1 := by
  cases hcall : s.called x with
  | some entry =>
    refine ⟨0, ?_⟩
    have hown : s.ownEvents x = [.called] := by
      cases x with
      | poll _ => simp [called] at hcall
      | _ => simp only [ownEvents, hcall, Option.isSome_some, if_true]
    rw [hown]
    exact called_moves hcall
  | none =>
    cases x with
    | poll name => exact s.poll_moves name
    | dropFuture name => exact absurd rfl (hx name)
    | load name => simp [called] at hcall
    | start name => simp [called] at hcall
    | submit name draft => simp [called] at hcall
    | revoke name => simp [called] at hcall
    | resubmit name =>
      have hlast : s.client.lastReady = none := Option.map_eq_none_iff.mp hcall
      refine ⟨0, ?_⟩
      simp only [ownEvents, hcall, step, hlast]
      exact .nil s
    | host step =>
      obtain ⟨k, hk⟩ := noting_moves s.Offers { s with host := (s.host.step step).1 }
        (s.host.step step).2.2
      have hhost : s.Beside { s with host := (s.host.step step).1 } :=
        ⟨rfl, rfl, rfl, rfl, rfl, rfl, rfl⟩
      exact ⟨k, hhost.moves hk⟩
    | respond number reply =>
      refine ⟨0, (Move.beside ?_).moves⟩
      simp only [step]
      cases hw : s.wire.arrive? number reply with
      | none => exact .refl s
      | some w =>
        rw [Wire.arrive?_eq_some hw]
        exact ⟨rfl, rfl, rfl, rfl, rfl, rfl, rfl⟩

/-- Moves count the loads that observers call for. -/
lemma Moves.reentered {es : List Event} (h : Moves offered s es t) :
    t.reentered = s.reentered + es.count .reentered := by
  induction h with
  | nil s => rfl
  | @cons s t u es es' h _ ih =>
    rw [ih, List.count_append, ← Nat.add_assoc]
    congr 1
    cases h with
    | beside h => exact h.reentered
    | _ => rfl

/-- What observers do is not among the events of the step itself. -/
lemma count_reentered_ownEvents (s : Session) (x : SessionStep) :
    (s.ownEvents x).count .reentered = 0 := by
  have hreload : ∀ t : Session, t.reloadEvents.count .reentered = 0 := by
    intro t
    rw [reloadEvents]
    split <;> rfl
  have hconsume : ∀ (t : Session) f reply, (t.consumeEvents f reply).count .reentered = 0 := by
    intro t f reply
    rw [consumeEvents]
    split
    · split
      · rfl
      · exact hreload t
    · rfl
  cases x with
  | poll name =>
    simp only [ownEvents, pollEvents]
    split
    · rfl
    · split
      · rfl
      · exact hconsume _ _ _
  | _ =>
    simp only [ownEvents]
    split <;> rfl

/-- **What a step does to the client**: it drops a future, or it is a sequence of moves with the
events of the step.

**Proof sketch.** A step is a sequence of moves that ends with the loads of observers. Their number
is the one that the session counts. -/
lemma step_cases_moves (s : Session) (x : SessionStep) :
    (∃ name, x = .dropFuture name) ∨ Moves s.Offers s (s.events x) (s.step x).1 := by
  by_cases hx : ∃ name, x = .dropFuture name
  · exact .inl hx
  · obtain ⟨k, hk⟩ := s.step_moves_of_count (x := x) fun name h => hx ⟨name, h⟩
    have hcount := hk.reentered
    rw [List.count_append, count_reentered_ownEvents, List.count_replicate_self] at hcount
    refine .inr ?_
    rwa [events, show (s.step x).1.reentered - s.reentered = k by omega]

/-- Dropping a future is no event. -/
lemma events_dropFuture (s : Session) (name : String) : s.events (.dropFuture name) = [] := by
  simp [events, ownEvents, called, step, without]

/-- The loads that observers call for are counted. -/
lemma reentered_step (s : Session) (x : SessionStep) :
    (s.step x).1.reentered = s.reentered + (s.events x).count .reentered := by
  rcases s.step_cases_moves x with ⟨name, rfl⟩ | h
  · rw [events_dropFuture]
    rfl
  · exact h.reentered

end Session

end Consent
