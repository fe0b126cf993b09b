import Consent.Proofs.Observer.Host
import Consent.Proofs.Session.Polling

set_option autoImplicit false

/-!
# What a step means to the observer

Of all that happens in a session, little concerns the host's observer: that a record is settled,
and that an observer comes to be attached. A step does at most one of these. The rest of it happens
aside: operations begin and fail, requests are sent, replies come in, futures are dropped, and
observers come and go.

## Main definitions

* `Consent.Session.readies` — how many records have been settled.
* `Consent.Session.Quiet`, `Consent.Session.Aside` — nothing happens that concerns the observer.
* `Consent.Session.tell`, `Consent.Session.attach` — a record is settled, an observer is attached.

## Main results

* `Consent.Session.carry_of_alive`, `Consent.Session.carry_of_dead` — a delivery is carried out.
* `Consent.Session.poll_cases` — what a poll means to the observer.
* `Consent.Session.step_cases` — what a step means to the observer.
-/

namespace Consent

open Observer

/-- Whether a step of the host brings a record to the bridge by hand. -/
def SessionStep.brings : SessionStep → Bool
  | .host step => step.brings
  | _ => false

namespace Session

/-- How many records have been settled: how often the client has become ready. -/
def readies (s : Session) : Nat := s.rendered.countP (·.record?.isSome)

/-! ### What does not concern the observer -/

/-- Nothing happens that concerns the observer, except that observers may come and go. -/
structure Quiet (s t : Session) : Prop where
  bridge : s.host.bridge.Idle t.host.bridge
  readies : t.readies = s.readies
  lastReady : t.client.lastReady = s.client.lastReady
  notes : t.notes = s.notes

/-- Nothing happens that concerns the observer. -/
structure Aside (s t : Session) : Prop extends Quiet s t where
  observers : t.host.observers = s.host.observers

/-- Nothing may happen at all. -/
lemma Aside.refl (s : Session) : Aside s s := ⟨⟨.refl _, rfl, rfl, rfl⟩, rfl⟩

/-- What happens aside adds up. -/
lemma Aside.trans {s t u : Session} (h : Aside s t) (h' : Aside t u) : Aside s u where
  bridge := h.bridge.trans h'.bridge
  readies := h'.readies.trans h.readies
  lastReady := h'.lastReady.trans h.lastReady
  notes := h'.notes.trans h.notes
  observers := h'.observers.trans h.observers

/-- What happens aside leaves who is alive. -/
lemma Aside.isAlive {s t : Session} (h : Aside s t) : t.host.isAlive = s.host.isAlive :=
  Host.isAlive_of_observers h.observers

/-- A state without a record is shown aside. -/
lemma aside_showing (s : Session) {c : Client} (hstate : c.state.record? = none)
    (hlast : c.lastReady = s.client.lastReady) : Aside s (s.showing c) where
  bridge := .refl _
  readies := by simp [readies, showing, hstate]
  lastReady := hlast
  notes := s.notes_showing c
  observers := rfl

/-- An operation begins aside. -/
lemma aside_begin (s : Session) : Aside s s.begin.1 :=
  s.aside_showing (by rw [(Client.begin_state s.client).1]; rfl) (Client.begin_state s.client).2.1

/-- Futures change aside. -/
lemma aside_futures (s : Session) (futures : Table Future) :
    Aside s { s with futures := futures } := ⟨⟨.refl _, rfl, rfl, rfl⟩, rfl⟩

/-- The wire changes aside. -/
lemma aside_withWire (s : Session) (w : Wire) : Aside s (s.withWire w) :=
  ⟨⟨.refl _, rfl, rfl, rfl⟩, rfl⟩

/-- A request is sent, and its reply is looked for, aside. -/
lemma aside_exchange (s : Session) (request : Request) (sent : Option Nat) :
    Aside s (s.exchange request sent).1 := by
  rw [exchange_eq]
  exact s.aside_withWire _

/-- A load is called aside. -/
lemma aside_callLoad (s : Session) (name : String) : Aside s (s.callLoad name) :=
  s.aside_begin.trans (aside_futures _ _)

/-- A submission or a revocation is called aside. -/
lemma aside_callMutation (s : Session) (name : String) (request : Request) :
    Aside s (s.callMutation name request) :=
  s.aside_begin.trans (aside_futures _ _)

/-- What an observer does inside a call happens aside. -/
lemma aside_react (s : Session) (reaction : Reaction) : Aside s (s.react reaction) := by
  cases reaction with
  | nothing => exact .refl s
  | state => exact .refl s
  | load =>
    have hcall := s.aside_callLoad s.reentryName
    exact ⟨⟨hcall.bridge, hcall.readies, hcall.lastReady, hcall.notes⟩, hcall.observers⟩

/-! ### Deliveries -/

/-- The session with another bridge. -/
def withBridge (s : Session) (b : Bridge) : Session :=
  { s with host := { s.host with bridge := b } }

/-- Another bridge leaves what observers have been told. -/
@[simp] lemma notes_withBridge (s : Session) (b : Bridge) : (s.withBridge b).notes = s.notes := rfl

/-- Carries out the delivery that a first phase of the bridge gave, if any. -/
def carry (s : Session) (p : Bridge × Option Delivery) : Session :=
  { s with host := (s.host.moved (Bridge.finish s.host.isAlive p)).1 }.noting
    (s.host.moved (Bridge.finish s.host.isAlive p)).2

/-- A delivery that is not stale becomes a call if the observer is alive. -/
lemma carry_of_alive (s : Session) {b : Bridge} {d : Delivery} (hfresh : b.isStale d.ticket = false)
    (hlive : s.host.isAlive d.handle = true) :
    ∃ n : Note, n.handle = d.handle ∧ n.verdict = d.record.verdict ∧ n.state = s.client.state ∧
      Aside
        ((s.withBridge
          { b with lastDelivered := some d.ticket, delivered := b.delivered + 1 }).noted n)
        (s.carry (b, some d)) := by
  obtain ⟨name, owned, hmoved⟩ := Host.moved_deliver_of_alive hfresh hlive
  refine ⟨s.note ⟨d.handle, name, owned.reaction, d.record.verdict⟩, rfl, rfl, rfl, ?_⟩
  simp only [carry, Bridge.finish, hmoved, noting]
  exact aside_react _ _

/-- A delivery that is not stale comes to nothing if the observer is gone. -/
lemma carry_of_dead (s : Session) {b : Bridge} {d : Delivery} (hfresh : b.isStale d.ticket = false)
    (hdead : s.host.isAlive d.handle = false) :
    s.carry (b, some d) = s.withBridge { b with lastDelivered := some d.ticket } := by
  simp only [carry, Bridge.finish, Host.moved_deliver_of_dead hfresh hdead]
  rfl

/-- A delivery that is stale comes to nothing. -/
lemma carry_of_stale (s : Session) {b : Bridge} {d : Delivery}
    (hstale : b.isStale d.ticket = true) : s.carry (b, some d) = s.withBridge b := by
  simp only [carry, Bridge.finish, Bridge.deliver_of_stale hstale]
  rfl

/-- Without a delivery there is nothing to carry out. -/
lemma carry_none (s : Session) (b : Bridge) : s.carry (b, none) = s.withBridge b := rfl

/-- Carrying out a delivery leaves the observers, the record last settled, and how many there
were. It makes one call at most, of the record delivered, during which the client's state is what
it was. -/
lemma carry_frame (s : Session) (p : Bridge × Option Delivery) :
    (s.carry p).host.observers = s.host.observers ∧ (s.carry p).readies = s.readies ∧
      (s.carry p).client.lastReady = s.client.lastReady ∧
      ((s.carry p).notes = s.notes ∨ ∃ n d, (s.carry p).notes = s.notes ++ [n] ∧ p.2 = some d ∧
        n.verdict = d.record.verdict ∧ n.state = s.client.state) := by
  obtain ⟨b, d⟩ := p
  cases d with
  | none => exact ⟨rfl, rfl, rfl, .inl rfl⟩
  | some d =>
    cases hstale : b.isStale d.ticket with
    | true =>
      rw [carry_of_stale s hstale]
      exact ⟨rfl, rfl, rfl, .inl rfl⟩
    | false =>
      cases hlive : s.host.isAlive d.handle with
      | true =>
        obtain ⟨n, -, hverdict, hstate, haside⟩ := carry_of_alive s hstale hlive
        exact ⟨haside.observers, haside.readies, haside.lastReady,
          .inr ⟨n, d, haside.notes.trans (notes_noted _ n), rfl, hverdict, hstate⟩⟩
      | false =>
        rw [carry_of_dead s hstale hlive]
        exact ⟨rfl, rfl, rfl, .inl rfl⟩

/-! ### What concerns the observer -/

/-- Settles a record: it takes a ticket, is shown, and is forwarded. -/
def tell (s : Session) (r : Record) : Session :=
  (s.takeTicket.1.showing (s.client.transition (.ready r))).forward s.takeTicket.2 r

/-- Attaches an observer to the bridge. -/
def attach (s : Session) (h : Handle) : Session :=
  { s with host := (s.host.attach h).1 }.noting (s.host.attach h).2

/-- The session just before a settled record is forwarded. -/
def shownReady (s : Session) (r : Record) : Session :=
  s.takeTicket.1.showing (s.client.transition (.ready r))

/-- Settling a record carries out what the bridge makes of it. -/
lemma tell_eq (s : Session) (r : Record) :
    s.tell r = (s.shownReady r).carry
      (s.host.bridge.takeTicket.1.notifyPhase ⟨s.host.bridge.issued + 1⟩ r) := rfl

/-- Attaching an observer carries out what the bridge makes of it. -/
lemma attach_eq (s : Session) (h : Handle) : s.attach h = s.carry (s.host.bridge.attachPhase h) :=
  rfl

/-- Settling either happens aside or settles a record. -/
lemma settle_cases (s : Session) (generation : Nat) (next : LoadState) :
    Aside s (s.settle generation next) ∨ ∃ r, s.settle generation next = s.tell r := by
  by_cases hgen : s.client.generation = generation
  · simp only [settle, Client.settle?, if_pos hgen]
    cases next with
    | ready r => exact .inr ⟨r, rfl⟩
    | idle => exact .inl (s.aside_showing rfl rfl)
    | loading => exact .inl (s.aside_showing rfl rfl)
    | failed e => exact .inl (s.aside_showing rfl rfl)
  · rw [settle_of_superseded hgen]
    exact .inl (.refl s)

/-- What a poll means to the observer: nothing, or that one record is settled. -/
def Polled (s t : Session) : Prop := Aside s t ∨ ∃ u r, Aside s u ∧ Aside (u.tell r) t

/-- What happens aside before a poll does not matter. -/
lemma Aside.polled {s t u : Session} (h : Aside s t) (h' : Polled t u) : Polled s u := by
  rcases h' with h' | ⟨v, r, hv, hu⟩
  · exact .inl (h.trans h')
  · exact .inr ⟨v, r, h.trans hv, hu⟩

/-- What happens aside after a poll does not matter. -/
lemma Polled.aside {s t u : Session} (h : Polled s t) (h' : Aside t u) : Polled s u := by
  rcases h with h | ⟨v, r, hv, ht⟩
  · exact .inl (h.trans h')
  · exact .inr ⟨v, r, hv, ht.trans h'⟩

/-- Settling is nothing to the observer, or settles one record. -/
lemma polled_settle (s : Session) (generation : Nat) (next : LoadState) :
    Polled s (s.settle generation next) := by
  rcases s.settle_cases generation next with h | ⟨r, h⟩
  · exact .inl h
  · exact .inr ⟨s, r, .refl s, h ▸ .refl _⟩

/-- The load that follows a submission or a revocation settles one record at most. -/
lemma polled_reload (s : Session) : Polled s s.reload.1 := by
  have haside := s.aside_begin.trans (s.begin.1.aside_exchange (.fetch s.endpoint) none)
  rcases h : s.begin.1.exchange (.fetch s.endpoint) none with ⟨t, number, reply⟩
  rw [h] at haside
  cases reply with
  | none =>
    rw [reload_of_waiting h]
    exact .inl haside
  | some reply =>
    rw [reload_of_reply h]
    exact haside.polled (t.polled_settle _ _)

/-- Using a reply settles one record at most. -/
lemma polled_consume (s : Session) (f : Future) (reply : Reply) :
    Polled s (s.consume f reply).1 := by
  cases f with
  | load generation _ => exact s.polled_settle _ _
  | reload generation _ => exact s.polled_settle _ _
  | mutation generation request _ =>
    simp only [consume]
    split
    · exact s.polled_settle _ _
    · split
      · exact s.polled_reload
      · exact .inl (.refl s)

/-- **What a poll means to the observer**: nothing, or that one record is settled. -/
lemma poll_cases (s : Session) (name : String) : Polled s (s.poll name).1 := by
  simp only [poll]
  split
  · exact .inl (.refl s)
  · rename_i f _
    have hwithout : Aside s (s.without name) := s.aside_futures _
    have hreceive := (s.without name).aside_exchange (f.request (s.without name).endpoint) f.sent
    have hpolled : Polled s ((s.without name).pollFuture f).1 := by
      rw [pollFuture]
      rcases h : (s.without name).receive f with ⟨t, number, reply⟩
      rw [← receive, h] at hreceive
      cases reply with
      | none => exact .inl (hwithout.trans hreceive)
      | some reply => exact (hwithout.trans hreceive).polled (t.polled_consume f reply)
    rcases h : (s.without name).pollFuture f with ⟨t, result⟩
    rw [h] at hpolled
    cases result with
    | pending f' => exact hpolled.aside (t.aside_futures _)
    | loaded state => exact hpolled
    | done => exact hpolled

/-- **What a step means to the observer**, unless the host brings a record itself: nothing, or that
an observer comes to be attached, or that one record is settled. -/
lemma step_cases (s : Session) {x : SessionStep} (hx : x.brings = false) :
    Quiet s (s.step x).1 ∨
      ∃ t, Aside s t ∧ ((∃ h, (s.step x).1 = t.attach h) ∨ ∃ r, Aside (t.tell r) (s.step x).1) := by
  cases x with
  | host step =>
    rcases s.host.step_cases hx with ⟨hidle, hquiet⟩ | ⟨task, h, hhost, hcall⟩
    · refine .inl ?_
      simp only [Session.step, hquiet, noting]
      exact ⟨hidle, rfl, rfl, rfl⟩
    · refine .inr ⟨{ s with host := { s.host with task := task } },
        ⟨⟨.refl _, rfl, rfl, rfl⟩, rfl⟩, .inl ⟨h, ?_⟩⟩
      simp only [Session.step, hhost, hcall]
      rfl
  | load name => exact .inl (s.aside_callLoad name).toQuiet
  | start name =>
    have harm : Aside s { s with host := (s.host.arm false).1 } :=
      ⟨⟨⟨rfl, le_rfl⟩, rfl, rfl, rfl⟩, rfl⟩
    exact .inl (harm.trans (aside_callLoad _ name)).toQuiet
  | submit name draft => exact .inl (s.aside_callMutation name _).toQuiet
  | revoke name => exact .inl (s.aside_callMutation name _).toQuiet
  | resubmit name =>
    simp only [Session.step]
    split
    · exact .inl (Aside.refl s).toQuiet
    · exact .inl (s.aside_callMutation name _).toQuiet
  | poll name =>
    rcases s.poll_cases name with h | ⟨t, r, ht, h⟩
    · exact .inl h.toQuiet
    · exact .inr ⟨t, ht, .inr ⟨r, h⟩⟩
  | dropFuture name => exact .inl (s.aside_futures _).toQuiet
  | respond request reply =>
    simp only [Session.step]
    split
    · exact .inl (Aside.refl s).toQuiet
    · exact .inl (s.aside_withWire _).toQuiet

end Session

end Consent
