import Consent.Proofs.Session.Polling
import Mathlib.Data.List.Forall2

set_option autoImplicit false

/-!
# Superseded operations

The latest operation wins: what comes back for an operation that a newer one has superseded makes
no difference. Two runs whose replies differ only where they are used by superseded operations, or
not used at all, look the same after every step.

The two runs move in lockstep. At each moment the second session is the first one with another
wire, and the two wires differ only in replies that the latest operation of the first run never
uses.

## Main definitions

* `Consent.Wire.Alike`, `Consent.SessionStep.Alike` — wires and steps that differ in some replies.
* `Consent.Session.heeded`, `Consent.Session.heededIn` — the requests whose replies are used by the
  latest operation, in one step and in a run.
* `Consent.Session.Report.visible` — a report without the replies on the wire.

## Main results

* `Consent.Session.step_alike` — one step of the lockstep.
* `Consent.Session.superseded_replies_have_no_effect` — superseded operations complete without any
  effect, and so their replies cannot be told from what is seen.
-/

namespace Consent

open Observer

/-! ### Wires that differ in some replies -/

/-- Replies that are the same, unless the number of the request is one where they may differ. -/
def Reply.Alike (D : Nat → Prop) (n : Nat) (r r' : Reply) : Prop := r = r' ∨ D n

/-- Steps that are the same, except for the replies that come in for some requests. -/
inductive SessionStep.Alike (D : Nat → Prop) : SessionStep → SessionStep → Prop where
  | same (step : SessionStep) : Alike D step step
  | respond {n : Nat} (r r' : Reply) (h : D n) : Alike D (.respond n r) (.respond n r')

namespace Wire

variable {D : Nat → Prop} {v w : Wire}

/-- Wires over which the same requests were sent, and with replies that differ only for some
requests. -/
structure Alike (D : Nat → Prop) (v w : Wire) : Prop where
  sent : w.sent = v.sent
  scripted : ∀ n, Option.Rel (Reply.Alike D n) v.scripted[n]?.join w.scripted[n]?.join
  arrived : ∀ n, Option.Rel (Reply.Alike D n) (v.arrived.lookup n) (w.arrived.lookup n)

/-- Dropping the replies to one request leaves those to the others. -/
lemma lookup_filter_ne (replies : List (Nat × Reply)) (m n : Nat) :
    (replies.filter fun entry => entry.1 ≠ m).lookup n =
      if n = m then none else replies.lookup n := by
  induction replies with
  | nil => simp
  | cons entry replies ih =>
    obtain ⟨k, r⟩ := entry
    by_cases hk : k = m
    · rw [List.filter_cons_of_neg (by simpa using hk), ih, List.lookup_cons]
      by_cases hn : n = m
      · simp [hn]
      · have : (n == k) = false := by simp [hk, hn]
        simp [hn, this]
    · rw [List.filter_cons_of_pos (by simpa using hk), List.lookup_cons, List.lookup_cons, ih]
      by_cases hn : n = m
      · have : (m == k) = false := by simpa using Ne.symm hk
        simp [hn, this]
      · simp [hn]

/-- Sending a request keeps wires alike, and the reply known in advance may differ only where
replies may. -/
lemma Alike.send (h : Alike D v w) (request : Request) :
    Alike D (v.send request).1 (w.send request).1 ∧
      (w.send request).2.1 = (v.send request).2.1 ∧
      Option.Rel (Reply.Alike D (v.send request).2.1) (v.send request).2.2
        (w.send request).2.2 := by
  have hlen : w.sent.length = v.sent.length := by rw [h.sent]
  refine ⟨⟨?_, h.scripted, h.arrived⟩, hlen, ?_⟩
  · simp only [Wire.send, h.sent]
  · simp only [Wire.send, hlen]
    exact h.scripted _

/-- Taking a reply keeps wires alike, and the reply may differ only where replies may. -/
lemma Alike.take (h : Alike D v w) (m : Nat) :
    Alike D (v.take m).1 (w.take m).1 ∧
      Option.Rel (Reply.Alike D m) (v.take m).2 (w.take m).2 := by
  refine ⟨⟨h.sent, h.scripted, fun n => ?_⟩, h.arrived m⟩
  simp only [Wire.take, lookup_filter_ne]
  split
  · exact .none
  · exact h.arrived n

/-- A reply comes in on both wires or on neither, and keeps them alike. -/
lemma Alike.arrive? (h : Alike D v w) {m : Nat} {r r' : Reply} (hr : Reply.Alike D m r r') :
    Option.Rel (Alike D) (v.arrive? m r) (w.arrive? m r') := by
  simp only [Wire.arrive?, h.sent]
  split
  · refine .some ⟨rfl, h.scripted, fun n => ?_⟩
    by_cases hn : n = m
    · subst hn
      simpa using Option.Rel.some hr
    · have : (n == m) = false := by simpa using hn
      simpa only [List.lookup_cons, this, lookup_filter_ne, if_neg hn] using h.arrived n
  · exact .none

end Wire

namespace Session

/-! ### What the latest operation uses -/

/-- The request whose reply the load after a submission or a revocation uses at once. -/
def heededByReload (s : Session) : List Nat :=
  match s.begin.1.exchange (.fetch s.endpoint) none with
  | (_, _, none) => []
  | (_, number, some _) => [number]

/-- The requests whose replies a future uses after its own. -/
def heededAfter (s : Session) (f : Future) (reply : Reply) : List Nat :=
  match f with
  | .load _ _ => []
  | .reload _ _ => []
  | .mutation _ request _ =>
    match reply.bind request.operation.check with
    | .error _ => []
    | .ok () => s.heededByReload

/-- The requests whose replies are used by the latest operation when a future is polled. -/
def heededBy (s : Session) (f : Future) : List Nat :=
  match s.receive f with
  | (_, _, none) => []
  | (s, number, some reply) =>
    if f.generation = s.client.generation then number :: s.heededAfter f reply else []

/-- The requests whose replies are used by the latest operation in a step. -/
def heeded (s : Session) : SessionStep → List Nat
  | .poll name =>
    match s.futures.find? name with
    | none => []
    | some f => (s.without name).heededBy f
  | _ => []

/-- The requests whose replies are used by the latest operation at some point of a run. -/
def heededIn (s : Session) : List SessionStep → List Nat
  | [] => []
  | step :: steps => s.heeded step ++ (s.step step).1.heededIn steps

/-! ### The wire does not matter -/

section WithWire

variable (s : Session) (w : Wire)

/-- What an observer does inside a call does not depend on the wire. -/
lemma react_withWire (reaction : Reaction) :
    (s.withWire w).react reaction = (s.react reaction).withWire w := by
  cases reaction <;> rfl

/-- Noting a call does not depend on the wire. -/
lemma noting_withWire (call : Option Call) :
    (s.withWire w).noting call = (s.noting call).withWire w := by
  cases call with
  | none => rfl
  | some call => exact react_withWire (s.noted (s.note call)) w call.reaction

/-- Noting a call leaves the wire. -/
lemma noting_wire (call : Option Call) : (s.noting call).wire = s.wire := by
  have h : s.noting call = (s.noting call).withWire s.wire := noting_withWire s s.wire call
  rw [h]
  rfl

/-- Forwarding a record does not depend on the wire. -/
lemma forward_withWire (t : Ticket) (r : Record) :
    (s.withWire w).forward t r = (s.forward t r).withWire w :=
  noting_withWire { s with host := (s.host.notifyAt t r).1 } w _

/-- Settling does not depend on the wire. -/
lemma settle_withWire (generation : Nat) (next : LoadState) :
    (s.withWire w).settle generation next = (s.settle generation next).withWire w := by
  by_cases h : s.client.generation = generation
  · have h' : (s.withWire w).client.generation = generation := h
    simp only [settle, Client.settle?, if_pos h, if_pos h']
    cases next.record? with
    | none => rfl
    | some r => exact forward_withWire (s.takeTicket.1.showing _) w _ r
  · have h' : (s.withWire w).client.generation ≠ generation := h
    rw [settle_of_superseded h, settle_of_superseded h']

/-- Settling leaves the wire. -/
lemma settle_wire (generation : Nat) (next : LoadState) :
    (s.settle generation next).wire = s.wire := by
  have h : s.settle generation next = (s.settle generation next).withWire s.wire :=
    settle_withWire s s.wire generation next
  rw [h]
  rfl

end WithWire

/-! ### Sessions in lockstep -/

/-- The second session is the first one with a wire that differs only in some replies. -/
def Alike (D : Nat → Prop) (s t : Session) : Prop := ∃ w, t = s.withWire w ∧ s.wire.Alike D w

/-- The sessions are alike, and what comes with them is the same. -/
def Abreast {α : Type} (D : Nat → Prop) (p q : Session × α) : Prop := p.1.Alike D q.1 ∧ q.2 = p.2

variable {D : Nat → Prop} {s t : Session}

/-- Both sessions look for a reply to the same request, and the replies may differ only where
replies may. -/
lemma Alike.exchange (h : s.Alike D t) (request : Request) (sent : Option Nat) :
    (s.exchange request sent).1.Alike D (t.exchange request sent).1 ∧
      (t.exchange request sent).2.1 = (s.exchange request sent).2.1 ∧
      Option.Rel (Reply.Alike D (s.exchange request sent).2.1) (s.exchange request sent).2.2
        (t.exchange request sent).2.2 := by
  obtain ⟨w, rfl, hw⟩ := h
  cases sent with
  | none =>
    obtain ⟨hsend, hnumber, hreply⟩ := hw.send request
    exact ⟨⟨_, rfl, hsend⟩, hnumber, hreply⟩
  | some number =>
    obtain ⟨htake, hreply⟩ := hw.take number
    exact ⟨⟨_, rfl, htake⟩, rfl, hreply⟩

/-- Settling keeps sessions alike. -/
lemma Alike.settle (h : s.Alike D t) (generation : Nat) (next : LoadState) :
    (s.settle generation next).Alike D (t.settle generation next) := by
  obtain ⟨w, rfl, hw⟩ := h
  exact ⟨w, settle_withWire s w generation next, by rwa [settle_wire]⟩

/-- The load after a submission or a revocation keeps sessions abreast, if the reply that it uses
may not differ. -/
lemma Alike.reload (h : s.Alike D t) (hD : ∀ n ∈ s.heededByReload, ¬ D n) :
    Abreast D s.reload t.reload := by
  obtain ⟨w, rfl, hw⟩ := h
  have hbegin : s.begin.1.Alike D (s.withWire w).begin.1 := ⟨w, rfl, hw⟩
  obtain ⟨hx, hnumber, hreply⟩ := hbegin.exchange (.fetch s.endpoint) none
  rcases hp : s.begin.1.exchange (.fetch s.endpoint) none with ⟨s', n, r⟩
  rcases hq : (s.withWire w).begin.1.exchange (.fetch s.endpoint) none with ⟨t', m, r'⟩
  simp only [hp, hq] at hx hnumber hreply
  subst hnumber
  cases hreply with
  | none =>
    rw [reload_of_waiting hp, reload_of_waiting hq]
    exact ⟨hx, rfl⟩
  | @some r r' hr =>
    have hr : r = r' := hr.resolve_right (hD m (by simp [heededByReload, hp]))
    rw [reload_of_reply hp, reload_of_reply hq, hr]
    exact ⟨hx.settle _ _, rfl⟩

/-- Using a reply keeps sessions abreast, if the replies used after it may not differ. -/
lemma Alike.consume (h : s.Alike D t) (f : Future) (reply : Reply)
    (hD : ∀ n ∈ s.heededAfter f reply, ¬ D n) :
    Abreast D (s.consume f reply) (t.consume f reply) := by
  have hclient : t.client = s.client := by
    obtain ⟨w, rfl, -⟩ := h
    rfl
  cases f with
  | load generation _ =>
    have hs := h.settle generation (settled reply)
    refine ⟨hs, ?_⟩
    obtain ⟨w, ht, -⟩ := hs
    simp only [Session.consume, ht]
    rfl
  | reload generation _ => exact ⟨h.settle generation _, rfl⟩
  | mutation generation request _ =>
    simp only [heededAfter] at hD
    cases hr : reply.bind request.operation.check with
    | error e =>
      simp only [Session.consume, hr]
      exact ⟨h.settle generation _, rfl⟩
    | ok _ =>
      simp only [hr] at hD
      simp only [Session.consume, hr, hclient]
      split
      · exact h.reload hD
      · exact ⟨h, rfl⟩

/-- **Polling keeps sessions abreast**, if the replies that the latest operation uses may not
differ.

**Proof sketch.** Both futures find a reply or neither does. If the replies may differ, the future
has been superseded, and drops its reply in both sessions. -/
lemma Alike.pollFuture (h : s.Alike D t) (f : Future) (hD : ∀ n ∈ s.heededBy f, ¬ D n) :
    Abreast D (s.pollFuture f) (t.pollFuture f) := by
  have hfetch : t.receive f = t.exchange (f.request s.endpoint) f.sent := by
    obtain ⟨w, rfl, -⟩ := h
    rfl
  obtain ⟨hx, hnumber, hreply⟩ := h.exchange (f.request s.endpoint) f.sent
  rw [← hfetch, ← receive] at hx hnumber hreply
  rcases hp : s.receive f with ⟨s', n, r⟩
  rcases hq : t.receive f with ⟨t', m, r'⟩
  simp only [hp, hq] at hx hnumber hreply
  subst hnumber
  cases hreply with
  | none =>
    simp only [Session.pollFuture, hp, hq]
    exact ⟨hx, rfl⟩
  | @some r r' hr =>
    have hclient : s'.client = s.client ∧ t'.client = s'.client := by
      obtain ⟨w, rfl, -⟩ := hx
      rw [receive_eq hp]
      exact ⟨rfl, rfl⟩
    simp only [Session.pollFuture, hp, hq]
    by_cases hgen : f.generation = s'.client.generation
    · simp only [heededBy, hp, if_pos hgen, List.mem_cons, forall_eq_or_imp] at hD
      rw [← hr.resolve_right hD.1]
      exact hx.consume f r hD.2
    · rw [consume_of_superseded hgen, consume_of_superseded (by rwa [hclient.2]), hclient.2]
      exact ⟨hx, rfl⟩

/-- Keeping a future that is not done keeps sessions abreast. -/
lemma Abreast.keep {p q : Session × Poll} (h : Abreast D p q) (name : String) :
    Abreast D (keep name p) (keep name q) := by
  obtain ⟨s, p⟩ := p
  obtain ⟨t, q⟩ := q
  obtain ⟨⟨w, rfl, hw⟩, hpoll⟩ := h
  obtain rfl : q = p := hpoll
  cases q with
  | pending f => exact ⟨⟨w, rfl, hw⟩, rfl⟩
  | loaded state => exact ⟨⟨w, rfl, hw⟩, rfl⟩
  | done => exact ⟨⟨w, rfl, hw⟩, rfl⟩

/-- Polling a named future keeps sessions abreast, if the replies that the latest operation uses
may not differ. -/
lemma Alike.poll (h : s.Alike D t) (name : String) (hD : ∀ n ∈ s.heeded (.poll name), ¬ D n) :
    Abreast D (s.poll name) (t.poll name) := by
  have hfutures : t.futures = s.futures := by
    obtain ⟨w, rfl, -⟩ := h
    rfl
  have hwithout : (s.without name).Alike D (t.without name) := by
    obtain ⟨w, rfl, hw⟩ := h
    exact ⟨w, rfl, hw⟩
  cases hf : s.futures.find? name with
  | none =>
    simp only [Session.poll, hfutures, hf]
    exact ⟨h, rfl⟩
  | some f =>
    simp only [heeded, hf] at hD
    simp only [Session.poll, hfutures, hf]
    exact (hwithout.pollFuture f hD).keep name

/-- A reply that comes in to both sessions keeps them abreast. -/
lemma Alike.respond (h : s.Alike D t) {n : Nat} {r r' : Reply} (hr : Reply.Alike D n r r') :
    Abreast D (s.step (.respond n r)) (t.step (.respond n r')) := by
  obtain ⟨w, rfl, hw⟩ := h
  have hboth : Option.Rel (Wire.Alike D) (s.wire.arrive? n r) ((s.withWire w).wire.arrive? n r') :=
    hw.arrive? hr
  simp only [step]
  cases hp : s.wire.arrive? n r with
  | none =>
    rw [hp] at hboth
    cases hq : (s.withWire w).wire.arrive? n r' with
    | none => exact ⟨⟨w, rfl, hw⟩, rfl⟩
    | some w' => simp [hq] at hboth
  | some v' =>
    rw [hp] at hboth
    cases hq : (s.withWire w).wire.arrive? n r' with
    | none => simp [hq] at hboth
    | some w' =>
      rw [hq] at hboth
      exact ⟨⟨w', rfl, by simpa using hboth⟩, rfl⟩

/-- **One step of the lockstep.** Steps that differ only in replies that the latest operation does
not use keep sessions abreast. -/
lemma step_alike (h : s.Alike D t) {a b : SessionStep} (hab : a.Alike D b)
    (hD : ∀ n ∈ s.heeded a, ¬ D n) : Abreast D (s.step a) (t.step b) := by
  cases hab with
  | respond r r' hn => exact h.respond (.inr hn)
  | same =>
    cases a with
    | poll name => exact h.poll name hD
    | respond n r => exact h.respond (.inl rfl)
    | host step =>
      obtain ⟨w, rfl, hw⟩ := h
      have hnoting :=
        noting_withWire { s with host := (s.host.step step).1 } w (s.host.step step).2.2
      refine ⟨⟨w, hnoting, ?_⟩, rfl⟩
      exact (noting_wire { s with host := (s.host.step step).1 } (s.host.step step).2.2) ▸ hw
    | resubmit name =>
      obtain ⟨w, rfl, hw⟩ := h
      have hlast : (s.withWire w).client.lastReady = s.client.lastReady := rfl
      simp only [step, hlast]
      cases s.client.lastReady with
      | none => exact ⟨⟨w, rfl, hw⟩, rfl⟩
      | some r => exact ⟨⟨w, rfl, hw⟩, rfl⟩
    | load name =>
      obtain ⟨w, rfl, hw⟩ := h
      exact ⟨⟨w, rfl, hw⟩, rfl⟩
    | start name =>
      obtain ⟨w, rfl, hw⟩ := h
      exact ⟨⟨w, rfl, hw⟩, rfl⟩
    | submit name draft =>
      obtain ⟨w, rfl, hw⟩ := h
      exact ⟨⟨w, rfl, hw⟩, rfl⟩
    | revoke name =>
      obtain ⟨w, rfl, hw⟩ := h
      exact ⟨⟨w, rfl, hw⟩, rfl⟩
    | dropFuture name =>
      obtain ⟨w, rfl, hw⟩ := h
      exact ⟨⟨w, rfl, hw⟩, rfl⟩

/-! ### Whole runs -/

/-- All that can be seen of a report: everything but the replies on the wire. -/
def Report.visible (r : Report) : Report :=
  { r with session := r.session.withWire ⟨r.session.wire.sent, [], []⟩ }

/-- Steps that keep sessions abreast look the same. -/
lemma reportStep_alike (h : s.Alike D t) {a b : SessionStep} (hab : a.Alike D b)
    (hD : ∀ n ∈ s.heeded a, ¬ D n) :
    (t.reportStep b).visible = (s.reportStep a).visible ∧
      (s.reportStep a).session.Alike D (t.reportStep b).session := by
  obtain ⟨hx, hout⟩ := step_alike h hab hD
  refine ⟨?_, hx⟩
  obtain ⟨w, rfl, hw⟩ := h
  obtain ⟨w', ht, hw'⟩ := hx
  have hsent : (s.withWire w).wire.sent = s.wire.sent := hw.sent
  have hsent' : ((s.step a).1.withWire w').wire.sent = (s.step a).1.wire.sent := hw'.sent
  simp only [reportStep, Report.visible, ht, hout, hsent, hsent']
  rfl

/-- **The run of the lockstep.** Runs that differ only in replies that the latest operation does
not use look the same after every step. -/
lemma reports_alike {as bs : List SessionStep} (hsteps : List.Forall₂ (SessionStep.Alike D) as bs)
    (h : s.Alike D t) (hD : ∀ n ∈ s.heededIn as, ¬ D n) :
    (t.reports bs).map Report.visible = (s.reports as).map Report.visible := by
  induction hsteps generalizing s t with
  | nil => rfl
  | @cons a b as bs hab _ ih =>
    simp only [heededIn, List.mem_append] at hD
    obtain ⟨hvisible, hnext⟩ := reportStep_alike h hab fun n hn => hD n (.inl hn)
    simp only [reports, List.map_cons, hvisible]
    rw [ih hnext fun n hn => hD n (.inr hn)]

/-- **The latest operation wins.** When the reply of a superseded operation is used, whatever it
is, the session stays as it was just before, and the operation completes. So two runs with the same
steps, whose replies differ only for requests whose replies the latest operation never uses, look
the same after every step.

**Proof sketch.** The first part is `consume_of_superseded`: settling checks the generation, and so
does an accepted submission or revocation before it goes on. The second part is the lockstep
`reports_alike`, in which a reply that may differ meets a superseded operation in both runs. -/
theorem superseded_replies_have_no_effect :
    (∀ (s s' : Session) (name : String) (f : Future) (number : Nat) (reply : Reply),
      s.futures.find? name = some f →
      f.generation ≠ s.client.generation →
      (s.without name).receive f = (s', number, some reply) →
        s.poll name = (s', (f.lapse s.client.state).outcome) ∧
        (∀ other, s'.consume f other = (s', f.lapse s.client.state)) ∧
        s' = (s.without name).withWire s'.wire ∧
        s'.wire.sent =
          if f.sent.isSome then s.wire.sent else s.wire.sent ++ [f.request s.endpoint]) ∧
    (∀ (endpoint : String) (surface : Surface) (bridge : Bridge)
      (scripted scripted' : List (Option Reply)) (steps steps' : List SessionStep),
      let s := fresh endpoint surface bridge scripted
      let s' := fresh endpoint surface bridge scripted'
      let unheeded := fun n => n ∉ s.heededIn steps
      (∀ n, Option.Rel (Reply.Alike unheeded n) scripted[n]?.join scripted'[n]?.join) →
      List.Forall₂ (SessionStep.Alike unheeded) steps steps' →
        (s'.reports steps').map Report.visible = (s.reports steps).map Report.visible) := by
  refine ⟨fun s s' name f number reply hf hgen hreceive => ?_, ?_⟩
  · have hframe := receive_eq hreceive
    have hclient : s'.client = s.client := by
      rw [hframe]
      rfl
    have hconsume : ∀ other, s'.consume f other = (s', f.lapse s.client.state) := by
      intro other
      rw [consume_of_superseded (by rwa [hclient]), hclient]
    have hsent := receive_sent hreceive
    refine ⟨?_, hconsume, hframe, hsent⟩
    rw [poll_of_reply hf hreceive, hconsume, keep_lapse]
  · intro endpoint surface bridge scripted scripted' steps steps' s s' unheeded hscript hsteps
    have hstart : s.Alike unheeded s' :=
      ⟨.fresh scripted', rfl, ⟨rfl, hscript, fun n => .none⟩⟩
    exact reports_alike hsteps hstart fun n hn hno => hno hn

/-- Two loads overlap, and the reply to the first one comes in after the second one has begun. -/
def overlappingLoads (late : Reply) : List SessionStep :=
  [.load "a", .poll "a", .load "b", .poll "b", .respond 0 late, .poll "a",
    .respond 1 (.ok (.empty 500)), .poll "b"]

/-- Of two overlapping loads, the first one is done without any effect when its reply comes, and
whether that is a timeout or an empty response cannot be seen. -/
theorem superseded_load_has_no_effect :
    let s := fresh gdprEndpoint .lines .watching []
    let timeout : Reply := .error (.transport .timeout "late")
    let answered := s.run ((overlappingLoads timeout).take 5)
    (answered.futures.find? "a" = some (.load 1 (some 0)) ∧
      (Future.load 1 (some 0)).generation ≠ answered.client.generation ∧
      (answered.poll "a").2 = .loaded .loading) ∧
    s.heededIn (overlappingLoads timeout) = [1] ∧
    (s.reports (overlappingLoads (.ok (.empty 200)))).map Report.visible =
      (s.reports (overlappingLoads timeout)).map Report.visible := by
  intro s timeout answered
  have hfind : answered.futures.find? "a" = some (.load 1 (some 0)) := by decide
  have hold : (Future.load 1 (some 0)).generation ≠ answered.client.generation := by decide
  have hreceive : (answered.without "a").receive (.load 1 (some 0)) =
      (((answered.without "a").receive (.load 1 (some 0))).1, 0, some timeout) := rfl
  have hpoll := superseded_replies_have_no_effect.1 answered _ "a" _ 0 timeout hfind hold hreceive
  have hlate : 0 ∉ s.heededIn (overlappingLoads timeout) := by decide
  refine ⟨⟨hfind, hold, by rw [hpoll.1]; rfl⟩, by decide, ?_⟩
  refine superseded_replies_have_no_effect.2 gdprEndpoint .lines .watching [] [] _ _
    (fun _ => .none) ?_
  exact .cons (.same _) <| .cons (.same _) <| .cons (.same _) <| .cons (.same _) <|
    .cons (.respond _ _ hlate) <| .cons (.same _) <| .cons (.same _) <| .cons (.same _) .nil

end Session

end Consent
