import Consent.Proofs.Session.Calm
import Consent.Proofs.Session.Lockstep

set_option autoImplicit false

/-!
# The host does not disturb the client

The client tells the host's observer about each record, and the observer may look at the client's
state. As long as it does no more than that, nothing that the host does makes a difference to the
client: not when slots are bound, when observers come and go or are attached, which tickets are
given out, nor which records the host brings to the bridge by hand.

A session is compared with one without a host. Steps of the host have no counterpart there, and
the steps of the client go in lockstep. So sessions with the same steps of the client, and any steps
of their hosts in between, agree with one another.

## Main definitions

* `Consent.Observer.Host.Tame` — no observer that the host owns has the client load.
* `Consent.Session.unhosted` — what there is to a session without its host.
* `Consent.Session.Rehosted` — sessions that differ in their hosts only, which are tame.
* `Consent.clientSteps`, `Consent.Session.clientReports` — the steps of the client, and what can be
  seen after each of them.

## Main results

* `Consent.Session.rehosted_lockstep` — sessions that differ in their hosts go in lockstep.
* `Consent.Session.Rehosted.hostStep` — a step of a host leaves the rest of the session.
* `Consent.Session.Rehosted.run` — a run does to the client what its client steps do.
* `Consent.Session.host_does_not_disturb_client` — hosts make no difference to the client.
-/

namespace Consent

namespace Observer

/-- Whether a step makes no observer that has the client load. -/
def HostStep.tame : HostStep → Bool
  | .makeObserver _ reaction => reaction ≠ .load
  | _ => true

namespace Host

variable {host : Host}

/-- No observer that the host owns has the client load. -/
def Tame (host : Host) : Prop := ∀ entry ∈ host.observers, entry.2.reaction ≠ .load

/-- Whether a host is tame depends on its observers only. -/
lemma Tame.of_observers (h : host.Tame) {other : Host} (hsame : other.observers = host.observers) :
    other.Tame := by
  rw [Tame, hsame]
  exact h

/-- A tame host stays so when its bridge moves on, and a call that comes of it does not have the
client load. -/
lemma Tame.moved (h : host.Tame) (b : Bridge × Option (Handle × Verdict)) :
    (host.moved b).1.Tame ∧ ∀ call ∈ (host.moved b).2, call.reaction ≠ .load := by
  refine ⟨h, fun call hcall => ?_⟩
  obtain ⟨owned, hfound, hreaction⟩ := moved_call hcall
  rw [hreaction]
  exact h (call.observer, owned) (List.mem_of_find?_eq_some hfound)

/-- A tame host stays so if its observers stay, and there is no call. -/
lemma Tame.quiet (h : host.Tame) {other : Host} (hsame : other.observers = host.observers)
    (outcome : Outcome) :
    (other.quiet outcome).1.Tame ∧ ∀ call ∈ (other.quiet outcome).2.2, call.reaction ≠ .load :=
  ⟨h.of_observers hsame, nofun⟩

/-- **A tame host stays tame** in a step that makes no observer of the other kind, and a call that
comes of it does not have the client load. -/
lemma Tame.step (h : host.Tame) {step : HostStep} (hstep : step.tame = true) :
    (host.step step).1.Tame ∧ ∀ call ∈ (host.step step).2.2, call.reaction ≠ .load := by
  cases step with
  | makeObserver name reaction =>
    refine Tame.quiet (fun entry hentry => ?_) rfl _
    rcases Table.mem_put.mp hentry with rfl | ⟨hold, -⟩
    · simpa [HostStep.tame] using hstep
    · exact h entry hold
  | dropObserver name =>
    exact Tame.quiet (fun entry hentry => h entry (Table.mem_erase_iff.mp hentry).1) rfl _
  | isBound slot => exact h.quiet rfl _
  | current slot => exact h.quiet rfl _
  | pollWatch name => exact h.quiet rfl _
  | compare name other => exact h.quiet rfl _
  | arm => exact h.quiet rfl _
  | takeTicket name => exact h.quiet rfl _
  | cloneSlot slot name =>
    simp only [Host.step]
    split <;> exact h.quiet rfl _
  | dropSlot slot =>
    simp only [Host.step]
    split <;> exact h.quiet rfl _
  | subscribe slot name =>
    simp only [Host.step]
    split <;> exact h.quiet rfl _
  | makeHandle name observer =>
    simp only [Host.step]
    split <;> exact h.quiet rfl _
  | bind slot observer =>
    simp only [Host.step]
    split
    · split <;> exact h.quiet rfl _
    · exact h.quiet rfl _
  | attachHandle handle =>
    simp only [Host.step]
    split
    · exact h.moved _
    · exact h.quiet rfl _
  | attachObserver observer =>
    simp only [Host.step]
    split
    · exact h.moved _
    · exact h.quiet rfl _
  | run =>
    simp only [Host.step, Host.run]
    split
    · exact h.quiet rfl .nothing
    · split
      · exact h.quiet rfl .nothing
      · split
        · exact h.quiet rfl .nothing
        · exact h.quiet rfl .nothing
        · exact (h.of_observers (by rfl)).moved _
  | notify record => exact (h.of_observers (by rfl)).moved _
  | notifyAt ticket record =>
    simp only [Host.step]
    split
    · exact h.moved _
    · exact h.quiet rfl _

end Host

end Observer

open Observer

/-- Whether a step makes no observer that has the client load. -/
def SessionStep.tame : SessionStep → Bool
  | .host step => step.tame
  | _ => true

/-- The steps of the client among some steps. -/
def clientSteps (steps : List SessionStep) : List SessionStep := steps.filter (!·.isHost)

namespace Session

variable {s t u : Session}

/-- What there is to a session without its host, and without what observers have been told. -/
def unhosted (s : Session) : Session :=
  { s with host := .fresh .detached, output := s.shown.map .shown }

/-- What has been shown does not depend on the host. -/
@[simp] lemma shown_unhosted (s : Session) : s.unhosted.shown = s.shown := by
  simp [unhosted, shown, Function.comp_def]

/-- Showing a client does not depend on the host. -/
lemma unhosted_showing (s : Session) (c : Client) :
    (s.showing c).unhosted = s.unhosted.showing c := by
  rw [unhosted, shown_showing]
  simp [unhosted, showing]

/-- Sessions that differ in nothing but their hosts and what observers have been told. No observer
has the client load. -/
structure Rehosted (s t : Session) : Prop where
  unhosted : t.unhosted = s.unhosted
  tame : s.host.Tame
  tame' : t.host.Tame

/-- A session is related to itself if its host is tame. -/
lemma Rehosted.refl (h : s.host.Tame) : s.Rehosted s := ⟨rfl, h, h⟩

/-- Which of two sessions comes first does not matter. -/
lemma Rehosted.symm (h : s.Rehosted t) : t.Rehosted s := ⟨h.unhosted.symm, h.tame', h.tame⟩

/-- Sessions that are each related to a third one are related. -/
lemma Rehosted.trans (h : s.Rehosted t) (h' : t.Rehosted u) : s.Rehosted u :=
  ⟨h'.unhosted.trans h.unhosted, h.tame, h'.tame'⟩

/-- Sessions that are related have shown the same. -/
lemma Rehosted.shown (h : s.Rehosted t) : t.shown = s.shown := by
  rw [← t.shown_unhosted, h.unhosted, s.shown_unhosted]

/-- A client is shown in lockstep. -/
lemma Rehosted.showing (h : s.Rehosted t) (c : Client) : (s.showing c).Rehosted (t.showing c) :=
  ⟨by rw [unhosted_showing, unhosted_showing, h.unhosted], h.tame, h.tame'⟩

/-! ### A host on its own -/

/-- Another tame host leaves the rest of the session. -/
lemma rehosted_withHost (h : s.host.Tame) {host : Host} (hhost : host.Tame) :
    s.Rehosted { s with host := host } := ⟨rfl, h, hhost⟩

/-- Noting a call leaves the rest of the session, if it does not have the client load. -/
lemma rehosted_noting (h : s.host.Tame) {call : Option Call}
    (hcall : ∀ c ∈ call, c.reaction ≠ .load) : s.Rehosted (s.noting call) := by
  obtain ⟨notes, hnoting⟩ := noting_of_calm s hcall
  rw [hnoting]
  exact ⟨by rw [unhosted, shown_append_told, unhosted], h, h⟩

/-- **A step of the host leaves the rest of the session.** -/
lemma Rehosted.hostStep (h : s.Rehosted t) {step : HostStep} (hstep : step.tame = true) :
    (s.step (.host step)).1.Rehosted t := by
  obtain ⟨hhost, hcall⟩ := h.tame.step hstep
  have hnoting : { s with host := (s.host.step step).1 }.Rehosted (s.step (.host step)).1 :=
    rehosted_noting hhost hcall
  exact ((rehosted_withHost h.tame hhost).trans hnoting).symm.trans h

/-! ### Lockstep -/

/-- Settles an operation, without telling the host. -/
def settleUntold (s : Session) (generation : Nat) (next : LoadState) : Session :=
  match s.client.settle? generation next with
  | none => s
  | some client => s.showing client

/-- Telling the host about what is settled leaves the rest of the session. -/
lemma rehosted_settle (h : s.host.Tame) (generation : Nat) (next : LoadState) :
    (s.settleUntold generation next).Rehosted (s.settle generation next) := by
  simp only [settleUntold, settle]
  cases s.client.settle? generation next with
  | none => exact .refl h
  | some client =>
    cases next.record? with
    | none => exact .refl (s := s.showing client) h
    | some r =>
      have hticket : (s.showing client).Rehosted (s.takeTicket.1.showing client) := ⟨rfl, h, h⟩
      obtain ⟨hhost, hcall⟩ := hticket.tame'.moved
        (s.takeTicket.1.host.bridge.notifyAt s.takeTicket.1.host.isAlive s.takeTicket.2 r)
      have hmoved := hticket.trans (rehosted_withHost hticket.tame' hhost)
      exact hmoved.trans (rehosted_noting hmoved.tame' hcall)

/-- Settling without telling the host goes in lockstep. -/
lemma Rehosted.settleUntold (h : s.Rehosted t) (generation : Nat) (next : LoadState) :
    (s.settleUntold generation next).Rehosted (t.settleUntold generation next) := by
  have hclient : t.client = s.client := congrArg (·.client) h.unhosted
  simp only [Session.settleUntold, hclient]
  cases s.client.settle? generation next with
  | none => exact h
  | some client => exact h.showing client

/-- Looking for a reply goes in lockstep. -/
lemma Rehosted.exchange (h : s.Rehosted t) (request : Request) (sent : Option Nat) :
    (s.exchange request sent).1.Rehosted (t.exchange request sent).1 ∧
      (t.exchange request sent).2 = (s.exchange request sent).2 := by
  have hwire : t.wire = s.wire := congrArg (·.wire) h.unhosted
  have hsame : (t.exchange request sent).1.wire = (s.exchange request sent).1.wire ∧
      (t.exchange request sent).2 = (s.exchange request sent).2 := by
    cases sent <;> simp [Session.exchange, hwire]
  rw [exchange_eq s, exchange_eq t, hsame.1]
  refine ⟨⟨?_, h.tame, h.tame'⟩, hsame.2⟩
  exact congrArg (·.withWire (s.exchange request sent).1.wire) h.unhosted

/-- **Sessions that differ in their hosts go in lockstep.** -/
lemma rehosted_lockstep : Lockstep (fun _ _ _ => False) Rehosted where
  operation := False.elim
  client h := congrArg (·.client) h.unhosted
  endpoint h := congrArg (·.endpoint) h.unhosted
  find? := by
    intro s t h name
    have hfutures : t.futures = s.futures := congrArg (·.futures) h.unhosted
    rw [hfutures]
    cases s.futures.find? name with
    | none => exact .none
    | some f => exact .some (.same f)
  put := by
    rintro s t f f' h (- | hq) name
    · exact ⟨congrArg (fun u => { u with futures := u.futures.put name f }) h.unhosted, h.tame,
        h.tame'⟩
    · exact hq.elim
  without h name := ⟨congrArg (·.without name) h.unhosted, h.tame, h.tame'⟩
  showing h c := h.showing c
  settle h generation next :=
    (rehosted_settle h.tame generation next).symm.trans <|
      (h.settleUntold generation next).trans (rehosted_settle h.tame' generation next)
  receive := by
    rintro s t f f' h (- | hq)
    · have hendpoint : t.endpoint = s.endpoint := congrArg (·.endpoint) h.unhosted
      rw [Session.receive, Session.receive, hendpoint]
      exact h.exchange _ _
    · exact hq.elim
  arm h := ⟨h.unhosted, h.tame, h.tame'⟩
  respond := by
    intro s t h number reply
    have hwire : t.wire = s.wire := congrArg (·.wire) h.unhosted
    simp only [step, hwire]
    cases s.wire.arrive? number reply with
    | none => exact ⟨h, rfl⟩
    | some wire =>
      exact ⟨⟨congrArg (fun u => { u with wire := wire }) h.unhosted, h.tame, h.tame'⟩, rfl⟩

/-! ### Whole runs -/

/-- What a report says about the client. -/
def Report.unhosted (r : Report) : Report :=
  { r with session := r.session.unhosted, notes := [] }

/-- What can be seen of the client right after each of its own steps. -/
def clientReports (s : Session) : List SessionStep → List Report
  | [] => []
  | x :: xs =>
    let report := s.reportStep x
    if x.isHost then report.session.clientReports xs
    else report.unhosted :: report.session.clientReports xs

/-- A step of the client looks the same in sessions that differ in their hosts. -/
lemma Rehosted.reportStep (h : s.Rehosted t) {x : SessionStep} (hx : x.isHost = false) :
    (t.reportStep x).unhosted = (s.reportStep x).unhosted ∧
      (s.reportStep x).session.Rehosted (t.reportStep x).session := by
  obtain ⟨hstep, houtcome⟩ := rehosted_lockstep.step h hx
  refine ⟨?_, hstep⟩
  have hsent : t.wire.sent = s.wire.sent := congrArg (·.wire.sent) h.unhosted
  have hsent' : (t.step x).1.wire.sent = (s.step x).1.wire.sent :=
    congrArg (·.wire.sent) hstep.unhosted
  simp only [Session.reportStep, Report.unhosted, houtcome, hstep.unhosted, h.shown, hstep.shown,
    hsent, hsent']

/-- **A run does to the client what its client steps do** in a session with another host.

**Proof sketch.** By induction on the steps: one of the host has no counterpart, and one of the
client goes in lockstep. -/
lemma Rehosted.run (h : s.Rehosted t) {steps : List SessionStep}
    (hsteps : ∀ x ∈ steps, x.tame = true) :
    (s.run steps).Rehosted (t.run (clientSteps steps)) ∧
      t.clientReports (clientSteps steps) = s.clientReports steps := by
  induction steps generalizing s t with
  | nil => exact ⟨h, rfl⟩
  | cons x xs ih =>
    obtain ⟨hx, hxs⟩ := List.forall_mem_cons.mp hsteps
    cases hhost : x.isHost with
    | true =>
      cases x with
      | host step =>
        obtain ⟨hrun, hreports⟩ := ih (h.hostStep hx) hxs
        exact ⟨hrun, hreports⟩
      | _ => simp [SessionStep.isHost] at hhost
    | false =>
      obtain ⟨hreport, hstep⟩ := h.reportStep hhost
      obtain ⟨hrun, hreports⟩ := ih hstep hxs
      have hclient : clientSteps (x :: xs) = x :: clientSteps xs := by simp [clientSteps, hhost]
      rw [hclient]
      refine ⟨hrun, ?_⟩
      simp only [clientReports, hhost, hreport, hreports]

/-- **The host does not disturb the client.** Take two sessions whose clients take the same steps
and get the same replies, with whatever hosts, bridges and steps of the hosts in between, such that
no observer has the client load. Then at corresponding points, after as many steps of the clients,
they agree in all but their hosts: the client's state and last known record, what has been shown,
the requests that were sent, the replies that are there, and the futures. Each step of the clients
comes to the same, polls included.

**Proof sketch.** Each session agrees with one that takes the steps of the client only
(`Rehosted.run`), and this is the same for both. -/
theorem host_does_not_disturb_client (endpoint : String) (surface : Surface)
    (scripted : List (Option Reply)) (bridge bridge' : Bridge) (steps steps' : List SessionStep)
    (hsteps : ∀ x ∈ steps, x.tame = true) (hsteps' : ∀ x ∈ steps', x.tame = true)
    (hclient : clientSteps steps' = clientSteps steps) :
    let s := fresh endpoint surface bridge scripted
    let t := fresh endpoint surface bridge' scripted
    (t.run steps').unhosted = (s.run steps).unhosted ∧
      t.clientReports steps' = s.clientReports steps := by
  intro s t
  have hs : s.Rehosted s := .refl fun _ => nofun
  have ht : t.Rehosted s := ⟨rfl, fun _ => nofun, fun _ => nofun⟩
  obtain ⟨hrun, hreports⟩ := hs.run hsteps
  obtain ⟨hrun', hreports'⟩ := ht.run hsteps'
  rw [hclient] at hrun' hreports'
  exact ⟨(hrun.trans hrun'.symm).unhosted, hreports'.symm.trans hreports⟩

/-- A load with an observer that looks at the client's state, and that the host tells once more. -/
def attendedLoad : List SessionStep :=
  [.host (.makeObserver "o" .state), .load "a", .host (.attachObserver "o"), .poll "a",
    .host (.notify .empty)]

/-- A load with nobody to tell. -/
def unattendedLoad : List SessionStep := [.load "a", .poll "a"]

/-- The observer is called twice, which makes no difference to the load. -/
theorem attended_load_is_not_disturbed :
    let s := fresh gdprEndpoint .lines .watching emptyThenGranted
    let t := fresh gdprEndpoint .lines .detached emptyThenGranted
    (∀ x ∈ attendedLoad, x.tame = true) ∧ (∀ x ∈ unattendedLoad, x.tame = true) ∧
    clientSteps unattendedLoad = clientSteps attendedLoad ∧
    (s.run attendedLoad).notes.length = 2 ∧ (t.run unattendedLoad).notes = [] ∧
    (t.run unattendedLoad).unhosted = (s.run attendedLoad).unhosted ∧
    t.clientReports unattendedLoad = s.clientReports attendedLoad := by
  have hattended : ∀ x ∈ attendedLoad, x.tame = true := by decide
  have hunattended : ∀ x ∈ unattendedLoad, x.tame = true := by decide
  have hclient : clientSteps unattendedLoad = clientSteps attendedLoad := rfl
  exact ⟨hattended, hunattended, hclient, by decide +kernel, rfl,
    host_does_not_disturb_client gdprEndpoint .lines emptyThenGranted .watching .detached
      attendedLoad unattendedLoad hattended hunattended hclient⟩

end Session

end Consent
