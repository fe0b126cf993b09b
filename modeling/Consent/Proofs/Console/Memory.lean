import Consent.Proofs.Session.Screen
import Mathlib.Data.List.Induction

set_option autoImplicit false

/-!
# What a console remembers

A client and the console that shows it each keep a record of their own: the client the one of the
last ready state that it was in, the console the one of the last ready state that it was shown. The
two are updated at different places, yet they are the same after every transition, so the record
that a console shows below a failure is the last known record of the client.

What a console remembers does not depend on whether it can write: a ready state is remembered even
if the text that shows it is lost.

## Main definitions

* `Consent.LoadState.latest` — the record of the last ready state among some states.
* `Consent.Session.Remembering` — the console of a session remembers what the client knows.

## Main results

* `Consent.Session.Transits.remembering` — transitions of the client keep it so, and what is
  written shows the last known record of the client.
* `Consent.Terminal.run_lastReady`, `Consent.Terminal.step_render` — what a console remembers, and
  what it writes, while writing fails and recovers.
* `Consent.console_remembers_what_client_knows` — both for all sessions and all terminals.
-/

namespace Consent

open Observer

/-- A transition gives the client a record if its state has one, and leaves the last known one if
not. -/
lemma Client.Next.lastReady {c d : Client} (h : c.Next d) :
    d.lastReady = d.state.record?.or c.lastReady := by
  cases h <;> rfl

/-! ### Consoles of clients -/

namespace Session

variable {s t : Session} {cs : List Client}

/-- The session is shown on a console, which remembers the last known record of the client. -/
def Remembering (s : Session) : Prop := s.surface = .console ⟨s.client.lastReady⟩

/-- **Going through transitions, the console goes on to remember what the client knows**, and what
it writes for each of them shows the last known record right after it.

**Proof sketch.** A console that shows a state remembers its record, or keeps the one that it has,
just as the client does in the transition. -/
lemma Transits.remembering (h : s.Transits cs t) (hs : s.Remembering) :
    t.Remembering ∧ t.shown = s.shown ++ cs.map fun c => c.state.lines c.lastReady := by
  induction h with
  | rest client surface _ shown =>
    refine ⟨?_, by simpa using shown⟩
    rw [Remembering, client, surface, hs]
  | @move s c hnext =>
    have hshows : s.surface.render c.state =
        (.console ⟨c.lastReady⟩, some (c.state.lines c.lastReady)) := by
      rw [hnext.lastReady, hs]
      rfl
    refine ⟨?_, by simp [hshows]⟩
    simp [Remembering, showing, hshows]
  | trans _ _ ih ih' =>
    obtain ⟨ht, hshown⟩ := ih hs
    obtain ⟨hu, hshown'⟩ := ih' ht
    exact ⟨hu, by rw [hshown', hshown, List.append_assoc, List.map_append]⟩

end Session

/-! ### Consoles that cannot always write -/

/-- The record of the last ready state among some states. -/
def LoadState.latest (states : List LoadState) : Option Record :=
  (states.filterMap LoadState.record?).getLast?

/-- One more state. -/
lemma LoadState.latest_concat (states : List LoadState) (state : LoadState) :
    latest (states ++ [state]) = state.record?.or (latest states) := by
  rw [latest, latest, List.filterMap_append, List.getLast?_append]
  cases h : state.record? <;> simp [h]

namespace TerminalStep

/-- The state that is shown in a step. -/
def state? : TerminalStep → Option LoadState
  | render state => some state
  | _ => none

/-- Whether writing works from a step on, if that is what the step is about. -/
def works? : TerminalStep → Option Bool
  | fails => some false
  | recovers => some true
  | _ => none

end TerminalStep

namespace Terminal

variable (t : Terminal)

/-- Nothing but a failure or a recovery changes whether writing works. -/
lemma step_works (x : TerminalStep) : (t.step x).sink.works = x.works?.getD t.sink.works := by
  have hwrite : ∀ text, (t.sink.write text).works = t.sink.works := by
    intro text
    simp only [Sink.write]
    split <;> rfl
  cases x with
  | render state => exact hwrite _
  | tell verdict => exact hwrite _
  | fails => rfl
  | recovers => rfl

/-- A console remembers the record of a ready state that it is shown. -/
lemma step_lastReady (x : TerminalStep) : (t.step x).console.lastReady =
    (x.state?.bind LoadState.record?).or t.console.lastReady := by
  cases x <;> rfl

/-- What a console writes for a state, as long as writing works. -/
lemma step_render (state : LoadState) :
    (t.step (.render state)).sink.written = t.sink.written ++
      if t.sink.works then state.lines (state.record?.or t.console.lastReady) else "" := by
  show (t.sink.write _).written = _
  rw [Sink.write]
  split
  · rfl
  · exact String.append_empty.symm

/-- One more step. -/
lemma run_concat (steps : List TerminalStep) (x : TerminalStep) :
    t.run (steps ++ [x]) = (t.run steps).step x := by
  simp [run]

/-- Writing works if it recovered after it failed last. -/
lemma run_works (steps : List TerminalStep) : (t.run steps).sink.works =
    (steps.filterMap TerminalStep.works?).getLast?.getD t.sink.works := by
  induction steps using List.reverseRecOn with
  | nil => rfl
  | append_singleton steps x ih =>
    rw [run_concat, step_works, ih, List.filterMap_append, List.getLast?_append]
    cases h : x.works? <;> simp [h]

/-- **A console remembers the last ready state that it was shown**, whether or not it could write
the text. -/
lemma run_lastReady (steps : List TerminalStep) : (t.run steps).console.lastReady =
    (LoadState.latest (steps.filterMap TerminalStep.state?)).or t.console.lastReady := by
  induction steps using List.reverseRecOn with
  | nil => rfl
  | append_singleton steps x ih =>
    rw [run_concat, step_lastReady, ih, List.filterMap_append]
    cases h : x.state? with
    | none => simp [h]
    | some state => simp [h, LoadState.latest_concat, Option.or_assoc]

end Terminal

/-! ### The two memories -/

/-- **A console remembers what the client knows.** In every session that is shown on a console, the
console's record is the client's last known one, and the text written for each transition shows the
new state with the record that is known right after it. On a terminal that may fail and recover at
any time, each state is shown with the record of the last ready state so far, its own included, if
writing works, and else nothing is written; a ready state counts even if its text was lost.

**Proof sketch.** A run goes through transitions of the client (`Session.run_transits`), which keep
the two records the same. For the second part, the record and the sink are each determined by the
steps so far. -/
theorem console_remembers_what_client_knows :
    (∀ (endpoint : String) (bridge : Bridge) (scripted : List (Option Reply))
        (steps : List SessionStep),
      let start := Session.fresh endpoint (.console .fresh) bridge scripted
      let s := start.run steps
      s.surface = .console ⟨s.client.lastReady⟩ ∧
        ∃ clients, start.Transits clients s ∧ s.rendered = clients.map (·.state) ∧
          s.shown = clients.map fun c => c.state.lines c.lastReady) ∧
    ∀ (before : List TerminalStep) (state : LoadState),
      let t := Terminal.fresh.run before
      let known := LoadState.latest (before.filterMap TerminalStep.state? ++ [state])
      t.sink.works = (before.filterMap TerminalStep.works?).getLast?.getD true ∧
        (t.step (.render state)).sink.written =
          t.sink.written ++ if t.sink.works then state.lines known else "" := by
  constructor
  · intro endpoint bridge scripted steps start s
    obtain ⟨clients, htransits⟩ := start.run_transits steps
    obtain ⟨hremembers, hshown⟩ := htransits.remembering (s := start) rfl
    exact ⟨hremembers, clients, htransits, htransits.displays.rendered, hshown⟩
  · intro before state t known
    have hknown : known = state.record?.or t.console.lastReady := by
      rw [Terminal.run_lastReady]
      exact (LoadState.latest_concat _ state).trans (congrArg _ Option.or_none.symm)
    refine ⟨Terminal.fresh.run_works before, ?_⟩
    rw [t.step_render, hknown]

/-- A load is answered with a record, and the next one fails: the record stands below the failure.
So it does at a terminal that could not write while it was shown the record. -/
theorem failure_is_shown_with_last_known_record :
    let granted := "\x7b\"user\":\"urn:x\",\"testbed_access\":true,\"until\":\"2030-01-01\"\x7d"
    let replies : List (Option Reply) :=
      [some (.ok ⟨200, Utf8.ofString granted⟩), some (.ok (.empty 500))]
    let steps : List SessionStep := [.load "a", .poll "a", .load "b", .poll "b"]
    let s := (Session.fresh gdprEndpoint (.console .fresh) .detached replies).run steps
    let record :=
      "  user:           urn:x\n  main terms:     not accepted\n" ++
      "  user data:      not accepted\n  testbed access: allowed until 2030-01-01\n"
    let loaded := "status: loaded\n" ++ record
    let failed := "status: ERROR - fetch: unexpected status 500\nlast known:\n" ++ record
    let unwritten : List TerminalStep :=
      [.fails, .render (.ready ⟨"urn:x", false, false, true, "2030-01-01"⟩), .recovers]
    let t := Terminal.fresh.run unwritten
    s.surface = .console ⟨s.client.lastReady⟩ ∧
    s.shown = ["status: loading...\n", loaded, "status: loading...\n", failed] ∧
    t.sink.written = "" ∧
    (t.step (.render (.failed (.unexpectedStatus .fetch 500 "")))).sink.written = failed := by
  intro granted replies steps s record loaded failed unwritten t
  obtain ⟨hsessions, hterminals⟩ := console_remembers_what_client_knows
  have hsurface := (hsessions gdprEndpoint .detached replies steps).1
  have hwritten := (hterminals unwritten (.failed (.unexpectedStatus .fetch 500 ""))).2
  refine ⟨hsurface, by decide +kernel, by decide +kernel, hwritten.trans ?_⟩
  decide +kernel

end Consent
