import Consent.Proofs.Session.Ownership
import Mathlib.Data.List.Chain

set_option autoImplicit false

/-!
# The history of states shown

Every change of the client's state is shown, so the history of states shown says all there is to
know about the client: its state is the last one shown, and the record it knows is that of the last
ready one. The history is one that the state machine allows: it begins with loading, and a state in
which an operation has completed comes only right after loading.

Each entry of the history belongs to one event of the session. Loading is shown once for each
operation that begins, and the operations that settle do so in the order in which they began, each
one at most once.

## Main definitions

* `Consent.LoadState.Follows` — which state may be shown after which.
* `Consent.Session.callsIn` — the futures called in a run.
* `Consent.Session.Recorded` — the history tells the client's state, and obeys the state machine.

## Main results

* `Consent.Session.Recorded.change` — one change keeps the invariant.
* `Consent.Session.Recorded.run` — a run keeps it.
* `Consent.Session.history_obeys_state_machine` — the history of every session.
-/

namespace Consent

open Observer

/-- Which state may be shown after which: loading at any time, and the outcome of an operation only
after loading. -/
def LoadState.Follows (before after : LoadState) : Prop :=
  after = .loading ∨ before = .loading ∧ after.isSettled = true

/-- The outcome of an operation is not loading. -/
lemma LoadState.ne_loading_of_isSettled {state : LoadState} (h : state.isSettled = true) :
    state ≠ .loading := by
  rintro rfl
  simp [isSettled] at h

namespace Session

/-- The futures called in a run, with their names. -/
def callsIn (s : Session) : List SessionStep → List (String × Future)
  | [] => []
  | x :: xs => (s.called x).toList ++ (s.step x).1.callsIn xs

/-- The history tells the client's state and obeys the state machine, and it is what the events of
the session show. -/
structure Recorded (log : List Event) (s : Session) : Prop where
  rendered : s.rendered = log.map Event.shown
  state : s.client.state = s.rendered.getLast?.getD .idle
  lastReady : s.client.lastReady = (s.rendered.filterMap LoadState.record?).getLast?
  chain : (.idle :: s.rendered).IsChain LoadState.Follows
  generation : s.client.generation = s.rendered.count .loading
  outcome : ∀ g state, .settled g state ∈ log → state.isSettled = true
  /-- The generations that have settled, in order. -/
  once : (log.filterMap Event.generation?).Pairwise (· < ·)
  recent : ∀ g ∈ log.filterMap Event.generation?, g ≤ s.client.generation
  /-- While the client loads, the latest generation has not settled. -/
  due : s.client.state = .loading → ∀ g ∈ log.filterMap Event.generation?, g < s.client.generation

variable {offered : Nat → Reply → Prop} {s t : Session} {log es : List Event}

/-! ### One change -/

/-- The history of a session in which nothing has happened is empty. -/
lemma recorded_fresh (endpoint : String) (surface : Surface) (bridge : Bridge)
    (scripted : List (Option Reply)) : Recorded [] (fresh endpoint surface bridge scripted) :=
  ⟨rfl, rfl, rfl, .singleton _, rfl, nofun, .nil, nofun, nofun⟩

/-- What is not shown does not matter. -/
lemma Recorded.same (hs : Recorded log s) (hclient : t.client = s.client)
    (hrendered : t.rendered = s.rendered) : Recorded log t := by
  constructor
  case rendered => exact hrendered.trans hs.rendered
  case state => rw [hclient, hrendered, hs.state]
  case lastReady => rw [hclient, hrendered, hs.lastReady]
  case chain => exact hrendered ▸ hs.chain
  case generation => rw [hclient, hrendered, hs.generation]
  case outcome => exact hs.outcome
  case once => exact hs.once
  case recent => exact hclient ▸ hs.recent
  case due => exact hclient ▸ hs.due

/-- A state that may follow the client's is added to the history. -/
lemma Recorded.chain_concat (hs : Recorded log s) {next : LoadState}
    (h : s.client.state.Follows next) :
    (.idle :: (s.rendered ++ [next])).IsChain LoadState.Follows := by
  have hlast : (.idle :: s.rendered).getLast? = some s.client.state := by
    rw [List.getLast?_cons, hs.state]
  rw [← List.cons_append]
  refine hs.chain.append (.singleton _) fun before hbefore after hafter => ?_
  obtain rfl : s.client.state = before := Option.some.inj (hlast.symm.trans hbefore)
  obtain rfl : next = after := Option.some.inj hafter
  exact h

/-- A new operation is shown as loading. -/
lemma Recorded.begins (hs : Recorded log s) {e : Event} (hshown : e.shown = .loading)
    (hsettled : e.generation? = none) (hclient : t.client = s.client.begin)
    (hrendered : t.rendered = s.rendered ++ [.loading]) : Recorded (log ++ [e]) t := by
  obtain ⟨hstate, hlast, hgeneration⟩ := Client.begin_state s.client
  have hlog : (log ++ [e]).filterMap Event.generation? = log.filterMap Event.generation? := by
    simp [List.filterMap_append, hsettled]
  have hlt : ∀ g ∈ log.filterMap Event.generation?, g < s.client.generation + 1 := fun g hg =>
    Nat.lt_succ_of_le (hs.recent g hg)
  constructor
  case rendered => rw [hrendered, hs.rendered, List.map_append, List.map_singleton, hshown]
  case state => rw [hclient, hrendered, hstate, List.getLast?_concat, Option.getD_some]
  case lastReady =>
    rw [hclient, hrendered, hlast, hs.lastReady]
    simp [List.filterMap_append, LoadState.record?]
  case chain => exact hrendered ▸ hs.chain_concat (.inl rfl)
  case generation =>
    rw [hclient, hrendered, hgeneration, hs.generation, List.count_append,
      List.count_singleton_self]
  case outcome =>
    intro g state h
    rcases List.mem_append.mp h with h | h
    · exact hs.outcome g state h
    · rw [← List.mem_singleton.mp h] at hsettled
      simp [Event.generation?] at hsettled
  case once => exact hlog ▸ hs.once
  case recent =>
    rw [hlog, hclient, hgeneration]
    exact fun g hg => Nat.le_of_lt (hlt g hg)
  case due =>
    rw [hlog, hclient, hgeneration]
    exact fun _ => hlt

/-- The outcome of the latest operation is shown after loading. -/
lemma Recorded.settles (hs : Recorded log s) {next : LoadState}
    (hload : s.client.state = .loading) (hnext : next.isSettled = true)
    (hclient : t.client = s.client.transition next)
    (hrendered : t.rendered = s.rendered ++ [next]) :
    Recorded (log ++ [.settled s.client.generation next]) t := by
  have hlog : (log ++ [Event.settled s.client.generation next]).filterMap Event.generation? =
      log.filterMap Event.generation? ++ [s.client.generation] := by
    simp [List.filterMap_append, Event.generation?]
  have hother : next ≠ .loading := LoadState.ne_loading_of_isSettled hnext
  constructor
  case rendered => rw [hrendered, hs.rendered, List.map_append, List.map_singleton, Event.shown]
  case state => rw [hclient, hrendered, List.getLast?_concat]; rfl
  case lastReady =>
    rw [hclient, hrendered, List.filterMap_append, Client.transition, hs.lastReady]
    cases hr : next.record? <;> simp [hr]
  case chain => exact hrendered ▸ hs.chain_concat (.inr ⟨hload, hnext⟩)
  case generation =>
    rw [hclient, hrendered, List.count_append, List.count_singleton]
    simpa [Client.transition, hother] using hs.generation
  case outcome =>
    intro g state h
    rcases List.mem_append.mp h with h | h
    · exact hs.outcome g state h
    · obtain ⟨-, rfl⟩ := Event.settled.inj (List.mem_singleton.mp h)
      exact hnext
  case once =>
    rw [hlog, List.pairwise_append]
    refine ⟨hs.once, List.pairwise_singleton _ _, fun g hg g' hg' => ?_⟩
    rw [List.mem_singleton] at hg'
    exact hg' ▸ hs.due hload g hg
  case recent =>
    rw [hlog, hclient]
    intro g hg
    rcases List.mem_append.mp hg with hg | hg
    · exact hs.recent g hg
    · exact Nat.le_of_eq (List.mem_singleton.mp hg)
  case due =>
    rw [hclient]
    exact fun h => absurd h hother

/-- **A change keeps the history true to the client.**

**Proof sketch.** Only a new operation and the outcome of the latest one are shown. The latter comes
while the client loads, because an operation that is the latest one and has a future has not
settled. -/
lemma Recorded.change (hs : Recorded log s) (horderly : s.Orderly) (h : Change s t es) :
    Recorded (log ++ es) t := by
  cases h with
  | same hclient hrendered _ => simpa using hs.same hclient hrendered
  | goesOn _ _ hclient hrendered _ => simpa using hs.same hclient hrendered
  | lapses _ _ hclient hrendered _ => simpa using hs.same hclient hrendered
  | begins he _ hclient hrendered _ => exact hs.begins he.1 he.2 hclient hrendered
  | settles hf hlatest hnext hclient hrendered _ =>
    have hload := horderly.loading _ (Table.mem_of_find? hf) hlatest.symm
    rw [← hlatest]
    exact hs.settles hload hnext hclient hrendered

/-! ### Steps and runs -/

/-- Moves keep the history true to the client. -/
lemma Recorded.moves (hs : Recorded log s) (horderly : s.Orderly) (h : Moves offered s es t) :
    Recorded (log ++ es) t := by
  induction h generalizing log with
  | nil _ => simpa using hs
  | cons h _ ih =>
    rw [← List.append_assoc]
    exact ih (hs.change horderly h.change) (horderly.change h.change)

/-- A step adds what its events show to the history. -/
lemma Recorded.step (hs : Recorded log s) (horderly : s.Orderly) (x : SessionStep) :
    Recorded (log ++ s.events x) (s.step x).1 := by
  rcases s.step_cases_moves x with ⟨name, rfl⟩ | h
  · rw [events_dropFuture, List.append_nil]
    exact hs.same rfl rfl
  · exact hs.moves horderly h

/-- A run adds what its events show to the history. -/
lemma Recorded.run (hs : Recorded log s) (horderly : s.Orderly) (steps : List SessionStep) :
    Recorded (log ++ s.eventsIn steps) (s.run steps) := by
  induction steps generalizing s log with
  | nil => exact (List.append_nil log).symm ▸ hs
  | cons x xs ih =>
    rw [eventsIn, ← List.append_assoc]
    exact ih (hs.step horderly x) (horderly.step x)

/-! ### Operations that begin -/

/-- A step calls an operation once or not at all. -/
lemma count_called_step (s : Session) (x : SessionStep) :
    (s.events x).count .called = (s.called x).toList.length := by
  have hreload : ∀ t : Session, t.reloadEvents.count .called = 0 := by
    intro t
    rw [reloadEvents]
    split <;> rfl
  have hown : (s.ownEvents x).count .called = (s.called x).toList.length := by
    cases x with
    | poll name =>
      simp only [ownEvents, pollEvents, called]
      split
      · rfl
      · split
        · rfl
        · rw [consumeEvents]
          split
          · split
            · rfl
            · exact hreload _
          · rfl
    | _ =>
      simp only [ownEvents]
      cases s.called _ <;> rfl
  rw [events, List.count_append, hown, List.count_replicate]
  rfl

/-- The calls of a run are among its events. -/
lemma count_called_run (s : Session) (steps : List SessionStep) :
    (s.eventsIn steps).count .called = (s.callsIn steps).length := by
  induction steps generalizing s with
  | nil => rfl
  | cons x xs ih =>
    rw [eventsIn, callsIn, List.count_append, List.length_append, count_called_step, ih]

/-- The loads that observers call for in a run are counted. -/
lemma reentered_run (s : Session) (steps : List SessionStep) :
    (s.run steps).reentered = s.reentered + (s.eventsIn steps).count .reentered := by
  induction steps generalizing s with
  | nil => rfl
  | cons x xs ih =>
    rw [eventsIn, List.count_append, ← Nat.add_assoc, ← reentered_step, ← ih]
    rfl

/-- Loading is shown for each operation that begins. -/
lemma count_loading_shown (log : List Event)
    (hlog : ∀ g state, Event.settled g state ∈ log → state ≠ .loading) :
    (log.map Event.shown).count .loading =
      log.count .called + log.count .reloaded + log.count .reentered := by
  induction log with
  | nil => rfl
  | cons e log ih =>
    have htail := ih fun g state h => hlog g state (List.mem_cons_of_mem _ h)
    cases e with
    | settled g state =>
      have hstate := hlog g state List.mem_cons_self
      simp [Event.shown, hstate, htail]
    | called => simp [Event.shown, htail]; omega
    | reloaded => simp [Event.shown, htail]; omega
    | reentered => simp [Event.shown, htail]; omega

/-! ### The history of a session -/

/-- **Every transition is shown, and the history obeys the state machine**, in every session of any
length. The client's state is the last one shown, and the record it knows is that of the last ready
state shown; so a step changes this record only by showing a ready state, and never to nothing. The
history begins with loading, and every outcome in it comes right after loading. It is what the
events of the session show: loading for each operation that is called, that follows an accepted
submission or revocation, or that an observer calls for, as often as the client counts; and the
outcomes of operations, whose generations increase, so that none settles twice.

**Proof sketch.** One change keeps all of this (`Recorded.change`), and a run is a sequence of
changes. -/
theorem history_obeys_state_machine (endpoint : String) (surface : Surface) (bridge : Bridge)
    (scripted : List (Option Reply)) (steps : List SessionStep) :
    let start := fresh endpoint surface bridge scripted
    let s := start.run steps
    let events := start.eventsIn steps
    s.client.state = s.rendered.getLast?.getD .idle ∧
    s.client.lastReady = (s.rendered.filterMap LoadState.record?).getLast? ∧
    (∀ x, ∃ shown, (s.step x).1.rendered = s.rendered ++ shown ∧
      (s.step x).1.client.lastReady =
        (shown.filterMap LoadState.record?).getLast?.or s.client.lastReady) ∧
    (.idle :: s.rendered).IsChain LoadState.Follows ∧
    s.rendered = events.map Event.shown ∧
    s.rendered.count .loading = s.client.generation ∧
    s.rendered.count .loading =
      (start.callsIn steps).length + events.count .reloaded + s.reentered ∧
    (events.filterMap Event.generation?).Pairwise (· < ·) := by
  intro start s events
  have horderly : s.Orderly := (orderly_fresh endpoint surface bridge scripted).run steps
  have hs : Recorded events s :=
    (recorded_fresh endpoint surface bridge scripted).run
      (orderly_fresh endpoint surface bridge scripted) steps
  refine ⟨hs.state, hs.lastReady, fun x => ?_, hs.chain, hs.rendered, hs.generation.symm, ?_,
    hs.once⟩
  · have hnext := hs.step horderly x
    have hshown : (s.step x).1.rendered = s.rendered ++ (s.events x).map Event.shown := by
      rw [hnext.rendered, hs.rendered, List.map_append]
    refine ⟨_, hshown, ?_⟩
    rw [hnext.lastReady, hshown, List.filterMap_append, List.getLast?_append, hs.lastReady]
  · have hreentered : s.reentered = events.count .reentered := by
      have := start.reentered_run steps
      rwa [show start.reentered = 0 from rfl, Nat.zero_add] at this
    rw [hs.rendered, count_loading_shown events fun g state h =>
      LoadState.ne_loading_of_isSettled (hs.outcome g state h), count_called_run, hreentered]

end Session

end Consent
