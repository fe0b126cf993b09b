import Consent.Proofs.Server.Agreement
import Consent.Proofs.Session.Prompt

set_option autoImplicit false

/-!
# What a client ends with

A client that has nothing left to wait for shows what the server kept when it took the last heeded
request, a fetch. This is what the server keeps in the end, unless a superseded submission or
revocation takes effect after that fetch: it does not go on with a load of its own when its reply
comes in, so nobody notices.

## Main definitions

* `Consent.World.Tracks` — the session agrees with the server, and only the server answers.
* `Consent.World.Completes` — a run at whose end all futures have completed.

## Main results

* `Consent.World.Tracks.step`, `Consent.World.Tracks.run` — a step and a run keep track.
* `Consent.World.Tracks.prompt` — a server that answers at once.
* `Consent.World.client_ends_on_last_heeded_fetch` — what a client ends with.
-/

namespace Consent

open Observer

namespace World

/-- A world in which the session agrees with the server, and only the server answers. -/
structure Tracks (w : World) : Prop where
  agrees : Session.Agrees w.effects w.session
  /-- Replies come from requests that have taken effect. -/
  arrived : ∀ entry ∈ w.session.wire.arrived,
    ∃ e ∈ w.effects, e.number = entry.1 ∧ e.reply = entry.2
  /-- What the server keeps is what it kept after any effect that only fetches have followed. -/
  stored : ∀ later e earlier, w.effects = later ++ e :: earlier →
    (∀ e' ∈ later, e'.request.operation = .fetch) → e.stored = w.stored

variable {server : Server} {w : World}

/-- A world in which nothing has happened. -/
lemma tracks_fresh (endpoint : String) (surface : Surface) (bridge : Bridge)
    (stored : Option Stored) : Tracks (fresh endpoint surface bridge stored) :=
  ⟨Session.agrees_fresh endpoint surface bridge, nofun, by simp [fresh]⟩

/-- A step in the session keeps track. -/
lemma Tracks.client (hw : Tracks w) {x : SessionStep}
    (hx : ∀ number reply, x = .respond number reply →
      ∃ e ∈ w.effects, e.number = number ∧ e.reply = reply) :
    Tracks { w with session := (w.session.step x).1 } where
  agrees := hw.agrees.step hw.arrived x
  arrived entry hentry := (w.session.arrived_step x entry hentry).elim (hw.arrived entry)
    (hx entry.1 entry.2)
  stored := hw.stored

/-- A request that takes effect keeps track. -/
lemma Tracks.serve (hw : Tracks w) (number : Nat) : Tracks (w.serve server number) := by
  rw [World.serve]
  split
  · exact hw
  · rename_i request hrequest
    split
    · exact hw
    · rename_i hnew
      have hnew : ∀ e ∈ w.effects, e.number ≠ number := by simpa using hnew
      constructor
      case agrees => exact hw.agrees.serve hrequest hnew rfl
      case arrived =>
        intro entry hentry
        obtain ⟨e, he, hreply⟩ := hw.arrived entry hentry
        exact ⟨e, List.mem_cons_of_mem _ he, hreply⟩
      case stored =>
        intro later e earlier heffects hlater
        cases later with
        | nil =>
          obtain ⟨rfl, -⟩ := List.cons.inj heffects
          rfl
        | cons e' later =>
          obtain ⟨rfl, htail⟩ := List.cons.inj heffects
          have hfetch := hlater _ List.mem_cons_self
          have hsame : server.after w.stored request = w.stored := by
            rw [Server.after, show request.operation = .fetch from hfetch]
          refine (hw.stored later e earlier htail fun e he => ?_).trans hsame.symm
          exact hlater e (List.mem_cons_of_mem _ he)

/-- **Every step keeps track.** -/
lemma Tracks.step (hw : Tracks w) (x : WorldStep) : Tracks (w.step server x) := by
  cases x with
  | serve number => exact hw.serve number
  | client y =>
    cases hy : w.sessionStep? (.client y) with
    | none => simpa only [World.step, hy] using hw
    | some z =>
      simp only [World.step, hy]
      refine hw.client fun number reply h => ?_
      subst h
      cases y <;> simp [sessionStep?] at hy
  | answer number =>
    cases hy : w.sessionStep? (.answer number) with
    | none => simpa only [World.step, hy] using hw
    | some z =>
      simp only [World.step, hy]
      obtain ⟨e, he, rfl⟩ := Option.map_eq_some_iff.mp hy
      refine hw.client fun number reply h => ?_
      obtain ⟨rfl, rfl⟩ := SessionStep.respond.inj h
      exact ⟨e, List.mem_of_find?_eq_some he, by simpa using List.find?_some he, rfl⟩

/-- **Every run keeps track.** -/
lemma Tracks.run (hw : Tracks w) (steps : List WorldStep) : Tracks (w.run server steps) := by
  induction steps generalizing w with
  | nil => exact hw
  | cons x xs ih => exact ih (hw.step x)

/-! ### A server that answers at once -/

/-- Replies are there for requests that have been sent. -/
lemma Tracks.arrived_lt (hw : Tracks w) :
    ∀ entry ∈ w.session.wire.arrived, entry.1 < w.session.wire.sent.length := by
  intro entry hentry
  obtain ⟨e, he, hnumber, -⟩ := hw.arrived entry hentry
  exact hnumber ▸ (List.getElem?_eq_some_iff.mp (hw.agrees.requested e he)).1

/-- No reply is known in advance. -/
lemma Tracks.knowing_nil (hw : Tracks w) : w.session.knowing [] = w.session := by
  rw [← hw.agrees.scripted]
  rfl

/-- A request that a poll sends can take effect right away. -/
lemma Tracks.serve_polled (hw : Tracks w) (server : Server) {name : String} {number : Nat}
    {request : Request} (hrequest : (w.session.poll name).1.wire.sent[number]? = some request)
    (hnew : w.session.wire.sent.length ≤ number) :
    ∃ e, e.number = number ∧
      (w.run server [.client (.poll name), .serve number]).effects = e :: w.effects ∧
      (w.run server [.client (.poll name), .serve number]).session = (w.session.poll name).1 := by
  have hunserved : ∀ e ∈ w.effects, e.number ≠ number := by
    rintro e he rfl
    have hold := hw.agrees.requested e he
    simp [List.getElem?_eq_none hnew] at hold
  have hserve := serve_of_sent server (w := w.step server (.client (.poll name))) hrequest hunserved
  exact ⟨_, rfl, congrArg World.effects hserve, congrArg World.session hserve⟩

/-- **A server that answers at once makes no difference**: a poll that finds the reply to the
request that it sends is a poll that leaves the future waiting, the request takes effect, its reply
comes in, and the future is polled again, with nothing in between. -/
theorem Tracks.prompt (hw : Tracks w) (server : Server) {name : String} {g : Future} {number : Nat}
    (hg : (w.session.poll name).1.futures.find? name = some g) (hsent : g.sent = some number)
    (hnew : w.session.wire.sent.length ≤ number) :
    ∃ e, (w.run server [.client (.poll name), .serve number]).effects = e :: w.effects ∧
      e.number = number ∧
      ((w.session.knowing (List.replicate number none ++ [some e.reply])).poll name).1 =
        (w.run server [.client (.poll name), .serve number, .answer number,
            .client (.poll name)]).session.knowing
          (List.replicate number none ++ [some e.reply]) := by
  have hnext : Tracks (w.step server (.client (.poll name))) := hw.step _
  have hrequest : (w.session.poll name).1.wire.sent[number]? = some _ :=
    hnext.agrees.waiting _ (Table.mem_of_find? hg) number hsent
  obtain ⟨e, hnumber, heffects, hsession⟩ := hw.serve_polled server hrequest hnew
  have hanswer : (w.run server [.client (.poll name), .serve number, .answer number,
      .client (.poll name)]).session =
        (((w.session.poll name).1.step (.respond number e.reply)).1.poll name).1 := by
    have hfind : (w.run server [.client (.poll name), .serve number]).effects.find?
        (·.number = number) = some e := by
      simp [heffects, hnumber]
    rw [← hsession, ← session_answer server hfind]
    rfl
  have hother : ∀ n, n ≠ number → (List.replicate number none ++ [some e.reply])[n]?.join =
      ([] : List (Option Reply))[n]?.join := by
    intro n hn
    rw [Session.getElem?_replicate_concat, if_neg hn]
    rfl
  have hknown : (List.replicate number none ++ [some e.reply])[number]?.join = some e.reply := by
    rw [Session.getElem?_replicate_concat, if_pos rfl]
  have hprompt := Session.poll_of_prompt hw.arrived_lt hother hknown rfl
    (congrArg (fun s => (s.poll name).1) hw.knowing_nil.symm) hg hsent hnew
    (List.getElem?_eq_some_iff.mp hrequest).1
  refine ⟨e, heffects, hnumber, ?_⟩
  rw [hprompt, hanswer]

/-! ### What a client ends with -/

/-- A run in which something is called and no future is dropped, and at whose end all futures have
completed. -/
structure Completes (server : Server) (start : World) (steps : List WorldStep) : Prop where
  kept : start.session.keepsAll (start.transcript server steps) = true
  begun : (start.run server steps).session.client.generation ≠ 0
  completed : (start.run server steps).session.futures = []

/-- When all futures have completed, the client shows what the server kept when the last heeded
request took effect. -/
lemma Tracks.settled (hw : Tracks w) (hattended : w.session.Attended)
    (hbegun : w.session.client.generation ≠ 0) (hcompleted : w.session.futures = []) :
    ∃ e, w.effects.find? (·.heeded) = some e ∧ e.request.operation = .fetch ∧
      w.session.client.state = .ready (Stored.recordOf e.stored) ∧
      w.session.client.lastReady = some (Stored.recordOf e.stored) := by
  have hshows := hw.agrees.shows
  rw [Session.Shows] at hshows
  cases hstate : w.session.client.state with
  | idle =>
    simp only [hstate] at hshows
    exact absurd hshows hbegun
  | loading =>
    obtain ⟨name, f, hf, -⟩ := hattended hstate
    simp [hcompleted, Table.find?] at hf
  | failed _ => simp only [hstate] at hshows
  | ready r =>
    simp only [hstate] at hshows
    obtain ⟨hlast, e, he, hfetch, rfl⟩ := hshows
    exact ⟨e, he, hfetch, rfl, hlast⟩

/-- **A client ends with what the server kept when it took the last request that was heeded.** For
every server, whatever is called and polled, in whatever order requests take effect and replies come
in: once all futures have completed, and none has been dropped, the client is ready. The last heeded
effect is a fetch, and all effects after it are those of superseded operations. The client shows the
record that the server kept then, and the host knows it: it is held until an observer is attached,
and it is what an observer that has been alive since was told last. It is the record that the server
keeps in the end, unless a superseded submission or revocation has taken effect after that fetch.

**Proof sketch.** Every step keeps track of the server (`Tracks.run`): what the latest operation has
led to is the last heeded effect, so this effect is what the client is ready with. A client that is
not ready either has called nothing or loads, and then a future would be left. The host knows the
record of the client (`Session.Holding.run`, `Session.Holding.since_attached`). -/
theorem client_ends_on_last_heeded_fetch {bridge : Bridge}
    (hbridge : bridge = .detached ∨ bridge = .watching) (server : Server) (endpoint : String)
    (surface : Surface) (stored : Option Stored) (steps : List WorldStep)
    (hsteps : Completes server (fresh endpoint surface bridge stored) steps) :
    let start := fresh endpoint surface bridge stored
    let w := start.run server steps
    let transcript := start.transcript server steps
    ∃ later e earlier, w.effects = later ++ e :: earlier ∧
      e.heeded = true ∧ e.request.operation = .fetch ∧ (∀ e' ∈ later, e'.heeded = false) ∧
      w.session.client.state = .ready (Stored.recordOf e.stored) ∧
      w.session.client.lastReady = some (Stored.recordOf e.stored) ∧
      ((∀ e' ∈ later, e'.request.operation = .fetch) →
        Stored.recordOf e.stored = Stored.recordOf w.stored) ∧
      ((∀ x ∈ transcript, x.brings = false) →
        (w.session.host.bridge.observer = none →
          w.session.host.bridge.pendingRecord = some (Stored.recordOf e.stored)) ∧
        (∀ before x since h, transcript = before ++ x :: since →
          (start.session.run before).host.bridge.observer = none →
          (start.session.run (before ++ [x])).host.bridge.observer = some h →
          (∀ p, p <+: since → (start.session.run (before ++ x :: p)).host.isAlive h = true) →
            w.session.notes.getLast?.map (·.verdict) =
              some (Stored.recordOf e.stored).verdict)) := by
  intro start w transcript
  have hw : Tracks w := (tracks_fresh endpoint surface bridge stored).run steps
  have hsession : w.session = start.session.run transcript := session_run server start steps
  have hattended : w.session.Attended :=
    hsession ▸ (Session.attended_fresh endpoint surface bridge []).run hsteps.kept
  obtain ⟨e, he, hfetch, hstate, hlast⟩ := hw.settled hattended hsteps.begun hsteps.completed
  obtain ⟨hheeded, later, earlier, heffects, hlater⟩ := List.find?_eq_some_iff_append.mp he
  refine ⟨later, e, earlier, heffects, hheeded, hfetch, fun e' he' => by simpa using hlater e' he',
    hstate, hlast, fun h => by rw [hw.stored later e earlier heffects h], fun hbrings => ?_⟩
  have hholding : Session.Holding start.session := Session.holding_fresh hbridge endpoint surface []
  rw [hsession] at hlast ⊢
  constructor
  · intro hnone
    rcases hholding.run hbrings with hs | ⟨_, _, _, h, -, -, -, hs⟩
    · exact hs.pending.trans hlast
    · simp [hs.observer] at hnone
  · intro before x since h hsplit hnone hsome hlive
    rw [hsplit] at hbrings hlast ⊢
    obtain ⟨-, hup⟩ := hholding.since_attached hbrings hnone hsome
    rw [(hup hlive).latest, hlast, Option.map_some]

/-- A record that grants access. -/
def granted : Stored where
  record := ⟨"", false, false, true, "2030-01-01"⟩
  body := Utf8.ofString "\x7b\"testbed_access\":true,\"until\":\"2030-01-01\"\x7d"
  reads := by decide +kernel

/-- A server that grants access to whoever submits anything. -/
def granting : Server := fun _ _ => granted

/-- A load is superseded by a revocation; its request takes effect last. -/
def overtakenLoad : List WorldStep :=
  [.client (.load "a"), .client (.poll "a"), .client (.revoke "b"), .client (.poll "b"), .serve 1,
    .answer 1, .client (.poll "b"), .serve 2, .serve 0, .answer 0, .client (.poll "a"), .answer 2,
    .client (.poll "b")]

/-- The client ends with the empty record that is left by the revocation, also when the request of
an earlier load takes effect after all others. -/
theorem overtaken_load_ends_revoked :
    let start := fresh gdprEndpoint .lines .watching (some granted)
    let w := start.run granting overtakenLoad
    Completes granting start overtakenLoad ∧ w.effects.map (·.number) = [0, 2, 1] ∧
    w.stored = none ∧ w.session.client.state = .ready (Stored.recordOf w.stored) := by
  intro start w
  have hcompletes : Completes granting start overtakenLoad :=
    ⟨by decide +kernel, by decide +kernel, by decide +kernel⟩
  have hunheeded : ∀ e ∈ w.effects, e.heeded = false → e.request.operation = .fetch := by
    decide +kernel
  obtain ⟨later, e, earlier, heffects, -, -, hlater, hstate, -, hkept, -⟩ :=
    client_ends_on_last_heeded_fetch (.inr rfl) granting gdprEndpoint .lines (some granted)
      overtakenLoad hcompletes
  refine ⟨hcompletes, by decide +kernel, by decide +kernel, ?_⟩
  rw [hstate, hkept fun e' he' => hunheeded e' ?_ (hlater e' he')]
  rw [heffects]
  exact List.mem_append_left _ he'

/-- A revocation is superseded by a load; its request takes effect when the load has completed. -/
def lateRevocation : List WorldStep :=
  [.client (.revoke "a"), .client (.poll "a"), .client (.load "b"), .client (.poll "b"), .serve 1,
    .answer 1, .client (.poll "b"), .serve 0, .answer 0, .client (.poll "a")]

/-- A superseded revocation that takes effect late goes unnoticed: the server has accepted it and
keeps nothing, and the client still shows that access is granted. -/
theorem late_revocation_goes_unnoticed :
    let start := fresh gdprEndpoint .lines .watching (some granted)
    let w := start.run granting lateRevocation
    Completes granting start lateRevocation ∧ w.stored = none ∧
    w.session.client.state = .ready granted.record ∧
    w.session.client.state ≠ .ready (Stored.recordOf w.stored) := by
  refine ⟨⟨?_, ?_, ?_⟩, ?_, ?_, ?_⟩ <;> decide +kernel

end World

end Consent
