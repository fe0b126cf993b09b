import Consent.Proofs.Observer.Watching
import Consent.Proofs.Session.Forwarding

set_option autoImplicit false

/-!
# Attachment does not depend on timing

A bridge is armed once, by the host or by the start of the client, and gets its observer once, by
hand or from the task that watches the slot. When this happens makes no difference to what the
observer is told in the end: of the records brought to the bridge before, it is told about the last
one, and of those brought since, about each one.

## Main definitions

* `Consent.Session.gather` — what the steps of a run give, in their order.
* `Consent.Session.manual?`, `Consent.Session.attachment?` — the observer that a step attaches.
* `Consent.Session.record?`, `Consent.Session.bring` — the record that a step brings to the bridge.
* `Consent.Session.Attending` — who is attached, and what is left to watch for.
* `Consent.Session.Withheld`, `Consent.Session.Told` — what the observer has been told.

## Main results

* `Consent.Session.watchStep`, `Consent.Session.slotStep` — what a step does to the slot, the
  observer, the watch and the task.
* `Consent.Session.Attending.run`, `Consent.Session.Attending.isAttached_run_iff` — who is attached
  after a run, and once the task has run.
* `Consent.Session.step_brings_cases` — what a step means to the observer.
* `Consent.Session.Withheld.step`, `Consent.Session.Told.step` — what a step tells the observer.
* `Consent.Session.Withheld.since_attached` — what it has been told since it was attached.
* `Consent.Session.attachment_is_timing_independent` — all this, for every run.
-/

namespace Consent

open Observer

/-- Whether a step arms the bridge: the host does, or the client is started. -/
def SessionStep.arms : SessionStep → Bool
  | .host step => step.arms
  | .start _ => true
  | _ => false

/-- Whether a step brings a record with a ticket that was taken earlier. -/
def SessionStep.redeems : SessionStep → Bool
  | .host (.notifyAt _ _) => true
  | _ => false

namespace Session

variable {s t : Session}

/-! ### What the steps of a run give -/

/-- What the steps of a run give, in their order. -/
def gather {α : Type} (give : Session → SessionStep → Option α) (s : Session) :
    List SessionStep → List α
  | [] => []
  | x :: steps => (give s x).toList ++ (s.step x).1.gather give steps

/-- What one run after another gives. -/
lemma gather_append {α : Type} (give : Session → SessionStep → Option α) (s : Session)
    (steps steps' : List SessionStep) :
    s.gather give (steps ++ steps') = s.gather give steps ++ (s.run steps).gather give steps' := by
  induction steps generalizing s with
  | nil => rfl
  | cons x steps ih =>
    rw [List.cons_append, gather, ih, gather, List.append_assoc]
    rfl

/-- What one more step gives comes last. -/
lemma gather_concat {α : Type} (give : Session → SessionStep → Option α) (s : Session)
    (steps : List SessionStep) (x : SessionStep) :
    s.gather give (steps ++ [x]) = s.gather give steps ++ (give (s.run steps) x).toList := by
  rw [gather_append, gather, gather, List.append_nil]

/-! ### What a step does to the slot, the observer, the watch and the task -/

/-- The observer that a step attaches by hand. -/
def manual? (s : Session) : SessionStep → Option Handle
  | .host step => s.host.manual? step
  | _ => none

/-- The observer that a step attaches, by hand or by letting the task run. -/
def attachment? (s : Session) : SessionStep → Option Handle
  | .host step => s.host.attachment? step
  | _ => none

/-- What an observer does inside a call is nothing to the host. -/
lemma noting_host (s : Session) (call : Option Call) : (s.noting call).host = s.host := by
  cases call with
  | none => rfl
  | some call =>
    simp only [noting]
    cases call.reaction <;> rfl

/-- Settling at most forwards a record. -/
lemma still_settle (s : Session) (generation : Nat) (next : LoadState) :
    s.host.Still (s.settle generation next).host := by
  simp only [settle]
  split
  · exact .refl _
  · split
    · exact .refl _
    · simp only [forward, noting_host]
      exact s.host.still_takeTicket.trans (Host.still_notifyAt _ _ _)

/-- Using a reply at most forwards a record. -/
lemma still_consume (s : Session) (f : Future) (reply : Reply) :
    s.host.Still (s.consume f reply).1.host := by
  have hreload : s.host.Still s.reload.1.host := by
    have hhost : (s.begin.1.exchange (.fetch s.endpoint) none).1.host = s.host := by
      rw [exchange_eq]
      rfl
    rcases h : s.begin.1.exchange (.fetch s.endpoint) none with ⟨t, number, reply⟩
    rw [h] at hhost
    cases reply with
    | none =>
      rw [reload_of_waiting h, hhost]
      exact .refl _
    | some reply =>
      rw [reload_of_reply h, ← hhost]
      exact t.still_settle _ _
  cases f with
  | load generation _ => exact s.still_settle _ _
  | reload generation _ => exact s.still_settle _ _
  | mutation generation request _ =>
    simp only [consume]
    split
    · exact s.still_settle _ _
    · split
      · exact hreload
      · exact .refl _

/-- A poll at most forwards a record. -/
lemma still_poll (s : Session) (name : String) : s.host.Still (s.poll name).1.host := by
  simp only [poll]
  split
  · exact .refl _
  · rename_i f _
    have hstill : s.host.Still ((s.without name).pollFuture f).1.host := by
      rw [pollFuture]
      rcases h : (s.without name).receive f with ⟨t, number, reply⟩
      have hhost : t.host = s.host := by
        rw [receive_eq h]
        rfl
      cases reply with
      | none => exact hhost ▸ .refl _
      | some reply => exact hhost ▸ t.still_consume f reply
    rcases h : (s.without name).pollFuture f with ⟨t, result⟩
    rw [h] at hstill
    cases result with
    | pending f' => exact hstill
    | loaded state => exact hstill
    | done => exact hstill

/-- A step is one of the host, or starts the client, or is nothing to the slot, the observer, the
watch and the task. -/
lemma step_host_cases (s : Session) (x : SessionStep) :
    (∃ step, x = .host step ∧ (s.step x).1.host = (s.host.step step).1) ∨
      (∃ name, x = .start name ∧ (s.step x).1.host = (s.host.arm false).1) ∨
      (s.host.Still (s.step x).1.host ∧ s.attachment? x = none ∧ x.arms = false) := by
  cases x with
  | host step => exact .inl ⟨step, rfl, noting_host _ _⟩
  | start name => exact .inr (.inl ⟨name, rfl, rfl⟩)
  | poll name => exact .inr (.inr ⟨s.still_poll name, rfl, rfl⟩)
  | resubmit name =>
    refine .inr (.inr ⟨?_, rfl, rfl⟩)
    simp only [step]
    split <;> exact .refl _
  | respond request reply =>
    refine .inr (.inr ⟨?_, rfl, rfl⟩)
    simp only [step]
    split <;> exact .refl _
  | _ => exact .inr (.inr ⟨.refl _, rfl, rfl⟩)

/-- **What a step does to the observer, the watch and the task.** -/
lemma watchStep (s : Session) (x : SessionStep) :
    s.host.WatchStep (s.step x).1.host.bridge.observer (s.step x).1.host.bridge.hasWatch
      (s.step x).1.host.task (s.attachment? x) x.arms := by
  rcases s.step_host_cases x with ⟨step, rfl, hhost⟩ | ⟨name, rfl, hhost⟩ | ⟨hstill, hnone, harms⟩
  · rw [hhost]
    exact s.host.watchStep step
  · rw [hhost]
    exact s.host.watchStep_arm false
  · rw [hnone, harms]
    exact hstill.watchStep

/-- **What a step does to the slot.** -/
lemma slotStep (s : Session) (x : SessionStep) :
    ∃ offer, s.host.SlotStep (s.step x).1.host.slot (s.step x).1.host.slots offer := by
  rcases s.step_host_cases x with ⟨step, rfl, hhost⟩ | ⟨name, rfl, hhost⟩ | ⟨hstill, -, -⟩
  · rw [hhost]
    exact ⟨_, s.host.slotStep step⟩
  · rw [hhost]
    exact ⟨none, .still⟩
  · exact ⟨none, hstill.slotStep⟩

/-- What is attached by hand is attached. -/
lemma attachment?_of_manual? {x : SessionStep} {h : Handle} (hx : s.manual? x = some h) :
    s.attachment? x = some h := by
  cases x with
  | host step => exact Host.attachment?_of_manual? hx
  | _ => simp [manual?] at hx

/-- What is not attached by hand is attached by the task, which finds it bound to the slot. -/
lemma attachment?_cases {x : SessionStep} {h : Handle} (hx : s.attachment? x = some h) :
    s.manual? x = some h ∨ s.host.task.isSome = true ∧ s.host.slot.bound = some h := by
  cases x with
  | host step => exact Host.attachment?_cases hx
  | _ => simp [attachment?] at hx

/-! ### Who is attached -/

/-- Who is attached, and what is left to watch for, when the bridge was armed or not, and some
observers were attached, by hand or by whatever means. -/
structure Attending (watching armed : Bool) (byHand attached : List Handle) (s : Session) :
    Prop where
  observer : s.host.bridge.observer = attached.head?
  hasWatch : s.host.bridge.hasWatch = (watching && !armed)
  task : s.host.task.isSome = (watching && armed)
  /-- What was attached by hand was attached. -/
  hand : byHand.Sublist attached
  /-- What was not attached by hand was attached by the task. -/
  means : attached ≠ [] →
    byHand ≠ [] ∨ s.host.task.isSome = true ∧ s.host.slot.bound.isSome = true
  complete : Host.Complete s.host.bridge.observer s.host.slot s.host.task
  tidy : Host.Tidy s.host.slot s.host.slots

/-- **One step keeps who is attached**, and attaches what it says. -/
lemma Attending.step {watching armed : Bool} {byHand attached : List Handle}
    (hs : Attending watching armed byHand attached s) (x : SessionStep) :
    Attending watching (armed || x.arms) (byHand ++ (s.manual? x).toList)
      (attached ++ (s.attachment? x).toList) (s.step x).1 := by
  obtain ⟨offer, hslot⟩ := s.slotStep x
  have hwatch := s.watchStep x
  have hkept : s.host.task.isSome = true ∧ s.host.slot.bound.isSome = true →
      (s.step x).1.host.task.isSome = true ∧ (s.step x).1.host.slot.bound.isSome = true := by
    rintro ⟨htask, hbound⟩
    constructor
    · rw [hwatch.task_isSome, htask, Bool.true_or]
    · rw [hslot.bound_eq, Option.isSome_or, hbound, Bool.true_or]
  constructor
  case observer =>
    rw [hwatch.observer_eq, hs.observer, List.head?_append]
    cases s.attachment? x <;> rfl
  case hasWatch =>
    rw [hwatch.hasWatch_eq, hs.hasWatch]
    cases watching <;> cases armed <;> simp
  case task =>
    rw [hwatch.task_isSome, hs.task, hs.hasWatch]
    cases watching <;> cases armed <;> simp
  case hand =>
    refine hs.hand.append ?_
    cases hx : s.manual? x with
    | none => exact List.nil_sublist _
    | some h => rw [attachment?_of_manual? hx]
  case means =>
    intro hne
    by_cases hbefore : attached = []
    · -- The step itself attaches somebody: by hand, or the task finds the slot bound.
      obtain ⟨h, hx⟩ : ∃ h, s.attachment? x = some h := by
        rw [hbefore, List.nil_append] at hne
        exact Option.ne_none_iff_exists'.mp fun hnone => hne (by rw [hnone]; rfl)
      rcases attachment?_cases hx with hmanual | ⟨htask, hbound⟩
      · exact .inl (by simp [hmanual])
      · exact .inr (hkept ⟨htask, by simp [hbound]⟩)
    · refine (hs.means hbefore).imp (fun hmanual => ?_) hkept
      simp [hmanual]
  case complete => exact hwatch.complete hslot hs.tidy hs.complete
  case tidy => exact hslot.tidy hs.tidy

/-- At first nobody is attached. -/
lemma attending_fresh {bridge : Bridge} (hbridge : bridge.observer = none) (endpoint : String)
    (surface : Surface) (scripted : List (Option Reply)) :
    Attending bridge.hasWatch false [] [] (fresh endpoint surface bridge scripted) where
  observer := hbridge
  hasWatch := (Bool.and_true _).symm
  task := (Bool.and_false _).symm
  hand := .slnil
  means := absurd rfl
  complete := nofun
  tidy := Host.tidy_fresh bridge

/-- **Who is attached after a run.** -/
lemma Attending.run {watching armed : Bool} {byHand attached : List Handle}
    (hs : Attending watching armed byHand attached s) (steps : List SessionStep) :
    Attending watching (armed || steps.any SessionStep.arms)
      (byHand ++ s.gather manual? steps) (attached ++ s.gather attachment? steps)
      (s.run steps) := by
  induction steps using List.reverseRecOn with
  | nil => simpa [gather, Session.run] using hs
  | append_singleton steps x ih =>
    rw [run_concat, gather_concat, gather_concat, List.any_append, ← Bool.or_assoc,
      ← List.append_assoc, ← List.append_assoc]
    simpa using ih.step x

/-- Arming succeeds as long as the watch is there. -/
lemma arm_succeeds_iff (s : Session) :
    (s.step (.host .arm)).2 = .host .armed ↔ s.host.bridge.hasWatch = true := by
  show SessionOutcome.host (if s.host.bridge.hasWatch then .armed else .nothing) = _ ↔ _
  cases s.host.bridge.hasWatch <;> simp

/-- A task that has been started and finds the slot bound has attached somebody once it has run. -/
lemma Attending.isAttached_of_run {watching armed : Bool} {byHand attached : List Handle}
    (hs : Attending watching armed byHand attached s) (htask : s.host.task.isSome = true)
    (hbound : s.host.slot.bound.isSome = true) :
    (s.step (.host .run)).1.host.bridge.observer.isSome = true := by
  have hnext := hs.step (.host .run)
  obtain ⟨offer, hslot⟩ := s.slotStep (.host .run)
  have hrests : (s.step (.host .run)).1.host.Rests := by
    simp only [Session.step, noting_host]
    exact s.host.rests_run
  have hbound' : (s.step (.host .run)).1.host.slot.bound ≠ none := by
    rw [← Option.isSome_iff_ne_none, hslot.bound_eq, Option.isSome_or, hbound, Bool.true_or]
  have htask' : (s.step (.host .run)).1.host.task.isSome = true := by
    rw [(s.watchStep (.host .run)).task_isSome, htask, Bool.true_or]
  rcases hrests with hnone | ⟨task, hdone, hfinished⟩ | hwaiting
  · simp [hnone] at htask'
  · rcases hnext.complete task hdone hfinished with hsome | hclosed
    · exact hsome
    · exact absurd (Slot.bound_eq_none_iff.mpr (.inr hclosed)) hbound'
  · exact absurd (Slot.bound_eq_none_iff.mpr (.inl hwaiting)) hbound'

/-- **Who is attached once the task has run.** -/
lemma Attending.isAttached_run_iff {watching armed : Bool} {byHand attached : List Handle}
    (hs : Attending watching armed byHand attached s) :
    (s.step (.host .run)).1.host.bridge.isAttached = true ↔
      byHand ≠ [] ∨ (watching && armed) = true ∧ s.host.slot.bound.isSome = true := by
  have hobserver := (s.watchStep (.host .run)).observer_eq
  rw [Bridge.isAttached]
  constructor
  · intro hsome
    rw [← hs.task]
    by_cases hattached : attached = []
    · rw [hobserver, hs.observer, hattached, List.head?_nil, Option.none_or] at hsome
      obtain ⟨h, hx⟩ := Option.isSome_iff_exists.mp hsome
      rcases attachment?_cases hx with hmanual | ⟨htask, hbound⟩
      · simp [manual?, Host.manual?] at hmanual
      · exact .inr ⟨htask, by simp [hbound]⟩
    · exact hs.means hattached
  · rintro (hhand | ⟨htask, hbound⟩)
    · obtain ⟨h, hh⟩ := List.exists_mem_of_ne_nil _ hhand
      have hattached : attached ≠ [] := List.ne_nil_of_mem (hs.hand.subset hh)
      have hhead : attached.head?.isSome = true := by
        obtain ⟨k, rest, hcons⟩ := List.exists_cons_of_ne_nil hattached
        rw [hcons]
        rfl
      rw [hobserver, hs.observer, Option.isSome_or, hhead, Bool.true_or]
    · exact hs.isAttached_of_run (hs.task.trans htask) hbound

/-! ### What a step brings -/

/-- The record that a step brings to the bridge: the host brings it, or the client settles it. -/
def record? (s : Session) (x : SessionStep) : Option Record :=
  match x with
  | .host (.notify r) => some r
  | x => if s.readies < (s.step x).1.readies then (s.step x).1.client.lastReady else none

/-- A step of the client brings the record that it settles. -/
lemma record?_of_not_brings {x : SessionStep} (hx : x.brings = false) :
    s.record? x =
      if s.readies < (s.step x).1.readies then (s.step x).1.client.lastReady else none := by
  unfold record?
  split
  · simp [SessionStep.brings, HostStep.brings] at hx
  · rfl

/-- A step that settles no record brings none. -/
lemma record?_eq_none {x : SessionStep} (hx : x.brings = false)
    (hreadies : (s.step x).1.readies = s.readies) : s.record? x = none := by
  rw [record?_of_not_brings hx, hreadies, if_neg (lt_irrefl _)]

/-- The session after a bridge has given a record its next ticket and has forwarded it. -/
def bring (s : Session) (b : Bridge) (r : Record) : Session :=
  s.carry (b.takeTicket.1.notifyPhase ⟨b.issued + 1⟩ r)

/-- A record that is settled counts, and is what the client knows. -/
lemma tell_frame (s : Session) (r : Record) :
    (s.tell r).readies = s.readies + 1 ∧ (s.tell r).client.lastReady = some r := by
  obtain ⟨hreadies, hlast, -⟩ := s.shownReady_frame r
  obtain ⟨-, hreadies', hlast', -⟩ := (s.shownReady r).carry_frame
    (s.host.bridge.takeTicket.1.notifyPhase ⟨s.host.bridge.issued + 1⟩ r)
  rw [tell_eq, hreadies', hlast', hreadies, hlast]
  exact ⟨rfl, rfl⟩

/-- **What a step means to the observer**, unless the host brings a record with an earlier ticket:
nothing, or that an observer comes to be attached, or that a record is brought. -/
lemma step_brings_cases (s : Session) {x : SessionStep} (hx : x.redeems = false) :
    (s.record? x = none ∧ Quiet s (s.step x).1) ∨
      ∃ t, Aside s t ∧ ((s.record? x = none ∧ ∃ h, (s.step x).1 = t.attach h) ∨
        ∃ (r : Record) (u : Session), s.record? x = some r ∧ u.notes = t.notes ∧
          u.host.observers = t.host.observers ∧
          Aside (u.bring t.host.bridge r) (s.step x).1) := by
  cases hbrings : x.brings with
  | true =>
    obtain ⟨r, rfl⟩ : ∃ r, x = .host (.notify r) := by
      cases x with
      | host step =>
        cases step with
        | notify r => exact ⟨r, rfl⟩
        | notifyAt ticket r => simp [SessionStep.redeems] at hx
        | _ => simp [SessionStep.brings, HostStep.brings] at hbrings
      | _ => simp [SessionStep.brings] at hbrings
    -- A record that the host brings takes its ticket and is forwarded at once.
    exact .inr ⟨s, .refl s, .inr ⟨r, s, rfl, rfl, rfl, .refl _⟩⟩
  | false =>
    rcases s.step_cases hbrings with hquiet | ⟨t, hst, ⟨h, hattach⟩ | ⟨r, htell⟩⟩
    · exact .inl ⟨record?_eq_none hbrings hquiet.readies, hquiet⟩
    · have hreadies : (s.step x).1.readies = s.readies := by
        rw [hattach, attach_eq, (t.carry_frame _).2.1, hst.readies]
      exact .inr ⟨t, hst, .inl ⟨record?_eq_none hbrings hreadies, h, hattach⟩⟩
    · obtain ⟨hreadies, hlast⟩ := t.tell_frame r
      have hrecord : s.record? x = some r := by
        rw [record?_of_not_brings hbrings, htell.readies, hreadies, hst.readies,
          if_pos (Nat.lt_succ_self _), htell.lastReady, hlast]
      exact .inr ⟨t, hst, .inr ⟨r, t.shownReady r, hrecord, notes_showing _ _, rfl, htell⟩⟩

/-! ### What the observer is told -/

/-- No observer is attached, and the bridge holds the last of the records brought to it. -/
structure Withheld (records : List Record) (s : Session) : Prop where
  observer : s.host.bridge.observer = none
  pending : s.host.bridge.pendingRecord = records.getLast?
  /-- What is held has a ticket that was given out. -/
  recent : ∀ p, s.host.bridge.pending = some p → p.1.number ≤ s.host.bridge.issued
  last : s.host.bridge.lastDelivered = none
  notes : s.notes = []

/-- An observer is attached, and has been told about some records, and nobody about others. -/
structure Told (h : Handle) (records : List Record) (s : Session) : Prop where
  observer : s.host.bridge.observer = some h
  /-- The ticket of the last delivery was given out. -/
  recent : ∀ t, s.host.bridge.lastDelivered = some t → t.number ≤ s.host.bridge.issued
  notes : s.notes.map (fun n => (n.handle, n.verdict)) = records.map fun r => (h, r.verdict)

variable {records : List Record} {h : Handle} {b : Bridge}

/-- What does not concern the observer leaves what is held. -/
lemma Withheld.quiet (hs : Withheld records s) (hst : Quiet s t) : Withheld records t := by
  constructor
  case observer => rw [hst.bridge.observer, hs.observer]
  case pending =>
    rw [← hs.pending, Bridge.pendingRecord, Bridge.pendingRecord, hst.bridge.pending]
  case recent =>
    intro p hp
    rw [hst.bridge.pending] at hp
    exact (hs.recent p hp).trans hst.bridge.issued
  case last => rw [hst.bridge.lastDelivered, hs.last]
  case notes => rw [hst.notes, hs.notes]

/-- What does not concern the observer leaves what it has been told. -/
lemma Told.quiet (hs : Told h records s) (hst : Quiet s t) : Told h records t := by
  constructor
  case observer => rw [hst.bridge.observer, hs.observer]
  case recent =>
    intro last hlast
    rw [hst.bridge.lastDelivered] at hlast
    exact (hs.recent last hlast).trans hst.bridge.issued
  case notes => rw [hst.notes, hs.notes]

/-- A delivery to an observer that is alive tells it about one more record. -/
lemma told_carry {ticket : Ticket} (hobserver : b.observer = some h)
    (hnotes : s.notes.map (fun n => (n.handle, n.verdict)) = records.map fun r => (h, r.verdict))
    (hfresh : b.isStale ticket = false) (hticket : ticket.number ≤ b.issued)
    (hlive : s.host.isAlive h = true) (r : Record) :
    Told h (records ++ [r]) (s.carry (b, some ⟨h, ticket, r⟩)) := by
  obtain ⟨n, hhandle, hverdict, -, haside⟩ :=
    s.carry_of_alive (d := ⟨h, ticket, r⟩) hfresh hlive
  refine Told.quiet ⟨hobserver, ?_, ?_⟩ haside.toQuiet
  · intro last hlast
    obtain rfl := Option.some.inj hlast
    exact hticket
  · rw [notes_noted, notes_withBridge, List.map_append, List.map_append, hnotes,
      List.map_singleton, hhandle, hverdict]
    rfl

/-- Without an observer, a record that is brought takes the place of the one that is held. -/
lemma Withheld.bring (hs : Withheld records (s.withBridge b)) (r : Record) :
    Withheld (records ++ [r]) (s.bring b r) := by
  have hobserver : b.takeTicket.1.observer = none := hs.observer
  have hnewest : Bridge.later b.pending (⟨b.issued + 1⟩, r) = some (⟨b.issued + 1⟩, r) :=
    Bridge.later_next hs.recent r
  rw [Session.bring, Bridge.notifyPhase_of_unattached hobserver, carry_none]
  constructor
  case observer => exact hs.observer
  case pending =>
    show (Bridge.later b.pending (⟨b.issued + 1⟩, r)).map (·.2) = (records ++ [r]).getLast?
    rw [hnewest, List.getLast?_concat]
    rfl
  case recent =>
    intro p hp
    have hp' : some (⟨b.issued + 1⟩, r) = some p := hnewest.symm.trans hp
    obtain rfl := Option.some.inj hp'
    exact le_rfl
  case last => exact hs.last
  case notes => exact hs.notes

/-- An observer that is alive is told about a record that is brought. -/
lemma Told.bring (hs : Told h records (s.withBridge b)) (hlive : s.host.isAlive h = true)
    (r : Record) : Told h (records ++ [r]) (s.bring b r) := by
  have hobserver : b.takeTicket.1.observer = some h := hs.observer
  rw [Session.bring, Bridge.notifyPhase_of_attached hobserver]
  have hfresh : (forwarding b).isStale ⟨b.issued + 1⟩ = false := Bridge.isStale_next hs.recent
  exact told_carry (b := forwarding b) hs.observer hs.notes hfresh le_rfl hlive r

/-- An observer that is alive is told about the record that is held when it is attached. -/
lemma Withheld.attach (hs : Withheld records s) (hlive : s.host.isAlive h = true) :
    Told h records.getLast?.toList (s.attach h) := by
  rw [attach_eq, Bridge.attachPhase_of_unattached hs.observer, ← hs.pending, Bridge.pendingRecord]
  have hlast : ∀ last, s.host.bridge.lastDelivered = some last →
      last.number ≤ s.host.bridge.issued := by simp [hs.last]
  cases hp : s.host.bridge.pending with
  | none => exact ⟨rfl, hlast, by simp [carry_none, hs.notes]⟩
  | some p =>
    have hfresh : (attaching s.host.bridge h).isStale p.1 = false := by
      simp [Bridge.isStale, attaching, hs.last]
    have hnotes : s.notes.map (fun n => (n.handle, n.verdict)) =
        ([] : List Record).map fun r => (h, r.verdict) := by simp [hs.notes]
    exact told_carry rfl hnotes hfresh (hs.recent p hp) hlive p.2

/-- Only the first attachment counts. -/
lemma Told.attach (hs : Told h records s) (k : Handle) : s.attach k = s := by
  rw [attach_eq, Bridge.attachPhase_of_attached hs.observer, carry_none]
  rfl

/-! ### Steps and runs -/

/-- **One step without an observer**: what is brought is held, or an observer comes to be attached,
and is told about what is held if it is alive. -/
lemma Withheld.step (hs : Withheld records s) {x : SessionStep} (hx : x.redeems = false) :
    Withheld (records ++ (s.record? x).toList) (s.step x).1 ∨
      s.record? x = none ∧ ∃ h, (s.step x).1.host.bridge.observer = some h ∧
        ((s.step x).1.host.isAlive h = true → Told h records.getLast?.toList (s.step x).1) := by
  rcases s.step_brings_cases hx with
    ⟨hnone, hquiet⟩ | ⟨t, hst, ⟨hnone, h, hattach⟩ | ⟨r, u, hrecord, hnotes, -, hbring⟩⟩
  · rw [hnone, Option.toList_none, List.append_nil]
    exact .inl (hs.quiet hquiet)
  · have ht : Withheld records t := hs.quiet hst.toQuiet
    have halive : (s.step x).1.host.isAlive = t.host.isAlive := by
      rw [hattach, attach_eq]
      exact Host.isAlive_of_observers (t.carry_frame _).1
    refine .inr ⟨hnone, h, ?_, fun hlive => ?_⟩
    · rw [hattach, Session.attach, noting_host]
      show (t.host.bridge.attach t.host.isAlive h).1.observer = some h
      rw [(Bridge.attach_frame _ _ _).1, ht.observer, Option.none_or]
    · rw [hattach]
      exact ht.attach (halive ▸ hlive)
  · have ht : Withheld records t := hs.quiet hst.toQuiet
    have hu : Withheld records (u.withBridge t.host.bridge) :=
      ⟨ht.observer, ht.pending, ht.recent, ht.last, hnotes.trans ht.notes⟩
    rw [hrecord]
    exact .inl ((hu.bring r).quiet hbring.toQuiet)

/-- **One step with an observer** that is alive: it is told about what is brought. -/
lemma Told.step (hs : Told h records s) (hlive : s.host.isAlive h = true) {x : SessionStep}
    (hx : x.redeems = false) : Told h (records ++ (s.record? x).toList) (s.step x).1 := by
  rcases s.step_brings_cases hx with
    ⟨hnone, hquiet⟩ | ⟨t, hst, ⟨hnone, k, hattach⟩ | ⟨r, u, hrecord, hnotes, hobservers, hbring⟩⟩
  · rw [hnone, Option.toList_none, List.append_nil]
    exact hs.quiet hquiet
  · have ht : Told h records t := hs.quiet hst.toQuiet
    rw [hnone, Option.toList_none, List.append_nil, hattach, ht.attach k]
    exact ht
  · have ht : Told h records t := hs.quiet hst.toQuiet
    have hu : Told h records (u.withBridge t.host.bridge) := by
      refine ⟨ht.observer, ht.recent, ?_⟩
      show u.notes.map _ = _
      rw [hnotes, ht.notes]
    have hlive' : u.host.isAlive h = true := by
      rw [Host.isAlive_of_observers (hobservers.trans hst.observers)]
      exact hlive
    rw [hrecord]
    exact (hu.bring hlive' r).quiet hbring.toQuiet

/-- **A run that ends without an observer** has held what was brought. -/
lemma Withheld.run (hs : Withheld records s) {steps : List SessionStep}
    (hsteps : ∀ x ∈ steps, x.redeems = false)
    (hnone : (s.run steps).host.bridge.observer = none) :
    Withheld (records ++ s.gather record? steps) (s.run steps) := by
  induction steps using List.reverseRecOn with
  | nil => simpa [gather, Session.run] using hs
  | append_singleton steps x ih =>
    rw [run_concat] at hnone ⊢
    -- An observer stays attached, so there was none before the last step either.
    have hbefore : (s.run steps).host.bridge.observer = none := by
      rw [((s.run steps).watchStep x).observer_eq] at hnone
      exact (Option.or_eq_none_iff.mp hnone).1
    rw [gather_concat, ← List.append_assoc]
    rcases (ih (fun y hy => hsteps y (by simp [hy])) hbefore).step (hsteps x (by simp)) with
      hnext | ⟨-, h, hsome, -⟩
    · exact hnext
    · rw [hnone] at hsome
      cases hsome

/-- **A run with an observer** that stays alive has told it about what was brought. -/
lemma Told.run (hs : Told h records s) {steps : List SessionStep}
    (hsteps : ∀ x ∈ steps, x.redeems = false)
    (hlive : ∀ p, p <+: steps → (s.run p).host.isAlive h = true) :
    Told h (records ++ s.gather record? steps) (s.run steps) := by
  induction steps using List.reverseRecOn with
  | nil => simpa [gather, Session.run] using hs
  | append_singleton steps x ih =>
    have hbefore : ∀ p, p <+: steps → (s.run p).host.isAlive h = true :=
      fun p hp => hlive p (hp.trans (List.prefix_append _ _))
    rw [run_concat, gather_concat, ← List.append_assoc]
    exact (ih (fun y hy => hsteps y (by simp [hy])) hbefore).step
      (hbefore steps List.prefix_rfl) (hsteps x (by simp))

/-- **From the step on that attached an observer**, it has been told about the last record brought
before, and about those brought since, as long as it has been alive. -/
lemma Withheld.since_attached (hs : Withheld records s) {before since : List SessionStep}
    {x : SessionStep} (hsteps : ∀ y ∈ before ++ x :: since, y.redeems = false)
    (hnone : (s.run before).host.bridge.observer = none)
    (hsome : (s.run (before ++ [x])).host.bridge.observer = some h)
    (hlive : ∀ p, p <+: since → (s.run (before ++ x :: p)).host.isAlive h = true) :
    (s.run before).record? x = none ∧
      Told h ((records ++ s.gather record? before).getLast?.toList ++
        (s.run (before ++ [x])).gather record? since) (s.run (before ++ x :: since)) := by
  have hrun : ∀ p, s.run (before ++ x :: p) = (s.run (before ++ [x])).run p := by
    intro p
    rw [← run_append, List.append_assoc]
    rfl
  have hheld := hs.run (fun y hy => hsteps y (by simp [hy])) hnone
  have hsince : ∀ y ∈ since, y.redeems = false := fun y hy => hsteps y (by simp [hy])
  have hfirst := hlive [] List.nil_prefix
  -- The step is the one that attaches the observer; the run goes on from the session after it.
  rw [run_concat] at hsome hfirst
  rcases hheld.step (hsteps x (by simp)) with hnext | ⟨hbrought, k, hk, htold⟩
  · rw [hnext.observer] at hsome
    cases hsome
  · obtain rfl := Option.some.inj (hsome.symm.trans hk)
    refine ⟨hbrought, ?_⟩
    rw [hrun since, run_concat]
    refine (htold hfirst).run hsince fun p hp => ?_
    rw [← run_concat, ← hrun]
    exact hlive p hp

/-- At first nothing is held. -/
lemma withheld_fresh {bridge : Bridge} (hbridge : bridge = .detached ∨ bridge = .watching)
    (endpoint : String) (surface : Surface) (scripted : List (Option Reply)) :
    Withheld [] (fresh endpoint surface bridge scripted) := by
  rcases hbridge with rfl | rfl <;> exact ⟨rfl, rfl, nofun, rfl, rfl⟩

/-- **Attachment does not depend on timing**, in every session of a client with a bridge that
watches the slot, or with one that is detached, whatever is done in whatever order. Arming the
bridge succeeds exactly if it watches the slot and has not been armed before, by the host or by the
start of the client. After each time that the task is let run, an observer is attached exactly if
one has been attached by hand, or the bridge has been armed and the slot bound. The observer that is
attached is the first one that was attached by hand or by the task. It may be attached at any step;
as long as it has been alive since, it has been told about the last one of the records brought to
the bridge before, if there were any, and about each one brought since, in their order; and so, last
about the last one of all.

**Proof sketch.** A step starts the task, ends it, or attaches an observer, or does nothing of this
(`watchStep`), and what is attached by the task is bound to the slot, for good. So it is known after
a run who is attached (`Attending.run`). Without an observer the bridge holds the last record that
was brought (`Withheld.run`); the one attached first is told about it (`Withheld.step`), and about
each one that is brought later (`Told.run`). -/
theorem attachment_is_timing_independent {bridge : Bridge}
    (hbridge : bridge = .detached ∨ bridge = .watching) (endpoint : String) (surface : Surface)
    (scripted : List (Option Reply)) (steps : List SessionStep) :
    let start := fresh endpoint surface bridge scripted
    let s := start.run steps
    ((s.step (.host .arm)).2 = .host .armed ↔
      bridge = .watching ∧ ∀ x ∈ steps, x.arms = false) ∧
    ((s.step (.host .run)).1.host.bridge.isAttached = true ↔
      start.gather manual? steps ≠ [] ∨
        (bridge = .watching ∧ ∃ x ∈ steps, x.arms = true) ∧ s.host.slot.bound.isSome = true) ∧
    s.host.bridge.observer = (start.gather attachment? steps).head? ∧
    (∀ before x since h, steps = before ++ x :: since → (∀ y ∈ steps, y.redeems = false) →
      (start.run before).host.bridge.observer = none →
      (start.run (before ++ [x])).host.bridge.observer = some h →
      (∀ p, p <+: since → (start.run (before ++ x :: p)).host.isAlive h = true) →
        s.notes.map (fun n => (n.handle, n.verdict)) =
          ((start.gather record? before).getLast?.toList ++
            (start.run (before ++ [x])).gather record? since).map (fun r => (h, r.verdict)) ∧
        s.notes.getLast?.map (fun n => (n.handle, n.verdict)) =
          (start.gather record? steps).getLast?.map fun r => (h, r.verdict)) := by
  intro start s
  have hobserver : bridge.observer = none := by
    rcases hbridge with rfl | rfl <;> rfl
  have hwatch : bridge.hasWatch = true ↔ bridge = .watching := by
    rcases hbridge with rfl | rfl <;> decide
  have hs : Attending bridge.hasWatch (steps.any SessionStep.arms)
      (start.gather manual? steps) (start.gather attachment? steps) s := by
    simpa using (attending_fresh hobserver endpoint surface scripted).run steps
  refine ⟨?_, ?_, hs.observer, ?_⟩
  · rw [arm_succeeds_iff, hs.hasWatch, ← hwatch]
    simp
  · rw [hs.isAttached_run_iff, Bool.and_eq_true, hwatch, List.any_eq_true]
  · rintro before x since h rfl hsteps hnone hsome hlive
    have hheld : Withheld [] start := withheld_fresh hbridge endpoint surface scripted
    obtain ⟨hbrought, htold⟩ := hheld.since_attached hsteps hnone hsome hlive
    rw [List.nil_append] at htold
    have hrecords : start.gather record? (before ++ x :: since) =
        start.gather record? before ++ (start.run (before ++ [x])).gather record? since := by
      rw [gather_append, gather, hbrought, Option.toList_none, List.nil_append, run_concat]
    refine ⟨htold.notes, ?_⟩
    rw [← List.getLast?_map, htold.notes, List.getLast?_map, hrecords, List.getLast?_append,
      List.getLast?_append]
    cases (start.gather record? before).getLast? <;> rfl

/-- Two records are brought before the client is started and the slot is bound, and a third one once
the task has run. -/
def boundAfterStart : List SessionStep :=
  [.host (.notify .empty), .host (.notify ⟨"", false, false, true, "2030-01-01"⟩), .start "a",
    .host (.makeObserver "o" .nothing), .host (.bind "main" "o"), .host (.dropSlot "main"),
    .host .run, .host (.notify .empty)]

/-- The task attaches the observer that was bound just before the slot was torn down. It is told
about the second record and about the third, and nobody can arm the bridge any more. -/
theorem observer_bound_after_start_is_told :
    let start := fresh gdprEndpoint .lines .watching []
    let s := start.run boundAfterStart
    (∀ x ∈ boundAfterStart, x.redeems = false) ∧
    (s.step (.host .arm)).2 ≠ .host .armed ∧
    (s.step (.host .run)).1.host.bridge.isAttached = true ∧
    s.host.bridge.observer = some ⟨0⟩ ∧
    s.notes.map (fun n => (n.handle, n.verdict)) =
      [(⟨0⟩, .approve "2030-01-01"), (⟨0⟩, .decline)] := by
  intro start s
  have hredeems : ∀ x ∈ boundAfterStart, x.redeems = false := by
    simp [boundAfterStart, SessionStep.redeems]
  obtain ⟨harm, hattached, hobserver, htold⟩ :=
    attachment_is_timing_independent (.inr rfl) gdprEndpoint .lines [] boundAfterStart
  have hlive : ∀ p, p <+: [SessionStep.host (.notify .empty)] →
      (start.run (boundAfterStart.take 6 ++ .host .run :: p)).host.isAlive ⟨0⟩ = true := by
    intro p hp
    rcases List.prefix_cons_iff.mp hp with rfl | ⟨q, rfl, hq⟩
    · decide +kernel
    · obtain rfl := List.prefix_nil.mp hq
      decide +kernel
  have hattachments : start.gather attachment? boundAfterStart = [⟨0⟩] := by decide +kernel
  have hbound : ((fresh gdprEndpoint .lines .watching []).run
      boundAfterStart).host.slot.bound.isSome = true := by decide +kernel
  have hstart : SessionStep.start "a" ∈ boundAfterStart := by simp [boundAfterStart]
  obtain ⟨hnotes, -⟩ := htold (boundAfterStart.take 6) (.host .run) [.host (.notify .empty)] ⟨0⟩ rfl
    hredeems (by decide +kernel) (by decide +kernel) hlive
  refine ⟨hredeems, ?_, ?_, ?_, ?_⟩
  · rw [Ne, harm]
    intro hfirst
    exact absurd (hfirst.2 _ hstart) (by decide)
  · rw [hattached]
    exact .inr ⟨⟨rfl, _, hstart, rfl⟩, hbound⟩
  · rw [hobserver, hattachments]
    rfl
  · rw [hnotes]
    decide +kernel

end Session

end Consent
