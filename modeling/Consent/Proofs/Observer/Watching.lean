import Consent.Proofs.Observer.Binding
import Consent.Proofs.Observer.Host

set_option autoImplicit false

/-!
# Attaching by hand and by the task

A bridge is attached by hand, or by the task that watches the slot for it. The task starts when the
bridge is armed, which happens once, and comes to an end when it runs and finds the slot resolved.
Nothing else that a host does has to do with whether its bridge is attached or can be armed.

## Main definitions

* `Consent.Observer.Host.manual?`, `Consent.Observer.Host.attachment?` — the observer that a step
  attaches to the bridge, by hand or by whatever means.
* `Consent.Observer.Host.WatchStep` — all that a step can do to the bridge's observer, its watch and
  the task.
* `Consent.Observer.Host.Still` — nothing happens to the slot, the observer, the watch and the task.

## Main results

* `Consent.Observer.Host.watchStep` — what a step does to the observer, the watch and the task.
* `Consent.Observer.Host.WatchStep.observer_eq`, `Consent.Observer.Host.WatchStep.hasWatch_eq`,
  `Consent.Observer.Host.WatchStep.task_isSome` — what comes of it.
* `Consent.Observer.Host.WatchStep.kept` — a task ends only once there is nothing left for it to do.
* `Consent.Observer.Host.run_ends` — what is left for the task once it has run.
-/

namespace Consent.Observer

namespace Bridge

/-- The second phase of a call leaves the observer and the watch. -/
lemma finish_frame (alive : Handle → Bool) (p : Bridge × Option Delivery) :
    (finish alive p).1.observer = p.1.observer ∧ (finish alive p).1.hasWatch = p.1.hasWatch := by
  obtain ⟨b, d⟩ := p
  cases d with
  | none => exact ⟨rfl, rfl⟩
  | some d =>
    simp only [finish]
    rw [deliver_eq]
    exact ⟨rfl, rfl⟩

/-- An attachment counts if it is the first one, and leaves the watch. -/
lemma attach_frame (alive : Handle → Bool) (b : Bridge) (h : Handle) :
    (b.attach alive h).1.observer = b.observer.or (some h) ∧
      (b.attach alive h).1.hasWatch = b.hasWatch := by
  obtain ⟨hobserver, hwatch⟩ := finish_frame alive (b.attachPhase h)
  rw [attach, hobserver, hwatch]
  cases hb : b.observer with
  | none =>
    rw [attachPhase_of_unattached hb]
    exact ⟨rfl, rfl⟩
  | some k =>
    rw [attachPhase_of_attached hb]
    exact ⟨hb, rfl⟩

/-- A notification leaves the observer and the watch. -/
lemma notifyAt_frame (alive : Handle → Bool) (b : Bridge) (t : Ticket) (r : Record) :
    (b.notifyAt alive t r).1.observer = b.observer ∧
      (b.notifyAt alive t r).1.hasWatch = b.hasWatch := by
  obtain ⟨hobserver, hwatch⟩ := finish_frame alive (b.notifyPhase t r)
  rw [notifyAt, hobserver, hwatch]
  cases hb : b.observer with
  | none =>
    rw [notifyPhase_of_unattached hb]
    exact ⟨hb, rfl⟩
  | some k =>
    rw [notifyPhase_of_attached hb]
    exact ⟨hb, rfl⟩

end Bridge

namespace Slot

variable {s : Slot}

/-- A watch finds what is bound. -/
lemma resolution_eq_resolved_iff {h : Handle} : s.resolution = .resolved h ↔ s.bound = some h := by
  rw [resolution]
  cases s.bound with
  | none => by_cases hholders : s.holders = 0 <;> simp [hholders]
  | some k => simp

/-- A watch waits, or finds the slot closed, while nothing is bound. -/
lemma bound_eq_none_iff : s.bound = none ↔ s.resolution = .waiting ∨ s.resolution = .closed := by
  rw [resolution]
  cases s.bound with
  | none => by_cases hholders : s.holders = 0 <;> simp [hholders]
  | some k => simp

end Slot

/-- Whether a step of the host arms the bridge. -/
def HostStep.arms : HostStep → Bool
  | .arm => true
  | _ => false

namespace Host

/-! ### Attachments -/

/-- The observer that a step attaches by hand. -/
def manual? (host : Host) : HostStep → Option Handle
  | .attachHandle handle => host.handles.find? handle
  | .attachObserver observer => host.handleTo? observer
  | _ => none

/-- The observer that a step attaches, by hand or by letting the task run. -/
def attachment? (host : Host) : HostStep → Option Handle
  | .run => host.task.bind fun task => if task.finished then none else host.slot.bound
  | x => host.manual? x

/-- What is attached by hand is attached. -/
lemma attachment?_of_manual? {host : Host} {x : HostStep} {h : Handle}
    (hx : host.manual? x = some h) : host.attachment? x = some h := by
  cases x with
  | run => simp [manual?] at hx
  | _ => exact hx

/-- What is not attached by hand is attached by the task, which finds it bound to the slot. -/
lemma attachment?_cases {host : Host} {x : HostStep} {h : Handle}
    (hx : host.attachment? x = some h) :
    host.manual? x = some h ∨ host.task.isSome = true ∧ host.slot.bound = some h := by
  cases x with
  | run =>
    obtain ⟨task, htask, hbound⟩ := Option.bind_eq_some_iff.mp hx
    split at hbound
    case isTrue => simp at hbound
    case isFalse => exact .inr ⟨by simp [htask], hbound⟩
  | _ => exact .inl hx

/-! ### What a step does to the observer, the watch and the task -/

/-- All that a step can do to the bridge's observer, its watch and the task, by what it attaches and
whether it arms the bridge. -/
inductive WatchStep (host : Host) :
    Option Handle → Bool → Option WatchTask → Option Handle → Bool → Prop
  /-- It does nothing to them. -/
  | still : WatchStep host host.bridge.observer host.bridge.hasWatch host.task none false
  /-- It arms the bridge: the watch is taken, and the task starts if there was one. -/
  | armed (tracked : Bool) :
      WatchStep host host.bridge.observer false
        (if host.bridge.hasWatch then some ⟨tracked, false⟩ else host.task) none true
  /-- It attaches an observer by hand. -/
  | attached (h : Handle) :
      WatchStep host (host.bridge.observer.or (some h)) host.bridge.hasWatch host.task (some h)
        false
  /-- The task finds the slot resolved, and finishes. -/
  | finished {task : WatchTask} (htask : host.task = some task) (hrunning : task.finished = false)
      (hsettled : host.slot.resolution ≠ .waiting) :
      WatchStep host (host.bridge.observer.or host.slot.bound) host.bridge.hasWatch
        (some { task with finished := true }) host.slot.bound false

/-- What arming does. -/
lemma watchStep_arm (host : Host) (tracked : Bool) :
    host.WatchStep (host.arm tracked).1.bridge.observer (host.arm tracked).1.bridge.hasWatch
      (host.arm tracked).1.task none true :=
  .armed tracked

/-- What an attachment by hand does. -/
lemma watchStep_attach (host : Host) (h : Handle) :
    host.WatchStep (host.attach h).1.bridge.observer (host.attach h).1.bridge.hasWatch
      (host.attach h).1.task (some h) false := by
  obtain ⟨hobserver, hwatch⟩ := host.bridge.attach_frame host.isAlive h
  have hattached : host.WatchStep _ _ _ (some h) false := .attached h
  rwa [← hobserver, ← hwatch] at hattached

/-- Whether there is nothing for the task to do. -/
def Rests (host : Host) : Prop :=
  host.task = none ∨ (∃ task, host.task = some task ∧ task.finished = true) ∨
    host.slot.resolution = .waiting

/-- The host whose task has finished. -/
def finishing (host : Host) (task : WatchTask) : Host :=
  { host with task := some { task with finished := true } }

/-- What the task does when it runs: nothing, or it finishes, and attaches the binding if there is
one. -/
lemma run_cases (host : Host) :
    (host.Rests ∧ host.run.1 = host) ∨
      ∃ task, host.task = some task ∧ task.finished = false ∧
        ((host.slot.resolution = .closed ∧ host.run.1 = host.finishing task) ∨
          ∃ h, host.slot.resolution = .resolved h ∧
            host.run.1 = ((host.finishing task).attach h).1) := by
  rw [run]
  split
  case h_1 htask => exact .inl ⟨.inl htask, rfl⟩
  case h_2 task htask =>
    split
    case isTrue hfinished => exact .inl ⟨.inr (.inl ⟨task, htask, hfinished⟩), rfl⟩
    case isFalse hfinished =>
      have hrunning : task.finished = false := by simpa using hfinished
      split
      case h_1 hwaiting => exact .inl ⟨.inr (.inr hwaiting), rfl⟩
      case h_2 hclosed => exact .inr ⟨task, htask, hrunning, .inl ⟨hclosed, rfl⟩⟩
      case h_3 h hresolved => exact .inr ⟨task, htask, hrunning, .inr ⟨h, hresolved, rfl⟩⟩

/-- What letting the task run does. -/
lemma watchStep_run (host : Host) :
    host.WatchStep host.run.1.bridge.observer host.run.1.bridge.hasWatch host.run.1.task
      (host.attachment? .run) false := by
  rcases host.run_cases with ⟨hrests, hrun⟩ | ⟨task, htask, hrunning, hend⟩
  · -- A task that has nothing to do attaches nobody: what it waits for is not bound.
    have hnone : host.attachment? .run = none := by
      rw [attachment?, Option.bind_eq_none_iff]
      intro task htask
      rcases hrests with hnone | ⟨other, hother, hfinished⟩ | hwaiting
      · simp [hnone] at htask
      · obtain rfl := Option.some.inj (hother.symm.trans htask)
        rw [if_pos hfinished]
      · rw [Slot.bound_eq_none_iff.mpr (.inl hwaiting), ite_self]
    rw [hrun, hnone]
    exact .still
  · have hattachment : host.attachment? .run = host.slot.bound := by
      simp [attachment?, htask, hrunning]
    rw [hattachment]
    rcases hend with ⟨hclosed, hrun⟩ | ⟨h, hresolved, hrun⟩
    · have hstep := WatchStep.finished htask hrunning (by simp [hclosed])
      rw [Slot.bound_eq_none_iff.mpr (.inr hclosed), Option.or_none] at hstep
      rw [Slot.bound_eq_none_iff.mpr (.inr hclosed), hrun]
      exact hstep
    · have hstep := WatchStep.finished htask hrunning (by simp [hresolved])
      rw [Slot.resolution_eq_resolved_iff.mp hresolved] at hstep ⊢
      obtain ⟨hobserver, hwatch⟩ :=
        (host.finishing task).bridge.attach_frame (host.finishing task).isAlive h
      rw [hrun]
      show host.WatchStep
        ((host.finishing task).bridge.attach (host.finishing task).isAlive h).1.observer
        ((host.finishing task).bridge.attach (host.finishing task).isAlive h).1.hasWatch _ _ _
      rw [hobserver, hwatch]
      exact hstep

/-- Nothing happens to the slot, the bridge's observer, its watch, and the task. -/
structure Still (host other : Host) : Prop where
  slot : other.slot = host.slot
  slots : other.slots = host.slots
  observer : other.bridge.observer = host.bridge.observer
  hasWatch : other.bridge.hasWatch = host.bridge.hasWatch
  task : other.task = host.task

/-- Nothing may happen at all. -/
lemma Still.refl (host : Host) : host.Still host := ⟨rfl, rfl, rfl, rfl, rfl⟩

/-- Nothing happens, and then nothing happens. -/
lemma Still.trans {host other third : Host} (h : host.Still other) (h' : other.Still third) :
    host.Still third where
  slot := h'.slot.trans h.slot
  slots := h'.slots.trans h.slots
  observer := h'.observer.trans h.observer
  hasWatch := h'.hasWatch.trans h.hasWatch
  task := h'.task.trans h.task

/-- A step in which nothing happens. -/
lemma Still.watchStep {host other : Host} (h : host.Still other) :
    host.WatchStep other.bridge.observer other.bridge.hasWatch other.task none false := by
  rw [h.observer, h.hasWatch, h.task]
  exact .still

/-- A step in which nothing happens. -/
lemma Still.slotStep {host other : Host} (h : host.Still other) :
    host.SlotStep other.slot other.slots none := by
  rw [h.slot, h.slots]
  exact .still

/-- A ticket is given out. -/
lemma still_takeTicket (host : Host) :
    host.Still { host with bridge := host.bridge.takeTicket.1 } :=
  ⟨rfl, rfl, rfl, rfl, rfl⟩

/-- A record is forwarded. -/
lemma still_notifyAt (host : Host) (t : Ticket) (r : Record) :
    host.Still (host.notifyAt t r).1 := by
  obtain ⟨hobserver, hwatch⟩ := host.bridge.notifyAt_frame host.isAlive t r
  exact ⟨rfl, rfl, hobserver, hwatch, rfl⟩

/-- **What a step does to the observer, the watch and the task.** -/
lemma watchStep (host : Host) (x : HostStep) :
    host.WatchStep (host.step x).1.bridge.observer (host.step x).1.bridge.hasWatch
      (host.step x).1.task (host.attachment? x) x.arms := by
  cases x with
  | arm => exact host.watchStep_arm true
  | run => exact host.watchStep_run
  | attachHandle handle =>
    simp only [step, attachment?, manual?]
    split
    case h_1 h hfind =>
      rw [hfind]
      exact host.watchStep_attach h
    case h_2 hfind =>
      rw [hfind]
      exact .still
  | attachObserver observer =>
    simp only [step, attachment?, manual?]
    split
    case h_1 h hfind =>
      rw [hfind]
      exact host.watchStep_attach h
    case h_2 hfind =>
      rw [hfind]
      exact .still
  | notify record =>
    exact (host.still_takeTicket.trans (still_notifyAt _ _ record)).watchStep
  | notifyAt ticket record =>
    simp only [step]
    split
    · exact (host.still_notifyAt _ record).watchStep
    · exact .still
  | cloneSlot slot name =>
    simp only [step]
    split <;> exact .still
  | dropSlot slot =>
    simp only [step]
    split <;> exact .still
  | bind slot observer =>
    simp only [step]
    split
    · split <;> exact .still
    · exact .still
  | subscribe slot name =>
    simp only [step]
    split <;> exact .still
  | makeHandle name observer =>
    simp only [step]
    split <;> exact .still
  | _ => exact .still

/-! ### What comes of a step -/

section Steps

variable {host : Host} {slot : Slot} {slots : Table Unit} {offer observer : Option Handle}
  {watch : Bool} {task : Option WatchTask} {attachment : Option Handle} {arms : Bool}

/-- The first attachment counts. -/
lemma WatchStep.observer_eq (h : WatchStep host observer watch task attachment arms) :
    observer = host.bridge.observer.or attachment := by
  cases h <;> simp

/-- The watch is there until the bridge is armed. -/
lemma WatchStep.hasWatch_eq (h : WatchStep host observer watch task attachment arms) :
    watch = (host.bridge.hasWatch && !arms) := by
  cases h <;> simp

/-- The task starts when the bridge is armed. -/
lemma WatchStep.task_isSome (h : WatchStep host observer watch task attachment arms) :
    task.isSome = (host.task.isSome || (host.bridge.hasWatch && arms)) := by
  cases h with
  | still => simp
  | armed tracked => cases host.bridge.hasWatch <;> simp
  | attached k => simp
  | finished htask _ _ => simp [htask]

/-- The task has not ended without an observer, unless nothing will ever be bound. -/
def Complete (observer : Option Handle) (slot : Slot) (task : Option WatchTask) : Prop :=
  ∀ t, task = some t → t.finished = true → observer.isSome = true ∨ slot.resolution = .closed

/-- The task does not end without an observer, unless nothing will ever be bound. -/
lemma WatchStep.complete (h : WatchStep host observer watch task attachment arms)
    (hslot : SlotStep host slot slots offer) (htidy : Tidy host.slot host.slots)
    (hhost : Complete host.bridge.observer host.slot host.task) :
    Complete observer slot task := by
  have hclosed : host.slot.resolution = .closed → slot.resolution = .closed := by
    intro hclosed
    rw [hslot.settled htidy (by simp [hclosed]), hclosed]
  intro t ht hfinished
  cases h with
  | still => exact (hhost t ht hfinished).imp_right hclosed
  | armed tracked =>
    split at ht
    · obtain rfl := Option.some.inj ht
      simp at hfinished
    · exact (hhost t ht hfinished).imp_right hclosed
  | attached k => exact .inl (by simp)
  | finished htask hrunning hsettled =>
    -- What is not waited for is bound, and attached now, or closed for good.
    cases hbound : host.slot.bound with
    | some k => exact .inl (by simp)
    | none =>
      rcases Slot.bound_eq_none_iff.mp hbound with hwaiting | hend
      · exact absurd hwaiting hsettled
      · exact .inr (hclosed hend)

end Steps

/-- Once it has run, there is nothing for the task to do. -/
lemma rests_run (host : Host) : host.run.1.Rests := by
  rcases host.run_cases with ⟨hrests, hrun⟩ | ⟨task, htask, hrunning, hend⟩
  · rwa [hrun]
  · rcases hend with ⟨-, hrun⟩ | ⟨h, -, hrun⟩
    · rw [hrun]
      exact .inr (.inl ⟨_, rfl, rfl⟩)
    · rw [hrun]
      exact .inr (.inl ⟨_, rfl, rfl⟩)

end Host

end Consent.Observer
