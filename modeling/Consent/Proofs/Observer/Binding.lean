import Consent.Observer.Host
import Mathlib.Data.List.Induction
import Mathlib.Tactic.Lemma

set_option autoImplicit false

/-!
# The slot is resolved once

What becomes of a slot in every run of a host: its handles are cloned and dropped, observers are
bound to it, watches are taken and polled, and observers come and go, all in any order.

What a step *offers* the slot is the observer that it binds over a handle that is there. The first
offer of a run counts. Everything that can be seen of the slot depends on this offer and on whether
a handle is left; a watch has no memory of its own.

## Main definitions

* `Consent.Observer.Host.after` — the host after some steps.
* `Consent.Observer.Host.offer?`, `Consent.Observer.Host.offers` — what a step and a run offer the
  slot.
* `Consent.Observer.Host.SlotStep` — all that a step can do to the slot.
* `Consent.Observer.Host.Tidy` — the number of handles is right.
* `Consent.Observer.Slot.Resolution.outcome` — what comes of polling a watch.

## Main results

* `Consent.Observer.Host.slotStep` — what a step does to the slot.
* `Consent.Observer.Host.SlotStep.bound_eq`, `Consent.Observer.Host.SlotStep.tidy`,
  `Consent.Observer.Host.SlotStep.settled` — what a step keeps.
* `Consent.Observer.Host.after_bound`, `Consent.Observer.Host.Tidy.after`,
  `Consent.Observer.Host.Tidy.settled` — what a run keeps.
* `Consent.Observer.Host.slot_resolves_once` — what can be seen of the slot after each run.
-/

namespace Consent.Observer

/-- What comes of polling a watch that finds this. -/
def Slot.Resolution.outcome (alive : Handle → Bool) : Slot.Resolution → Outcome
  | .waiting => .waiting
  | .resolved h => .handle (alive h)
  | .closed => .closed

namespace Host

/-! ### Runs and offers -/

/-- The host after some steps. -/
def after (host : Host) (steps : List HostStep) : Host :=
  steps.foldl (fun host step => (host.step step).1) host

/-- One more step. -/
lemma after_concat (host : Host) (steps : List HostStep) (x : HostStep) :
    host.after (steps ++ [x]) = ((host.after steps).step x).1 := by
  simp [after]

/-- The observer that a step offers the slot: one that is there, over a handle that is there. -/
def offer? (host : Host) : HostStep → Option Handle
  | .bind slot observer => if host.slots.has slot then host.handleTo? observer else none
  | _ => none

/-- The observers that a run offers the slot, in their order. -/
def offers (host : Host) : List HostStep → List Handle
  | [] => []
  | x :: steps => (host.offer? x).toList ++ (host.step x).1.offers steps

/-- What one more step offers comes last. -/
lemma offers_concat (host : Host) (steps : List HostStep) (x : HostStep) :
    host.offers (steps ++ [x]) = host.offers steps ++ ((host.after steps).offer? x).toList := by
  induction steps generalizing host with
  | nil => simp [offers, after]
  | cons y steps ih =>
    rw [List.cons_append, offers, ih, offers, List.append_assoc]
    rfl

/-! ### What a step does to the slot -/

/-- All that a step can do to the slot and to its handles, by what it offers the slot. -/
inductive SlotStep (host : Host) : Slot → Table Unit → Option Handle → Prop
  /-- It does nothing to them. -/
  | still : SlotStep host host.slot host.slots none
  /-- It clones a handle under a name. A handle that had this name is dropped. -/
  | cloned {slot : String} (hslot : host.slots.has slot = true) (name : String) :
      SlotStep host (if host.slots.has name then host.slot.hold.release else host.slot.hold)
        (host.slots.put name ()) none
  /-- It drops a handle. -/
  | dropped {slot : String} (hslot : host.slots.has slot = true) :
      SlotStep host host.slot.release (host.slots.erase slot) none
  /-- It binds an observer over a handle. Only the first one counts. -/
  | bound {slot : String} (hslot : host.slots.has slot = true) (h : Handle) :
      SlotStep host
        (if host.slot.bound.isSome then host.slot else { host.slot with bound := some h })
        host.slots (some h)

/-- What a step offers the slot. -/
lemma offer?_bind_eq_some {host : Host} {slot observer : String} {h : Handle} :
    host.offer? (.bind slot observer) = some h ↔
      host.slots.find? slot = some () ∧ host.handleTo? observer = some h := by
  cases hfind : host.slots.find? slot <;> simp [offer?, Table.has, hfind]

/-- The first observer that is offered is bound, and any other one is refused. -/
lemma step_bind {host : Host} {slot observer : String} {h : Handle}
    (hoffer : host.offer? (.bind slot observer) = some h) :
    host.step (.bind slot observer) =
      if host.slot.bound.isSome then (host, .refused .alreadyBound, none)
      else ({ host with slot := { host.slot with bound := some h } }, .bound, none) := by
  obtain ⟨hslot, hobserver⟩ := offer?_bind_eq_some.mp hoffer
  simp only [step, hslot, hobserver]
  by_cases hbound : host.slot.bound.isSome = true
  · rw [if_pos hbound, Slot.bind_of_bound hbound]
    rfl
  · rw [if_neg hbound, Slot.bind_of_unbound (by simpa using hbound)]
    rfl

/-- Without an offer, binding does nothing. -/
lemma step_bind_of_none {host : Host} {slot observer : String}
    (hoffer : host.offer? (.bind slot observer) = none) :
    host.step (.bind slot observer) = (host, .unknown, none) := by
  simp only [step]
  split
  case h_1 h hslot hobserver =>
    rw [offer?_bind_eq_some.mpr ⟨hslot, hobserver⟩] at hoffer
    cases hoffer
  case h_2 => rfl

/-- **What a step does to the slot.** -/
lemma slotStep (host : Host) (x : HostStep) :
    SlotStep host (host.step x).1.slot (host.step x).1.slots (host.offer? x) := by
  cases x with
  | cloneSlot slot name =>
    simp only [step]
    split
    case isTrue hslot => exact .cloned hslot name
    case isFalse => exact .still
  | dropSlot slot =>
    simp only [step]
    split
    case isTrue hslot => exact .dropped hslot
    case isFalse => exact .still
  | bind slot observer =>
    cases hoffer : host.offer? (.bind slot observer) with
    | none =>
      rw [step_bind_of_none hoffer]
      exact .still
    | some h =>
      obtain ⟨hfind, -⟩ := offer?_bind_eq_some.mp hoffer
      have hslot : host.slots.has slot = true := by simp [Table.has, hfind]
      have hbound := SlotStep.bound hslot h
      rw [step_bind hoffer]
      split
      case isTrue hsome => rwa [if_pos hsome] at hbound
      case isFalse hnone => rwa [if_neg hnone] at hbound
  | subscribe slot name =>
    simp only [step]
    split <;> exact .still
  | makeHandle name observer =>
    simp only [step]
    split <;> exact .still
  | attachHandle handle =>
    simp only [step]
    split <;> exact .still
  | attachObserver observer =>
    simp only [step]
    split <;> exact .still
  | notifyAt ticket record =>
    simp only [step]
    split <;> exact .still
  | run =>
    simp only [step, run]
    split
    case h_1 => exact .still
    case h_2 =>
      split
      case isTrue => exact .still
      case isFalse => split <;> exact .still
  | _ => exact .still

/-! ### What a step keeps -/

section Steps

variable {host : Host} {slot : Slot} {slots : Table Unit} {offer : Option Handle}

/-- The first offer is bound, for good. -/
lemma SlotStep.bound_eq (h : SlotStep host slot slots offer) :
    slot.bound = host.slot.bound.or offer := by
  cases h with
  | still => simp
  | cloned hslot name =>
    split <;> simp [Slot.hold, Slot.release]
  | dropped hslot => simp [Slot.release]
  | bound hslot h =>
    cases hbound : host.slot.bound <;> simp [hbound]

/-- The slot's number of handles is the number of their names, and no two of them share one. -/
structure Tidy (slot : Slot) (slots : Table Unit) : Prop where
  holders : slot.holders = slots.length
  distinct : Table.Distinct slots

/-- The number of handles stays right. -/
lemma SlotStep.tidy (h : SlotStep host slot slots offer) (hhost : Tidy host.slot host.slots) :
    Tidy slot slots := by
  obtain ⟨hholders, hdistinct⟩ := hhost
  cases h with
  | still => exact ⟨hholders, hdistinct⟩
  | cloned hslot name =>
    refine ⟨?_, hdistinct.put name ()⟩
    rw [hdistinct.length_put]
    split
    case isTrue => exact hholders
    case isFalse => exact congrArg (· + 1) hholders
  | dropped hslot =>
    have hlength := hdistinct.length_erase hslot
    refine ⟨?_, hdistinct.erase _⟩
    show host.slot.holders - 1 = _
    omega
  | bound hslot h =>
    refine ⟨?_, hdistinct⟩
    split <;> exact hholders

/-- Without a handle, nothing can be done to the slot. -/
lemma SlotStep.of_no_slots (h : SlotStep host slot slots offer) (hnone : host.slots = []) :
    slot = host.slot ∧ slots = [] := by
  have hhas : ∀ name, host.slots.has name ≠ true := by simp [hnone, Table.has, Table.find?]
  cases h with
  | still => exact ⟨rfl, hnone⟩
  | cloned hslot name => exact absurd hslot (hhas _)
  | dropped hslot => exact absurd hslot (hhas _)
  | bound hslot h => exact absurd hslot (hhas _)

/-- What a watch has found, it finds again after a step. -/
lemma SlotStep.settled (h : SlotStep host slot slots offer) (hhost : Tidy host.slot host.slots)
    (hsettled : host.slot.resolution ≠ .waiting) : slot.resolution = host.slot.resolution := by
  cases hbound : host.slot.bound with
  | some k => simp [Slot.resolution, h.bound_eq, hbound]
  | none =>
    -- The slot is closed: no handle is left, over which anything could be bound.
    have hnone : host.slots = [] := by
      rw [← List.length_eq_zero_iff, ← hhost.holders]
      by_contra hholders
      exact hsettled (by simp [Slot.resolution, hbound, hholders])
    rw [(h.of_no_slots hnone).1]

end Steps

/-! ### What a run keeps -/

/-- The first offer of a run is bound. -/
lemma after_bound (host : Host) (steps : List HostStep) :
    (host.after steps).slot.bound = host.slot.bound.or (host.offers steps).head? := by
  induction steps using List.reverseRecOn with
  | nil => simp [after, offers]
  | append_singleton steps x ih =>
    rw [after_concat, ((host.after steps).slotStep x).bound_eq, ih, offers_concat,
      List.head?_append, Option.or_assoc]
    cases (host.after steps).offer? x <;> rfl

/-- At first there is one handle. -/
lemma tidy_fresh (bridge : Bridge) : Tidy (fresh bridge).slot (fresh bridge).slots :=
  ⟨rfl, by simp [Table.Distinct, fresh]⟩

/-- The number of handles stays right. -/
lemma Tidy.after {host : Host} (hhost : Tidy host.slot host.slots) (steps : List HostStep) :
    Tidy (host.after steps).slot (host.after steps).slots := by
  induction steps using List.reverseRecOn with
  | nil => exact hhost
  | append_singleton steps x ih =>
    rw [after_concat]
    exact ((host.after steps).slotStep x).tidy ih

/-- What a watch has found, it finds again ever after. -/
lemma Tidy.settled {host : Host} (hhost : Tidy host.slot host.slots)
    (hsettled : host.slot.resolution ≠ .waiting) (later : List HostStep) :
    (host.after later).slot.resolution = host.slot.resolution := by
  induction later using List.reverseRecOn with
  | nil => rfl
  | append_singleton later x ih =>
    rw [after_concat, ← ih]
    exact ((host.after later).slotStep x).settled (hhost.after later) (ih ▸ hsettled)

/-- What a watch finds when the number of handles is right. -/
lemma Tidy.resolution_eq {slot : Slot} {slots : Table Unit} (h : Tidy slot slots) :
    slot.resolution =
      match slot.bound with
      | some h => .resolved h
      | none => if slots = [] then .closed else .waiting := by
  have hslots : slot.holders = 0 ↔ slots = [] := by
    rw [h.holders, List.length_eq_zero_iff]
  rw [Slot.resolution]
  cases slot.bound with
  | none => simp only [hslots]
  | some h => rfl

/-! ### What can be seen of the slot -/

/-- **The slot is resolved once**, in every run of a host, whatever its bridge. The first observer
offered over any handle is bound, and each later one is refused without effect; this one is found
over every handle from then on, even once it is gone. Whenever a watch was taken and however often
it has been polled, polling it does nothing to the host and finds the first observer offered, if
there was any, even if no handle is left; it finds the slot closed if there was none and no handle
is left, and waits otherwise. What a watch has found, every watch finds ever after.

**Proof sketch.** A step clones or drops a handle, or offers an observer, or does nothing to the
slot (`slotStep`). So the first offer is what is bound (`after_bound`), and the number of handles is
the number of their names (`Tidy.after`). Without a handle nothing can be offered, so that a slot
that is closed stays so (`Tidy.settled`). -/
theorem slot_resolves_once (bridge : Bridge) (steps : List HostStep) :
    let host := (fresh bridge).after steps
    let offers := (fresh bridge).offers steps
    (∀ slot observer h, host.offer? (.bind slot observer) = some h →
      host.step (.bind slot observer) =
        if offers = [] then ({ host with slot := { host.slot with bound := some h } }, .bound, none)
        else (host, .refused .alreadyBound, none)) ∧
    host.slot.bound = offers.head? ∧
    (∀ slot, host.slots.has slot = true →
      host.step (.isBound slot) = (host, .flag (offers ≠ []), none) ∧
      host.step (.current slot) =
        (host, (offers.head?.elim .nothing fun h => .handle (host.isAlive h)), none)) ∧
    host.slot.resolution =
      (match offers.head? with
      | some h => .resolved h
      | none => if host.slots = [] then .closed else .waiting) ∧
    (∀ watch, host.watches.has watch = true →
      host.step (.pollWatch watch) =
        (host, host.slot.resolution.outcome host.isAlive, none)) ∧
    (∀ later h, host.slot.bound = some h → (host.after later).slot.bound = some h) ∧
    (∀ later, host.slot.resolution ≠ .waiting →
      (host.after later).slot.resolution = host.slot.resolution) := by
  intro host offers
  have htidy : Tidy host.slot host.slots := (tidy_fresh bridge).after steps
  have hbound : host.slot.bound = offers.head? := after_bound (fresh bridge) steps
  have hsome : host.slot.bound.isSome = decide (offers ≠ []) := by
    rw [hbound]
    cases offers <;> rfl
  refine ⟨?_, hbound, ?_, ?_, ?_, ?_, ?_⟩
  · intro slot observer h hoffer
    rw [step_bind hoffer, hsome]
    simp
  · intro slot hslot
    constructor
    · simp only [step, quiet, if_pos hslot, hsome]
    · simp only [step, quiet, if_pos hslot, hbound]
      cases offers.head? <;> rfl
  · rw [htidy.resolution_eq, hbound]
  · intro watch hwatch
    simp only [step, quiet, if_pos hwatch]
    cases host.slot.resolution <;> rfl
  · intro later h hh
    rw [after_bound, hh, Option.some_or]
  · exact fun later hsettled => htidy.settled hsettled later

/-- A watch is taken, an observer is bound just before the last handle is dropped, and dies. -/
def boundBeforeTeardown : List HostStep :=
  [.makeObserver "o" .nothing, .subscribe "main" "w", .cloneSlot "main" "b", .dropSlot "main",
    .pollWatch "w", .bind "b" "o", .dropSlot "b", .dropObserver "o"]

/-- The binding made just before the last handle is dropped is not lost: the watch finds it, and
finds it again whatever happens later. -/
theorem watch_finds_late_binding :
    let host := (fresh .watching).after boundBeforeTeardown
    host.slots = [] ∧ host.slot.bound = some ⟨0⟩ ∧
    host.step (.pollWatch "w") = (host, .handle false, none) ∧
    ∀ later, (host.after later).slot.resolution = .resolved ⟨0⟩ := by
  intro host
  have hoffers : (fresh .watching).offers boundBeforeTeardown = [⟨0⟩] := by decide +kernel
  have hwatch : host.watches.has "w" = true := by decide +kernel
  obtain ⟨-, hbound, -, hresolution, hpoll, -, hsettled⟩ :=
    slot_resolves_once .watching boundBeforeTeardown
  rw [hoffers] at hbound hresolution
  refine ⟨by decide +kernel, hbound, ?_, ?_⟩
  · rw [hpoll "w" hwatch, hresolution]
    decide +kernel
  · intro later
    rw [hsettled later (by simp [hresolution]), hresolution]
    rfl

end Host

end Consent.Observer
