import Consent.Observer.Host
import Consent.Proofs.Observer.Phases

set_option autoImplicit false

/-!
# What a host does to its bridge

Most steps of a host leave the bridge alone, or have it give out a ticket or its watch. An observer
comes to be attached by hand or by the task that watches the slot, which is all the same to the
bridge. Records come in only when the host brings them.

## Main definitions

* `Consent.Observer.HostStep.brings` — whether the host brings a record to the bridge.
* `Consent.Observer.Bridge.Idle` — a bridge that gives out tickets or its watch.

## Main results

* `Consent.Observer.Host.step_cases` — what a step that brings no record does.
* `Consent.Observer.Host.moved_deliver_of_alive`, `Consent.Observer.Host.moved_deliver_of_dead` —
  what comes of a delivery.
-/

namespace Consent.Observer

/-- Whether the host brings a record to the bridge. -/
def HostStep.brings : HostStep → Bool
  | .notify _ => true
  | .notifyAt _ _ => true
  | _ => false

/-- Nothing happens to the bridge but that it gives out tickets or its watch. -/
structure Bridge.Idle (b b' : Bridge) : Prop where
  same : b' = { b with issued := b'.issued, hasWatch := b'.hasWatch }
  issued : b.issued ≤ b'.issued

/-- Nothing may happen at all. -/
lemma Bridge.Idle.refl (b : Bridge) : Idle b b := ⟨rfl, le_rfl⟩

/-- Nothing happens, and then nothing happens. -/
lemma Bridge.Idle.trans {b b' b'' : Bridge} (h : Idle b b') (h' : Idle b' b'') : Idle b b'' := by
  refine ⟨?_, h.issued.trans h'.issued⟩
  have hsame := h'.same
  rw [h.same] at hsame
  exact hsame

section Idle

variable {b b' : Bridge}

/-- Giving out tickets or the watch leaves the observer. -/
lemma Bridge.Idle.observer (h : b.Idle b') : b'.observer = b.observer := by rw [h.same]

/-- Giving out tickets or the watch leaves the record that is held. -/
lemma Bridge.Idle.pending (h : b.Idle b') : b'.pending = b.pending := by rw [h.same]

/-- Giving out tickets or the watch leaves the number of records that came in. -/
lemma Bridge.Idle.notified (h : b.Idle b') : b'.notified = b.notified := by rw [h.same]

/-- Giving out tickets or the watch leaves the number of calls. -/
lemma Bridge.Idle.delivered (h : b.Idle b') : b'.delivered = b.delivered := by rw [h.same]

/-- Giving out tickets or the watch leaves the last delivery. -/
lemma Bridge.Idle.lastDelivered (h : b.Idle b') : b'.lastDelivered = b.lastDelivered := by
  rw [h.same]

end Idle

namespace Host

variable {host : Host}

/-! ### Deliveries -/

/-- Who is alive depends on the observers only. -/
lemma isAlive_of_observers {other : Host} (h : other.observers = host.observers) :
    other.isAlive = host.isAlive := by
  funext handle
  rw [isAlive, isAlive, upgrade?, upgrade?, h]

/-- A call is one of the observer that its handle leads to. -/
lemma moved_call {b : Bridge × Option (Handle × Verdict)} {call : Call}
    (h : (host.moved b).2 = some call) :
    ∃ owned, host.upgrade? call.handle = some (call.observer, owned) ∧
      call.reaction = owned.reaction := by
  obtain ⟨⟨handle, verdict⟩, -, hcall⟩ := Option.bind_eq_some_iff.mp h
  obtain ⟨⟨name, owned⟩, hfound, rfl⟩ := Option.map_eq_some_iff.mp hcall
  exact ⟨owned, hfound, rfl⟩

/-- A delivery that is not stale becomes a call of the observer if it is alive. -/
lemma moved_deliver_of_alive {b : Bridge} {d : Delivery} (hfresh : b.isStale d.ticket = false)
    (hlive : host.isAlive d.handle = true) :
    ∃ (name : String) (owned : Owned), host.moved (b.deliver host.isAlive d) =
      ({ host with
          bridge := { b with lastDelivered := some d.ticket, delivered := b.delivered + 1 } },
        some ⟨d.handle, name, owned.reaction, d.record.verdict⟩) := by
  obtain ⟨⟨name, owned⟩, hfound⟩ := Option.isSome_iff_exists.mp hlive
  refine ⟨name, owned, ?_⟩
  rw [Bridge.deliver_of_alive hfresh hlive, moved]
  simp [hfound]

/-- A delivery that is not stale comes to nothing if the observer is gone. -/
lemma moved_deliver_of_dead {b : Bridge} {d : Delivery} (hfresh : b.isStale d.ticket = false)
    (hdead : host.isAlive d.handle = false) :
    host.moved (b.deliver host.isAlive d) =
      ({ host with bridge := { b with lastDelivered := some d.ticket } }, none) := by
  rw [Bridge.deliver_of_dead hfresh hdead]
  rfl

/-! ### Steps -/

/-- What a step that brings no record does: no observer is called and nothing happens to the bridge
but that it gives out a ticket or its watch; or an observer comes to be attached. -/
lemma step_cases (host : Host) {step : HostStep} (hstep : step.brings = false) :
    (host.bridge.Idle (host.step step).1.bridge ∧ (host.step step).2.2 = none) ∨
      ∃ task h, (host.step step).1 = ({ host with task := task }.attach h).1 ∧
        (host.step step).2.2 = ({ host with task := task }.attach h).2 := by
  have hidle : host.bridge.Idle host.bridge := .refl _
  cases step with
  | makeObserver name reaction => exact .inl ⟨hidle, rfl⟩
  | dropObserver name => exact .inl ⟨hidle, rfl⟩
  | isBound slot => exact .inl ⟨hidle, rfl⟩
  | current slot => exact .inl ⟨hidle, rfl⟩
  | pollWatch name => exact .inl ⟨hidle, rfl⟩
  | compare name other => exact .inl ⟨hidle, rfl⟩
  | cloneSlot slot name =>
    simp only [step]
    split <;> exact .inl ⟨hidle, rfl⟩
  | dropSlot slot =>
    simp only [step]
    split <;> exact .inl ⟨hidle, rfl⟩
  | subscribe slot name =>
    simp only [step]
    split <;> exact .inl ⟨hidle, rfl⟩
  | makeHandle name observer =>
    simp only [step]
    split <;> exact .inl ⟨hidle, rfl⟩
  | bind slot observer =>
    simp only [step]
    split
    · split <;> exact .inl ⟨hidle, rfl⟩
    · exact .inl ⟨hidle, rfl⟩
  | takeTicket name => exact .inl ⟨⟨rfl, Nat.le_succ _⟩, rfl⟩
  | arm => exact .inl ⟨⟨rfl, le_rfl⟩, rfl⟩
  | attachHandle handle =>
    simp only [step]
    split
    · exact .inr ⟨host.task, _, rfl, rfl⟩
    · exact .inl ⟨hidle, rfl⟩
  | attachObserver observer =>
    simp only [step]
    split
    · exact .inr ⟨host.task, _, rfl, rfl⟩
    · exact .inl ⟨hidle, rfl⟩
  | run =>
    simp only [step, run]
    split
    · exact .inl ⟨hidle, rfl⟩
    · split
      · exact .inl ⟨hidle, rfl⟩
      · split
        · exact .inl ⟨hidle, rfl⟩
        · exact .inl ⟨hidle, rfl⟩
        · exact .inr ⟨_, _, rfl, rfl⟩
  | notify record => simp [HostStep.brings] at hstep
  | notifyAt ticket record => simp [HostStep.brings] at hstep

end Host

end Consent.Observer
