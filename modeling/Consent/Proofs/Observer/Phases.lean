import Consent.Observer.Bridge
import Mathlib.Data.List.MinMax

set_option autoImplicit false

/-!
# The phases of a bridge

What each phase of a call on a bridge does, by cases: on whether an observer is attached in the
first phase, and on whether something as late has been delivered in the second one.

## Main results

* `Consent.Observer.Bridge.attachPhase_of_attached`,
  `Consent.Observer.Bridge.attachPhase_of_unattached` — the first phase of an attachment.
* `Consent.Observer.Bridge.notifyPhase_of_attached`,
  `Consent.Observer.Bridge.notifyPhase_of_unattached` — the first phase of a notification.
* `Consent.Observer.Bridge.deliver_of_stale`, `Consent.Observer.Bridge.deliver_of_alive`,
  `Consent.Observer.Bridge.deliver_of_dead` — the second phase.
* `Consent.Observer.Bridge.held_argmax_concat` — the record that is held is the latest one.
-/

namespace Consent.Observer

namespace Bridge

variable {b : Bridge}

/-! ### First phases -/

/-- Only the first attachment counts. -/
lemma attachPhase_of_attached {k : Handle} (hb : b.observer = some k) (h : Handle) :
    b.attachPhase h = (b, none) := by
  simp [attachPhase, hb]

/-- The first attachment takes the held record for delivery. -/
lemma attachPhase_of_unattached (hb : b.observer = none) (h : Handle) :
    b.attachPhase h =
      ({ b with observer := some h, pending := none },
        b.pending.map fun p => ⟨h, p.1, p.2⟩) := by
  simp [attachPhase, hb]

/-- With an observer attached, a record that comes in is to be delivered to it. -/
lemma notifyPhase_of_attached {h : Handle} (hb : b.observer = some h) (t : Ticket) (r : Record) :
    b.notifyPhase t r = ({ b with notified := b.notified + 1 }, some ⟨h, t, r⟩) := by
  simp [notifyPhase, hb]

/-- What is held once a record has come in: the one with the later ticket, and the one that is held
already if they share their ticket. -/
def later (held : Option (Ticket × Record)) (p : Ticket × Record) : Option (Ticket × Record) :=
  if held.all fun q => q.1.number < p.1.number then some p else held

/-- Without an observer, a record that comes in is held unless a later one is. -/
lemma notifyPhase_of_unattached (hb : b.observer = none) (t : Ticket) (r : Record) :
    b.notifyPhase t r =
      ({ b with notified := b.notified + 1, pending := later b.pending (t, r) }, none) := by
  simp only [notifyPhase, hb, supersedesPending, later]
  split <;> rfl

/-- A record with the next ticket takes the place of the one that is held. -/
lemma later_next {held : Option (Ticket × Record)} {n : Nat}
    (hheld : ∀ p, held = some p → p.1.number ≤ n) (r : Record) :
    later held (⟨n + 1⟩, r) = some (⟨n + 1⟩, r) := by
  rw [later, if_pos]
  cases hp : held with
  | none => rfl
  | some p => simpa using Nat.lt_succ_of_le (hheld p hp)

/-- What is to be delivered when a record comes in is this record. -/
lemma record_of_notifyPhase {t : Ticket} {r : Record} {d : Delivery}
    (hd : (b.notifyPhase t r).2 = some d) : d.record = r := by
  cases hb : b.observer with
  | none =>
    rw [notifyPhase_of_unattached hb] at hd
    simp at hd
  | some h =>
    rw [notifyPhase_of_attached hb] at hd
    rw [← Option.some.inj hd]

/-- **The record that is held is the latest one**, and the earliest of those that share its ticket:
it moves on as the first maximum of a list does. -/
lemma held_argmax_concat {α : Type} (rank : α → Nat) (pair : α → Ticket × Record)
    (hrank : ∀ a, (pair a).1.number = rank a) (l : List α) (a : α) :
    ((l ++ [a]).argmax rank).map pair = later ((l.argmax rank).map pair) (pair a) := by
  rw [List.argmax_concat]
  cases l.argmax rank with
  | none => simp [later]
  | some c =>
    simp only [later, Option.map_some, Option.all_some, hrank, decide_eq_true_eq]
    split <;> rfl

/-! ### The second phase -/

/-- A delivery is dropped once something as late has been delivered. -/
lemma deliver_of_stale {d : Delivery} (hd : b.isStale d.ticket = true) (alive : Handle → Bool) :
    b.deliver alive d = (b, none) := by
  simp [deliver, hd]

/-- A delivery that is not stale reaches an observer that is alive. -/
lemma deliver_of_alive {alive : Handle → Bool} {d : Delivery} (hd : b.isStale d.ticket = false)
    (hlive : alive d.handle = true) :
    b.deliver alive d =
      ({ b with lastDelivered := some d.ticket, delivered := b.delivered + 1 },
        some (d.handle, d.record.verdict)) := by
  simp [deliver, hd, hlive]

/-- A delivery that is not stale counts as the last one even when the observer is gone. -/
lemma deliver_of_dead {alive : Handle → Bool} {d : Delivery} (hd : b.isStale d.ticket = false)
    (hdead : alive d.handle = false) :
    b.deliver alive d = ({ b with lastDelivered := some d.ticket }, none) := by
  simp [deliver, hd, hdead]

/-- A ticket is stale once one that is as late has been delivered. -/
lemma isStale_iff {t : Ticket} :
    b.isStale t = true ↔ ∃ last, b.lastDelivered = some last ∧ t.number ≤ last.number := by
  simp [isStale, Option.any_eq_true]

/-- The next ticket is not stale. -/
lemma isStale_next {n : Nat} (hlast : ∀ t, b.lastDelivered = some t → t.number ≤ n) :
    b.isStale ⟨n + 1⟩ = false := by
  rw [← Bool.not_eq_true, isStale_iff]
  rintro ⟨last, h, hle⟩
  exact absurd (hlast last h) (Nat.not_le.mpr hle)

/-! ### What the phases leave -/

/-- A delivery touches nothing but the last ticket delivered and the number of calls. -/
lemma deliver_eq (alive : Handle → Bool) (b : Bridge) (d : Delivery) :
    (b.deliver alive d).1 =
      { b with
        lastDelivered := (b.deliver alive d).1.lastDelivered
        delivered := (b.deliver alive d).1.delivered } := by
  simp only [deliver]
  split
  · rfl
  · split <;> rfl

/-- A delivery counts the call that it makes. -/
lemma deliver_delivered (alive : Handle → Bool) (b : Bridge) (d : Delivery) :
    (b.deliver alive d).1.delivered = b.delivered + (b.deliver alive d).2.toList.length := by
  simp only [deliver]
  split
  · rfl
  · split <;> rfl

/-- What the second phase leaves of the state after the first one: the tickets given out and the
number of records that came in. It counts the call that is made. -/
lemma finish_counts (alive : Handle → Bool) (p : Bridge × Option Delivery) :
    (finish alive p).1.issued = p.1.issued ∧ (finish alive p).1.notified = p.1.notified ∧
      (finish alive p).1.delivered = p.1.delivered + (finish alive p).2.toList.length := by
  obtain ⟨b, d⟩ := p
  cases d with
  | none => exact ⟨rfl, rfl, rfl⟩
  | some d =>
    refine ⟨?_, ?_, deliver_delivered alive b d⟩
    · simp only [finish]
      rw [deliver_eq]
    · simp only [finish]
      rw [deliver_eq]

/-- An attachment gives out no tickets, brings no record, and counts the call that it makes. -/
lemma attach_counts (alive : Handle → Bool) (b : Bridge) (h : Handle) :
    (b.attach alive h).1.issued = b.issued ∧ (b.attach alive h).1.notified = b.notified ∧
      (b.attach alive h).1.delivered = b.delivered + (b.attach alive h).2.toList.length := by
  have hcounts := finish_counts alive (b.attachPhase h)
  rw [attach]
  cases hb : b.observer with
  | none =>
    rw [attachPhase_of_unattached hb] at hcounts ⊢
    exact hcounts
  | some k =>
    rw [attachPhase_of_attached hb] at hcounts ⊢
    exact hcounts

/-- A notification gives out no tickets, brings one record, and counts the call that it makes. -/
lemma notifyAt_counts (alive : Handle → Bool) (b : Bridge) (t : Ticket) (r : Record) :
    (b.notifyAt alive t r).1.issued = b.issued ∧
      (b.notifyAt alive t r).1.notified = b.notified + 1 ∧
      (b.notifyAt alive t r).1.delivered =
        b.delivered + (b.notifyAt alive t r).2.toList.length := by
  have hcounts := finish_counts alive (b.notifyPhase t r)
  rw [notifyAt]
  cases hb : b.observer with
  | none =>
    rw [notifyPhase_of_unattached hb] at hcounts ⊢
    exact hcounts
  | some h =>
    rw [notifyPhase_of_attached hb] at hcounts ⊢
    exact hcounts

end Bridge

end Consent.Observer
