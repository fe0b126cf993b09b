import Consent.Observer.Slot
import Consent.Record

set_option autoImplicit false

/-!
# The bridge to the host's observer

A bridge forwards each settled record to the host's observer. The observer may be attached at any
time. A record that comes before it is held, the latest one wins, and it is replayed once when the
observer is attached.

Each record carries a *ticket*, its place in the order of notification. What a bridge does falls
into two phases, which may interleave with those of other calls: the first looks at the state and
may give a *delivery*, the second carries the delivery out, unless a record with the same or a later
ticket has been delivered.

## Main definitions

* `Consent.Observer.Ticket`, `Consent.Observer.Delivery`.
* `Consent.Observer.Bridge` — the state of a bridge.
* `Consent.Observer.Bridge.attachPhase`, `Consent.Observer.Bridge.notifyPhase` — first phases.
* `Consent.Observer.Bridge.deliver` — the second phase.
* `Consent.Observer.Bridge.attach`, `Consent.Observer.Bridge.notifyAt` — both phases at once.
-/

namespace Consent.Observer

/-- A place in the order of notification. -/
structure Ticket where
  /-- Tickets are numbered from 1, without a bound; see `Bridge`. -/
  number : Nat
deriving DecidableEq, Repr

/-- How a ticket shows. -/
def Ticket.text (t : Ticket) : String := "Ticket(" ++ toString t.number ++ ")"

/-- A record on its way to an observer. -/
structure Delivery where
  /-- The observer. -/
  handle : Handle
  /-- The record's place in the order of notification. -/
  ticket : Ticket
  /-- The record. -/
  record : Record
deriving DecidableEq, Repr

/-- The state of a bridge. Its three counts and the tickets are natural numbers where a bridge
counts with 64 bits, which is the same for the first `2 ^ 64 - 1` records. -/
structure Bridge where
  /-- The attached observer. -/
  observer : Option Handle
  /-- The record held for replay. -/
  pending : Option (Ticket × Record)
  /-- The number of the last ticket given out. -/
  issued : Nat
  /-- How many records came in. -/
  notified : Nat
  /-- How many calls the observer got. -/
  delivered : Nat
  /-- The ticket of the last delivery. -/
  lastDelivered : Option Ticket
  /-- Whether there is a watch of a slot to arm the bridge with. -/
  hasWatch : Bool
deriving DecidableEq, Repr

namespace Bridge

/-- A bridge with no slot to watch. -/
def detached : Bridge := ⟨none, none, 0, 0, 0, none, false⟩

/-- A bridge that can be armed to watch a slot. -/
def watching : Bridge := { detached with hasWatch := true }

/-- Whether an observer is attached. -/
def isAttached (b : Bridge) : Bool := b.observer.isSome

/-- The record held for replay. -/
def pendingRecord (b : Bridge) : Option Record := b.pending.map (·.2)

/-- Gives out the next ticket. -/
def takeTicket (b : Bridge) : Bridge × Ticket :=
  ({ b with issued := b.issued + 1 }, ⟨b.issued + 1⟩)

/-- Takes the watch, if it is still there. -/
def takeWatch (b : Bridge) : Bridge × Bool := ({ b with hasWatch := false }, b.hasWatch)

/-- Attaches an observer, unless one is attached. The held record is taken for delivery. -/
def attachPhase (b : Bridge) (h : Handle) : Bridge × Option Delivery :=
  if b.observer.isSome then (b, none)
  else ({ b with observer := some h, pending := none }, b.pending.map fun (t, r) => ⟨h, t, r⟩)

/-- Whether a record with a ticket is to be held in place of the one that is held. -/
def supersedesPending (b : Bridge) (t : Ticket) : Bool :=
  b.pending.all fun held => held.1.number < t.number

/-- Takes a record in: it is to be delivered if an observer is attached, and else held unless a
later one is held already. -/
def notifyPhase (b : Bridge) (t : Ticket) (r : Record) : Bridge × Option Delivery :=
  let b := { b with notified := b.notified + 1 }
  match b.observer with
  | some h => (b, some ⟨h, t, r⟩)
  | none => (if b.supersedesPending t then { b with pending := some (t, r) } else b, none)

/-- Whether a record with this ticket or a later one has been delivered. -/
def isStale (b : Bridge) (t : Ticket) : Bool :=
  b.lastDelivered.any fun last => t.number ≤ last.number

/-- Carries a delivery out: the observer is told, if it is still alive and nothing as late has been
delivered. Gives what it is told. -/
def deliver (alive : Handle → Bool) (b : Bridge) (d : Delivery) :
    Bridge × Option (Handle × Verdict) :=
  if b.isStale d.ticket then (b, none)
  else
    let b := { b with lastDelivered := some d.ticket }
    if alive d.handle then
      ({ b with delivered := b.delivered + 1 }, some (d.handle, d.record.verdict))
    else (b, none)

/-- Carries out the delivery that a first phase gave, if any. -/
def finish (alive : Handle → Bool) : Bridge × Option Delivery → Bridge × Option (Handle × Verdict)
  | (b, none) => (b, none)
  | (b, some d) => b.deliver alive d

/-- Attaches an observer and replays the held record. -/
def attach (alive : Handle → Bool) (b : Bridge) (h : Handle) : Bridge × Option (Handle × Verdict) :=
  finish alive (b.attachPhase h)

/-- Forwards a record whose ticket was taken earlier. -/
def notifyAt (alive : Handle → Bool) (b : Bridge) (t : Ticket) (r : Record) :
    Bridge × Option (Handle × Verdict) :=
  finish alive (b.notifyPhase t r)

/-- Forwards a record. -/
def notify (alive : Handle → Bool) (b : Bridge) (r : Record) : Bridge × Option (Handle × Verdict) :=
  let (b, t) := b.takeTicket
  b.notifyAt alive t r

end Bridge

end Consent.Observer
