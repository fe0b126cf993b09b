import Consent.Observer.Bridge
import Consent.Table

set_option autoImplicit false

/-!
# The host

The host owns observers, holds handles of one slot and drives a bridge. All that it holds has names.
A task that watches the slot for the bridge only moves when the host lets tasks run.

Each step of the host leads to at most one call of an observer.

## Main definitions

* `Consent.Observer.Reaction`, `Consent.Observer.Owned` — the observers that the host owns.
* `Consent.Observer.Host` — the state of a host.
* `Consent.Observer.HostStep`, `Consent.Observer.Outcome` — what a host does, and what comes of it.
* `Consent.Observer.Host.step` — one step.
-/

namespace Consent.Observer

/-- What an observer does inside a call. -/
inductive Reaction where
  /-- It only takes note. -/
  | nothing
  /-- It looks at the client's state. -/
  | state
  /-- It has the client load the record. -/
  | load
deriving DecidableEq, Repr

/-- An observer that the host owns. -/
structure Owned where
  /-- The observer's number; no two observers share one. -/
  number : Nat
  /-- What it does inside a call. -/
  reaction : Reaction
deriving DecidableEq, Repr

/-- A call of an observer. -/
structure Call where
  /-- The reference that the call went over. -/
  handle : Handle
  /-- The observer's name. -/
  observer : String
  /-- What the observer does inside the call. -/
  reaction : Reaction
  /-- What the observer is told. -/
  verdict : Verdict
deriving DecidableEq, Repr

/-- A task that watches the slot for the bridge. -/
structure WatchTask where
  /-- Whether the host armed the bridge itself and keeps track of the task. -/
  tracked : Bool
  /-- Whether it has finished. -/
  finished : Bool
deriving DecidableEq, Repr

/-- The state of a host. -/
structure Host where
  /-- The slot. -/
  slot : Slot
  /-- The names of the slot's handles. -/
  slots : Table Unit
  /-- The observers that are alive. -/
  observers : Table Owned
  /-- How many observers there have been. -/
  made : Nat
  /-- Named references to observers. -/
  handles : Table Handle
  /-- Named tickets. -/
  tickets : Table Ticket
  /-- Named watches of the slot. -/
  watches : Table Unit
  /-- The bridge. -/
  bridge : Bridge
  /-- The task that watches the slot, once the bridge is armed. -/
  task : Option WatchTask
deriving DecidableEq, Repr

/-- What a host does. -/
inductive HostStep where
  | makeObserver (name : String) (reaction : Reaction)
  | dropObserver (name : String)
  | cloneSlot (slot name : String)
  | dropSlot (slot : String)
  | bind (slot observer : String)
  | isBound (slot : String)
  | current (slot : String)
  | subscribe (slot name : String)
  | pollWatch (name : String)
  | makeHandle (name observer : String)
  | attachHandle (handle : String)
  | attachObserver (observer : String)
  | arm
  | run
  | takeTicket (name : String)
  | compare (name other : String)
  | notify (record : Record)
  | notifyAt (ticket : String) (record : Record)
deriving DecidableEq, Repr

/-- What comes of a step. -/
inductive Outcome where
  | nothing
  /-- The step needs something that does not exist. -/
  | unknown
  | flag (b : Bool)
  | bound
  | refused (e : Slot.Error)
  /-- A handle, and whether its observer is alive. -/
  | handle (alive : Bool)
  | waiting
  | closed
  | armed
  | ticket (t : Ticket)
  | order (o : Ordering)
deriving DecidableEq, Repr

namespace Host

/-- The name under which the slot is held at first. -/
def mainSlot : String := "main"

/-- A host with one handle of an unbound slot, no observers, and a bridge. -/
def fresh (bridge : Bridge) : Host where
  slot := .fresh
  slots := [(mainSlot, ())]
  observers := []
  made := 0
  handles := []
  tickets := []
  watches := []
  bridge := bridge
  task := none

/-- The observer that a handle leads to, with its name. -/
def upgrade? (host : Host) (h : Handle) : Option (String × Owned) :=
  List.find? (fun entry => entry.2.number = h.observer) host.observers

/-- Whether the observer of a handle is alive. -/
def isAlive (host : Host) (h : Handle) : Bool := (host.upgrade? h).isSome

/-- The host with a bridge that has moved on, and the call that came of it. -/
def moved (host : Host) (b : Bridge × Option (Handle × Verdict)) : Host × Option Call :=
  ({ host with bridge := b.1 },
    b.2.bind fun (h, verdict) =>
      (host.upgrade? h).map fun (name, owned) => ⟨h, name, owned.reaction, verdict⟩)

/-- Attaches an observer to the bridge. -/
def attach (host : Host) (h : Handle) : Host × Option Call :=
  host.moved (host.bridge.attach host.isAlive h)

/-- Forwards a record through the bridge. -/
def notifyAt (host : Host) (t : Ticket) (r : Record) : Host × Option Call :=
  host.moved (host.bridge.notifyAt host.isAlive t r)

/-- Arms the bridge: a task starts to watch the slot, if a watch is there. -/
def arm (host : Host) (tracked : Bool) : Host × Bool :=
  let (b, armed) := host.bridge.takeWatch
  ({ host with
      bridge := b
      task := if armed then some ⟨tracked, false⟩ else host.task }, armed)

/-- Lets the task run: it attaches the observer that the slot is bound to, or gives up when the slot
can no longer be bound. -/
def run (host : Host) : Host × Option Call :=
  match host.task with
  | none => (host, none)
  | some task =>
    if task.finished then (host, none)
    else
      match host.slot.resolution with
      | .waiting => (host, none)
      | .closed => ({ host with task := some { task with finished := true } }, none)
      | .resolved h => { host with task := some { task with finished := true } }.attach h

/-- Whether the tasks that the host keeps track of have finished. -/
def tasksDone (host : Host) : List Bool :=
  (host.task.filter (·.tracked)).toList.map (·.finished)

/-- A reference to a named observer. -/
def handleTo? (host : Host) (observer : String) : Option Handle :=
  (host.observers.find? observer).map fun owned => ⟨owned.number⟩

/-- A step without a call. -/
def quiet (host : Host) (outcome : Outcome) : Host × Outcome × Option Call := (host, outcome, none)

/-- One step of the host: the host after it, what comes of it, and the call that it leads to. -/
def step (host : Host) : HostStep → Host × Outcome × Option Call
  | .makeObserver name reaction =>
    { host with
      observers := host.observers.put name ⟨host.made, reaction⟩
      made := host.made + 1 }.quiet .nothing
  | .dropObserver name =>
    { host with observers := host.observers.erase name }.quiet (.flag (host.observers.has name))
  | .cloneSlot slot name =>
    if host.slots.has slot then
      let held := host.slot.hold
      { host with
        slot := if host.slots.has name then held.release else held
        slots := host.slots.put name () }.quiet .nothing
    else host.quiet .unknown
  | .dropSlot slot =>
    if host.slots.has slot then
      { host with
        slot := host.slot.release
        slots := host.slots.erase slot }.quiet (.flag true)
    else host.quiet (.flag false)
  | .bind slot observer =>
    match host.slots.find? slot, host.handleTo? observer with
    | some (), some h =>
      match host.slot.bind h with
      | .ok slot => { host with slot := slot }.quiet .bound
      | .error e => host.quiet (.refused e)
    | _, _ => host.quiet .unknown
  | .isBound slot =>
    host.quiet (if host.slots.has slot then .flag host.slot.bound.isSome else .unknown)
  | .current slot =>
    host.quiet <|
      if host.slots.has slot then
        match host.slot.bound with
        | none => .nothing
        | some h => .handle (host.isAlive h)
      else .unknown
  | .subscribe slot name =>
    if host.slots.has slot then
      { host with watches := host.watches.put name () }.quiet .nothing
    else host.quiet .unknown
  | .pollWatch name =>
    host.quiet <|
      if host.watches.has name then
        match host.slot.resolution with
        | .waiting => .waiting
        | .resolved h => .handle (host.isAlive h)
        | .closed => .closed
      else .unknown
  | .makeHandle name observer =>
    match host.handleTo? observer with
    | some h => { host with handles := host.handles.put name h }.quiet .nothing
    | none => host.quiet .unknown
  | .attachHandle handle =>
    match host.handles.find? handle with
    | some h =>
      let (host, call) := host.attach h
      (host, .nothing, call)
    | none => host.quiet .unknown
  | .attachObserver observer =>
    match host.handleTo? observer with
    | some h =>
      let (host, call) := host.attach h
      (host, .nothing, call)
    | none => host.quiet .unknown
  | .arm =>
    let (host, armed) := host.arm true
    host.quiet (if armed then .armed else .nothing)
  | .run =>
    let (host, call) := host.run
    (host, .nothing, call)
  | .takeTicket name =>
    let (b, t) := host.bridge.takeTicket
    { host with
      bridge := b
      tickets := host.tickets.put name t }.quiet (.ticket t)
  | .compare name other =>
    host.quiet <|
      match host.tickets.find? name, host.tickets.find? other with
      | some t, some u => .order (Ord.compare t.number u.number)
      | _, _ => .unknown
  | .notify record =>
    let (b, t) := host.bridge.takeTicket
    let (host, call) := { host with bridge := b }.notifyAt t record
    (host, .nothing, call)
  | .notifyAt ticket record =>
    match host.tickets.find? ticket with
    | some t =>
      let (host, call) := host.notifyAt t record
      (host, .nothing, call)
    | none => host.quiet .unknown

end Host

end Consent.Observer
