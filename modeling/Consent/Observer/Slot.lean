set_option autoImplicit false

/-!
# The slot that a host binds its observer to

A host may bind its observer at any time, or never. A slot is a cell that is resolved once: the
first binding counts, and later ones are refused. A watch of the slot resolves to the binding, or
to nothing once every handle of the slot is gone without one.

## Main definitions

* `Consent.Observer.Handle` — a reference to an observer that does not keep it alive.
* `Consent.Observer.Slot` — the cell, with its number of handles.
* `Consent.Observer.Slot.bind` — binds an observer.
* `Consent.Observer.Slot.resolution` — what a watch of the slot finds.
-/

namespace Consent.Observer

/-- A reference to an observer by its number. The host owns the observer: once it drops it, the
reference leads nowhere. -/
structure Handle where
  /-- The number of the observer. -/
  observer : Nat
deriving DecidableEq, Repr

/-- How a handle shows, given whether its observer is still there. -/
def Handle.text (alive : Bool) : String :=
  "ObserverHandle \x7b alive: " ++ (if alive then "true" else "false") ++ " \x7d"

/-- The cell that a host binds its observer to. -/
structure Slot where
  /-- The binding that counts. -/
  bound : Option Handle
  /-- How many handles of the slot there are. -/
  holders : Nat
deriving DecidableEq, Repr

namespace Slot

/-- Why a binding is refused. -/
inductive Error where
  | alreadyBound
deriving DecidableEq, Repr

/-- The words for an error. -/
def Error.message : Error → String
  | alreadyBound => "observer slot already bound"

/-- An unbound slot with one handle. -/
def fresh : Slot := ⟨none, 1⟩

/-- Binds an observer, unless one is bound. -/
def bind (s : Slot) (h : Handle) : Except Error Slot :=
  if s.bound.isSome then .error .alreadyBound else .ok { s with bound := some h }

/-- The slot with one more handle. -/
def hold (s : Slot) : Slot := { s with holders := s.holders + 1 }

/-- The slot with one handle less. -/
def release (s : Slot) : Slot := { s with holders := s.holders - 1 }

/-- What a watch finds. -/
inductive Resolution where
  /-- Nothing is bound yet. -/
  | waiting
  /-- The binding. -/
  | resolved (h : Handle)
  /-- Nothing is bound, and no handle is left to bind with. -/
  | closed
deriving DecidableEq, Repr

/-- What a watch of the slot finds. A binding is found even after all handles are gone. -/
def resolution (s : Slot) : Resolution :=
  match s.bound with
  | some h => .resolved h
  | none => if s.holders = 0 then .closed else .waiting

/-- A bound slot refuses every binding. -/
theorem bind_of_bound {s : Slot} (h : s.bound.isSome = true) (k : Handle) :
    s.bind k = .error .alreadyBound := by
  simp [bind, h]

/-- An unbound slot takes a binding. -/
theorem bind_of_unbound {s : Slot} (h : s.bound = none) (k : Handle) :
    s.bind k = .ok { s with bound := some k } := by
  simp [bind, h]

end Slot

end Consent.Observer
