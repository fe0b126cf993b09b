import Consent.Console

set_option autoImplicit false

/-!
# Surfaces

A surface is what a client shows each of its states on, in the order of the transitions.

## Main definitions

* `Consent.Surface` — the kinds of surfaces.
* `Consent.Surface.render` — shows a state.
-/

namespace Consent

/-- What a client shows its states on. -/
inductive Surface where
  /-- Shows each state in one line. -/
  | lines
  /-- Shows the name of each state. -/
  | labels
  /-- A console. -/
  | console (c : Console)
  /-- Shows nothing. -/
  | blank
deriving DecidableEq, Repr

/-- Shows a state: the surface after it, and the text shown, if any. -/
def Surface.render : Surface → LoadState → Surface × Option String
  | lines, state => (lines, some state.text)
  | labels, state => (labels, some state.label)
  | console c, state =>
    let (c, text) := c.render state
    (console c, some text)
  | blank, _ => (blank, none)

end Consent
