import Consent.LoadState

set_option autoImplicit false

/-!
# The console

How states and verdicts look on a terminal. A console remembers the record of the last ready state,
and shows it below a failure.

## Main definitions

* `Consent.Record.lines` — a record in four lines.
* `Consent.LoadState.lines` — a state, with the record to show below a failure.
* `Consent.Console`, `Consent.Console.render` — a console and what it writes.
* `Consent.Verdict.line` — a verdict in one line.
* `Consent.Sink` — where text is written, as long as writing works.
* `Consent.Terminal`, `Consent.Terminal.step` — a console and an observer on one sink.
-/

namespace Consent

/-- How an answer is shown. -/
def answerText (accepted : Bool) : String := if accepted then "accepted" else "not accepted"

/-- A record in four lines. -/
def Record.lines (r : Record) : String :=
  "  user:           " ++ (if r.userUrn = "" then "-" else r.userUrn) ++ "\n" ++
  "  main terms:     " ++ answerText r.acceptMain ++ "\n" ++
  "  user data:      " ++ answerText r.acceptUserdata ++ "\n" ++
  (if r.testbedAccess then "  testbed access: allowed until " ++ r.validUntil ++ "\n"
    else "  testbed access: denied\n")

/-- A state as it is shown; below a failure the last known record is shown, if there is one. -/
def LoadState.lines (lastKnown : Option Record) : LoadState → String
  | idle => "status: idle\n"
  | loading => "status: loading...\n"
  | ready r => "status: loaded\n" ++ r.lines
  | failed e =>
    "status: ERROR - " ++ e.message ++ "\n" ++
      match lastKnown with
      | none => ""
      | some r => "last known:\n" ++ r.lines

/-- A console: what it remembers. -/
structure Console where
  /-- The record of the last ready state. -/
  lastReady : Option Record
deriving DecidableEq, Repr

namespace Console

/-- A console that has shown nothing. -/
def fresh : Console := ⟨none⟩

/-- The console after a state: a ready state is remembered. -/
def after (c : Console) (state : LoadState) : Console := ⟨state.record?.or c.lastReady⟩

/-- What the console writes for a state. -/
def shown (c : Console) (state : LoadState) : String := state.lines (c.after state).lastReady

/-- Shows a state: the console after it, and what is written. -/
def render (c : Console) (state : LoadState) : Console × String :=
  (c.after state, c.shown state)

end Console

/-- A verdict in one line. -/
def Verdict.line : Verdict → String
  | approve expiry => "observer: approve(" ++ expiry ++ ")\n"
  | decline => "observer: decline()\n"

/-- Where text is written. -/
structure Sink where
  /-- Whether writing works. -/
  works : Bool
  /-- What has been written. -/
  written : String
deriving DecidableEq, Repr

namespace Sink

/-- A sink that works and holds nothing. -/
def fresh : Sink := ⟨true, ""⟩

/-- Writes a text, unless writing fails. -/
def write (s : Sink) (text : String) : Sink :=
  if s.works then { s with written := s.written ++ text } else s

/-- Takes out what has been written. -/
def drain (s : Sink) : Sink × String := ({ s with written := "" }, s.written)

end Sink

/-- A terminal: a console, and an observer that says on the same sink what it is told. -/
structure Terminal where
  /-- The console. -/
  console : Console
  /-- Where both write. -/
  sink : Sink
deriving DecidableEq, Repr

/-- What happens at a terminal. -/
inductive TerminalStep where
  /-- The console shows a state. -/
  | render (state : LoadState)
  /-- The observer is told a verdict. -/
  | tell (verdict : Verdict)
  /-- From here on writing fails. -/
  | fails
  /-- From here on writing works. -/
  | recovers

namespace Terminal

/-- A terminal at which nothing has happened. -/
def fresh : Terminal := ⟨.fresh, .fresh⟩

/-- The terminal after a step. The console remembers a record whether or not it can write. -/
def step (t : Terminal) : TerminalStep → Terminal
  | .render state =>
    let (console, text) := t.console.render state
    ⟨console, t.sink.write text⟩
  | .tell verdict => { t with sink := t.sink.write verdict.line }
  | .fails => { t with sink := { t.sink with works := false } }
  | .recovers => { t with sink := { t.sink with works := true } }

/-- The terminal after some steps. -/
def run (t : Terminal) (steps : List TerminalStep) : Terminal := steps.foldl step t

end Terminal

end Consent
