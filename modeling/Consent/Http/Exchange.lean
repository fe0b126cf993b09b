import Consent.SyncError
import Consent.Url.Parse

set_option autoImplicit false

/-!
# Exchanges over HTTP

A message is sent, and an answer comes back or does not. An answer with a status that means that the
resource is elsewhere is followed, up to a limit, as long as it says where.

## Main definitions

* `Consent.Http.Message`, `Consent.Http.Answer` — what is sent and what comes back.
* `Consent.Http.Network` — what answers messages.
* `Consent.Http.redirect?` — the message that follows a redirecting answer.
* `Consent.Http.exchange` — a message and all that follow it, up to the last answer.

## Main results

* `Consent.Http.exchange_of_not_redirect` — an answer that does not redirect ends the exchange.
-/

namespace Consent.Http

/-- What is sent to a server. -/
structure Message where
  method : Method
  url : Url
  /-- The type of the body. -/
  contentType : Option String
  /-- How the client names itself. -/
  userAgent : Option String
  body : Option Bytes
deriving DecidableEq, Repr

/-- What comes back. -/
inductive Answer where
  /-- A response: its status, the address that it leads to, and its body. -/
  | response (status : Nat) (location : Option Bytes) (body : Bytes)
  /-- No response, or one that breaks off. -/
  | failure (kind : TransportFailure) (detail : String)
deriving DecidableEq, Repr

/-- What answers messages: it may depend on all messages that were sent before. -/
abbrev Network := List Message → Message → Answer

/-- A network without any server. -/
def Network.unreachable (detail : String) : Network := fun _ _ => .failure .connect detail

/-- Whether messages can be sent to addresses with a scheme. -/
def isWeb (scheme : String) : Bool := scheme = "http" || scheme = "https"

/-- The longest address that a message can be sent to. -/
def longestAddress : Nat := 65534

/-- Whether a message can name an address in its head. -/
def isNameable (url : Url) : Bool :=
  url.text.length ≤ longestAddress &&
    match url.authority with
    | some ⟨_, _, .name s, _⟩ => !s.toList.any fun c => ['"', '`', '\x7b', '\x7d'].contains c
    | _ => true

/-- Whether a status means that the resource is elsewhere and is to be fetched there. -/
def isFetchRedirect (status : Nat) : Bool := status = 301 || status = 302 || status = 303

/-- Whether a status means that the same message is to be sent elsewhere. -/
def isSameRedirect (status : Nat) : Bool := status = 307 || status = 308

/-- The address that a response leads to, if it can be read. -/
def target? (base : Url) (location : Option Bytes) : Option Url := do
  let text ← Utf8.string? (← location)
  let url ← (base.join text).toOption
  if isNameable url then some url else none

/-- The message that follows a response, if that leads elsewhere. -/
def redirect? (m : Message) (status : Nat) (location : Option Bytes) : Option Message :=
  if isFetchRedirect status then
    (target? m.url location).map fun url =>
      { m with method := .get, url := url, contentType := none, body := none }
  else if isSameRedirect status then
    (target? m.url location).map fun url => { m with url := url }
  else none

/-- How many answers are followed: at most ten addresses are tried, and the first one counts. -/
def redirectLimit : Nat := 9

/-- A message, and those that follow it: what comes of the last one, and all messages sent. -/
def exchange (network : Network) : Nat → List Message → Message →
    Except SyncError Response × List Message
  | limit, sent, m =>
    let after := sent ++ [m]
    match network sent m with
    | .failure kind detail => (.error (.transport kind detail), after)
    | .response status location body =>
      match redirect? m status location with
      | none => (.ok ⟨status, body⟩, after)
      | some next =>
        match limit with
        | 0 => (.error (.transport .other "error following redirect: too many redirects"), after)
        | limit + 1 =>
          if isWeb next.url.scheme then exchange network limit after next
          else (.error (.transport .other "builder error: URL scheme is not allowed"), after)

/-- An answer that does not lead elsewhere ends the exchange after one message. -/
theorem exchange_of_not_redirect {network : Network} {limit : Nat} {sent : List Message}
    {m : Message} {status : Nat} {location : Option Bytes} {body : Bytes}
    (answer : network sent m = .response status location body)
    (final : redirect? m status location = none) :
    exchange network limit sent m = (.ok ⟨status, body⟩, sent ++ [m]) := by
  rw [exchange]
  simp [answer, final]

end Consent.Http
