import Consent.Text.Blank
import Consent.Text.Utf8
import Consent.Toml.Item

set_option autoImplicit false

/-!
# Configuration

Where the consent server is, how to talk to it, and whether the host is told what came of it. The
effective configuration is built in layers: defaults, a file, an environment variable, and options.

## Main definitions

* `Consent.Config` — the configuration.
* `Consent.Config.ofEntries?` — the configuration that the keys of a file describe.
* `Consent.Config.withEnvironment` — the configuration with the address from the environment.
-/

namespace Consent

/-- The server and how to talk to it. -/
structure ServerConfig where
  /-- The address that paths are resolved against. -/
  baseUrl : String
  /-- The path of the consent resource. -/
  endpoint : String
  /-- How long a request may take, in seconds. -/
  timeoutSecs : Nat
  /-- How the client names itself. -/
  userAgent : String
deriving DecidableEq, Repr

/-- The configuration of the client. -/
structure Config where
  /-- The server and how to talk to it. -/
  server : ServerConfig
  /-- Whether a host observer is told of outcomes. -/
  observerEnabled : Bool
deriving DecidableEq, Repr

/-- The server when nothing else is said. -/
def ServerConfig.default : ServerConfig :=
  ⟨"https://localhost:8443", "/gdpr/accept", 30, "consentsync/0.1.0"⟩

namespace Config

open Toml

/-- The configuration when nothing else is said. -/
def default : Config := ⟨.default, true⟩

/-- A text, or the one that holds when the key is missing. -/
def text? (missing : String) : Option Item → Option String
  | none => some missing
  | some (.text s) => some s
  | some _ => none

/-- A count, or the one that holds when the key is missing. -/
def count? (missing : Nat) : Option Item → Option Nat
  | none => some missing
  | some (.integer n) => if 0 ≤ n then some n.toNat else none
  | some _ => none

/-- A flag, or the one that holds when the key is missing. -/
def flag? (missing : Bool) : Option Item → Option Bool
  | none => some missing
  | some (.flag b) => some b
  | some _ => none

/-- How the members of a group of settings are found: by their names in a table, or by their places
in a list. A date has no such members. -/
def member? (item : Option Item) : Option (String → Nat → Option Item) :=
  match item with
  | none | some .dateTime => some fun _ _ => none
  | some (.table _ entries) => some fun name _ => Entries.find? entries name
  | some (.list elements) => some fun _ place => elements[place]?
  | some _ => none

/-- The settings of the server. -/
def server? (item : Option Item) : Option ServerConfig := do
  let member ← member? item
  let baseUrl ← text? ServerConfig.default.baseUrl (member "base_url" 0)
  let endpoint ← text? ServerConfig.default.endpoint (member "endpoint" 1)
  let timeoutSecs ← count? ServerConfig.default.timeoutSecs (member "timeout_secs" 2)
  let userAgent ← text? ServerConfig.default.userAgent (member "user_agent" 3)
  return ⟨baseUrl, endpoint, timeoutSecs, userAgent⟩

/-- The settings of the observer. -/
def observer? (item : Option Item) : Option Bool := do
  let member ← member? item
  flag? default.observerEnabled (member "enabled" 0)

/-- The configuration that the keys of a file describe, unless one of them has the wrong type. Keys
that are not known do not matter. -/
def ofEntries? (entries : Entries) : Option Config := do
  let server ← server? (entries.find? "server")
  let observerEnabled ← observer? (entries.find? "observer")
  return ⟨server, observerEnabled⟩

/-- The configuration with the address from the environment, unless that is blank or not text. -/
def withEnvironment (value : Option Bytes) (config : Config) : Config :=
  match value.bind Utf8.decode? with
  | none => config
  | some cs =>
    if (Text.trim cs).isEmpty then config
    else { config with server.baseUrl := String.ofList (Text.trim cs) }

end Config

end Consent
