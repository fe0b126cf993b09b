import Consent.Config
import Consent.Text.Quoted
import Consent.Url.Parse

set_option autoImplicit false

/-!
# Checking a configuration

A configuration can be used when its address can be parsed and paths can be resolved against it, its
endpoint starts with a slash, and a request may take some time.

## Main definitions

* `Consent.ConfigError` — what may be wrong with a configuration.
* `Consent.Config.check` — the first thing that is wrong.
-/

namespace Consent

/-- What is wrong with a configuration. -/
inductive ConfigError where
  | invalidBaseUrl (url reason : String)
  | invalidEndpoint (endpoint : String)
  | zeroTimeout
deriving DecidableEq, Repr

/-- The wording of an error. -/
def ConfigError.message : ConfigError → String
  | invalidBaseUrl url reason => "invalid base url " ++ Text.quoted url ++ ": " ++ reason
  | invalidEndpoint endpoint => "endpoint must be an absolute path, got " ++ Text.quoted endpoint
  | zeroTimeout => "timeout must be at least one second"

/-- Whether a configuration can be used, or the first thing that is wrong with it. -/
def Config.check (config : Config) : Except ConfigError Unit :=
  match Url.parse config.server.baseUrl with
  | .error fault => .error (.invalidBaseUrl config.server.baseUrl fault.message)
  | .ok url =>
    if !url.hasHierarchy then .error (.invalidBaseUrl config.server.baseUrl "cannot be a base")
    else if config.server.endpoint.toList.head? ≠ some '/' then
      .error (.invalidEndpoint config.server.endpoint)
    else if config.server.timeoutSecs = 0 then .error .zeroTimeout
    else .ok ()

end Consent
