import Consent.Config.Check
import Consent.Config.File

set_option autoImplicit false

/-!
# The effective configuration

Options win over the environment, the environment over the file, and the file over the defaults.

## Main definitions

* `Consent.Config.Overrides` — what options change.
* `Consent.Config.layered` — the configuration that the layers make.
* `Consent.Config.effective` — the same, if it can be used.
-/

namespace Consent.Config

/-- What options change. -/
structure Overrides where
  /-- Another address. -/
  baseUrl : Option String
  /-- Another endpoint. -/
  endpoint : Option String
  /-- Whether the host is told nothing. -/
  noObserver : Bool
deriving DecidableEq, Repr

/-- The configuration with what options change. -/
def withOverrides (o : Overrides) (config : Config) : Config where
  server :=
    { config.server with
      baseUrl := o.baseUrl.getD config.server.baseUrl
      endpoint := o.endpoint.getD config.server.endpoint }
  observerEnabled := config.observerEnabled && !o.noObserver

/-- The configuration that a file, the environment and options make. -/
def layered (file : Option Bytes) (environment : Option Bytes) (o : Overrides) : Config :=
  ((ofFile file).withEnvironment environment).withOverrides o

/-- The configuration that a file, the environment and options make, if it can be used. -/
def effective (file : Option Bytes) (environment : Option Bytes) (o : Overrides) :
    Except ConfigError Config :=
  let config := layered file environment o
  config.check.map fun () => config

end Consent.Config
