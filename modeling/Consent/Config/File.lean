import Consent.Config
import Consent.Decimal.Numeral
import Consent.Toml.Document
import Consent.Toml.Quoting

set_option autoImplicit false

/-!
# Configuration files

A file says all or nothing: a file that is missing, is not text, does not read, or gives a known key
a value of the wrong type leaves the defaults as they are.

## Main definitions

* `Consent.Config.ofFile` — the configuration that a file describes.
* `Consent.Config.file` — the file that describes a configuration.
-/

namespace Consent.Config

/-- The configuration that the octets of a file describe, if they do. -/
def ofBytes? (bytes : Bytes) : Option Config := do
  let cs ← Utf8.decode? bytes
  let entries ← Toml.parse cs
  ofEntries? entries

/-- The configuration that a file describes. -/
def ofFile (bytes : Option Bytes) : Config := (bytes.bind ofBytes?).getD default

/-- A line with a key and its value. -/
def setting (key : String) (value : List Char) : List Char :=
  key.toList ++ [' ', '=', ' '] ++ value ++ ['\n']

/-- A line with a header. -/
def header (key : String) : List Char := '[' :: key.toList ++ [']', '\n']

/-- The file that describes a configuration. -/
def write (config : Config) : List Char :=
  header "server" ++
    setting "base_url" (Toml.writeText config.server.baseUrl.toList) ++
    setting "endpoint" (Toml.writeText config.server.endpoint.toList) ++
    setting "timeout_secs" (Decimal.digits config.server.timeoutSecs) ++
    setting "user_agent" (Toml.writeText config.server.userAgent.toList) ++
    ['\n'] ++ header "observer" ++
    setting "enabled" (toString config.observerEnabled).toList

/-- The greatest number that a file can hold. -/
def greatestInteger : Nat := Nat.pow 2 63 - 1

/-- The text of the file that describes a configuration; empty when the file cannot hold the
timeout. -/
def file (config : Config) : String :=
  if config.server.timeoutSecs ≤ greatestInteger then String.ofList config.write else ""

end Consent.Config
