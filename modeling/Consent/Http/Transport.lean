import Consent.Config
import Consent.Http.Exchange

set_option autoImplicit false

/-!
# The HTTP transport

Carries requests to a server over HTTP. The path of a request is resolved against the address of the
server; every response is returned as it is, whatever its status.

## Main definitions

* `Consent.HttpTransport` — the transport.
* `Consent.HttpTransport.ofConfig` — the transport for a configured server.
* `Consent.HttpTransport.urlFor` — the address of a path.
* `Consent.HttpTransport.send` — sends a request.
-/

namespace Consent

/-- Carries requests over HTTP. -/
structure HttpTransport where
  /-- How the client names itself, if it does. -/
  userAgent : Option String
  /-- The address that paths are resolved against. -/
  baseUrl : Url
deriving DecidableEq, Repr

/-- Why there is no transport. -/
inductive HttpTransport.Error where
  | invalidBaseUrl (fault : Url.Fault)
  /-- The client's name cannot stand in a message. -/
  | invalidUserAgent
deriving DecidableEq, Repr

namespace HttpTransport

/-- The name of the transport. -/
def name : String := "http"

/-- The causes of an error, the last one the deepest. -/
def Error.causes : Error → List String
  | invalidBaseUrl fault => [fault.message]
  | invalidUserAgent =>
    ["builder error: failed to parse header value", "failed to parse header value"]

/-- The wording of an error. -/
def Error.message : Error → String
  | invalidBaseUrl fault => "invalid base url: " ++ fault.message
  | invalidUserAgent =>
    "failed to build http client: builder error: failed to parse header value"

/-- Whether an octet may stand in the head of a message. -/
def isHeaderOctet (b : UInt8) : Bool := b = 0x09 || (0x20 ≤ b && b ≠ 0x7f)

/-- The transport for an address. -/
def new (userAgent : Option String) (baseUrl : String) : Except Error HttpTransport :=
  if !(userAgent.all fun s => (Utf8.ofString s).all isHeaderOctet) then .error .invalidUserAgent
  else
    match Url.parse baseUrl with
    | .error fault => .error (.invalidBaseUrl fault)
    | .ok url => .ok ⟨userAgent, url⟩

/-- The transport for a configured server. -/
def ofConfig (config : ServerConfig) : Except Error HttpTransport :=
  new (some config.userAgent) config.baseUrl

/-- The address of a path. -/
def urlFor (t : HttpTransport) (path : String) : Except SyncError Url :=
  match t.baseUrl.join path with
  | .ok url => .ok url
  | .error fault => .error (.transport .other ("bad path " ++ path ++ ": " ++ fault.message))

/-- The message of a request to an address. -/
def message (t : HttpTransport) (url : Url) (request : Request) : Http.Message :=
  ⟨request.method, url, request.contentType, t.userAgent, request.body⟩

/-- Sends a request over a network that has carried some messages: what comes of it, and all
messages. -/
def send (t : HttpTransport) (network : Http.Network) (sent : List Http.Message)
    (request : Request) : Except SyncError Response × List Http.Message :=
  match t.urlFor request.path with
  | .error e => (.error e, sent)
  | .ok url =>
    if Http.isWeb url.scheme && Http.isNameable url then
      Http.exchange network Http.redirectLimit sent (t.message url request)
    else (.error (.transport .other ("builder error for url (" ++ url.text ++ ")")), sent)

end HttpTransport

end Consent
