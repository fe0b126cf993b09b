import Consent.Url.Host
import Consent.Url.Path

set_option autoImplicit false

/-!
# Addresses

## Main definitions

* `Consent.Url.Authority` — the host of an address, with its port and the name of a user.
* `Consent.Url` — an address.
* `Consent.Url.text` — an address in writing.
* `Consent.Url.hasHierarchy` — whether other addresses can be relative to it.
-/

namespace Consent

namespace Url

/-- The host of an address, with its port and the name of a user. -/
structure Authority where
  /-- The name of a user, encoded; often empty. -/
  user : String
  /-- A password, encoded. -/
  password : Option String
  /-- The host; often empty where the scheme is not special. -/
  host : Host
  /-- The port, unless it is the one that goes without saying. -/
  port : Option Nat
deriving DecidableEq, Repr

/-- The port that goes without saying. -/
def defaultPort? (scheme : String) : Option Nat :=
  if scheme = "http" || scheme = "ws" then some 80
  else if scheme = "https" || scheme = "wss" then some 443
  else if scheme = "ftp" then some 21
  else none

/-- Whether addresses with a scheme always have a host and a path; so do those of files, which have
an empty host. -/
def isSpecial (scheme : String) : Bool := (defaultPort? scheme).isSome || scheme = "file"

end Url

/-- An address. -/
structure Url where
  /-- In lower case. -/
  scheme : String
  /-- What stands behind two slashes. -/
  authority : Option Url.Authority
  path : Url.Path
  /-- What stands behind a question mark, encoded. -/
  query : Option String
  /-- What stands behind a number sign, encoded. -/
  fragment : Option String
deriving DecidableEq, Repr

namespace Url

/-- A user and a password in writing. -/
def Authority.userText (a : Authority) : List Char :=
  match a.password with
  | none => if a.user.isEmpty then [] else a.user.toList ++ ['@']
  | some password => a.user.toList ++ ':' :: password.toList ++ ['@']

/-- An authority in writing. -/
def Authority.text (a : Authority) : List Char :=
  ['/', '/'] ++ a.userText ++ a.host.text ++
    match a.port with
    | none => []
    | some port => ':' :: Decimal.digits port

/-- What keeps a path from being read as an authority. -/
def pathMark (url : Url) : List Char :=
  match url.authority, url.path with
  | none, .segments ("" :: _ :: _) => ['/', '.']
  | _, _ => []

/-- A part of an address in writing, behind its mark, if it is there. -/
def partText (mark : Char) : Option String → List Char
  | none => []
  | some part => mark :: part.toList

/-- An address in writing. -/
def text (url : Url) : String :=
  String.ofList (url.scheme.toList ++ [':'] ++
    (match url.authority with
      | none => []
      | some a => a.text) ++
    url.pathMark ++ url.path.text ++ partText '?' url.query ++ partText '#' url.fragment)

/-- Whether other addresses can be relative to an address. -/
def hasHierarchy (url : Url) : Bool :=
  match url.path with
  | .opaqueText _ => false
  | .segments _ => true

end Url

end Consent
