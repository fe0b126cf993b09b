import Consent.Url.Basic

set_option autoImplicit false

/-!
# Reading addresses

A text is read as an address on its own, or relative to another one. Controls and spaces at its ends
and tabs and line ends anywhere do not count.

What follows the scheme depends on it. Behind a special scheme comes a host, however many slashes
there are, and backslashes are slashes. Behind any other scheme a host comes only behind two
slashes, a hierarchy behind one, and all else has no hierarchy. The addresses of files have rules
of their own.

## Main definitions

* `Consent.Url.parse` — the address that a text denotes on its own.
* `Consent.Url.join` — the address that it denotes relative to another one.
-/

namespace Consent.Url

open Text

/-- The characters of a text that count. -/
def clean (cs : List Char) : List Char :=
  let isMargin (c : Char) : Bool := c.toNat ≤ 0x20
  let trimmed := ((cs.dropWhile isMargin).reverse.dropWhile isMargin).reverse
  trimmed.filter fun c => !(c = '\t' || c = '\n' || c = '\r')

/-- A character of a scheme behind its first one. -/
def isSchemeChar (c : Char) : Bool := c.isAlphanum || c = '+' || c = '-' || c = '.'

/-- The scheme in front of a colon, and what follows. -/
def scheme? : List Char → Option (String × List Char)
  | [] => none
  | c :: rest =>
    if c.isAlpha then
      match rest.dropWhile isSchemeChar with
      | ':' :: behind =>
        some (String.ofList ((c :: rest.takeWhile isSchemeChar).map Char.toLower), behind)
      | _ => none
    else none

/-- Whether a character separates segments; a backslash does so only behind special schemes. -/
def isSlash (special : Bool) (c : Char) : Bool := c = '/' || (special && c = '\\')

/-- Whether a query or a fragment starts. -/
def isPathEnd (c : Char) : Bool := c = '?' || c = '#'

/-- Whether the authority ends. -/
def isAuthorityEnd (special : Bool) (c : Char) : Bool := isSlash special c || isPathEnd c

/-! ### Query and fragment -/

/-- A fragment behind its mark. -/
def fragmentOf (cs : List Char) : String :=
  String.ofList (percentEncode Octets.fragment cs)

/-- A query behind its mark. -/
def queryOf (special : Bool) (cs : List Char) : String :=
  String.ofList (percentEncode (if special then Octets.specialQuery else Octets.query) cs)

/-- The query and the fragment of what follows a path. -/
def tail (special : Bool) : List Char → Option String × Option String
  | '?' :: rest =>
    (some (queryOf special (rest.takeWhile (· ≠ '#'))),
      match rest.dropWhile (· ≠ '#') with
      | [] => none
      | _ :: fragment => some (fragmentOf fragment))
  | '#' :: rest => (none, some (fragmentOf rest))
  | _ => (none, none)

/-- The address with a path, and with the query and the fragment that follow it. -/
def withTail (scheme : String) (authority : Option Authority) (path : Path) (cs : List Char) :
    Url :=
  let (query, fragment) := tail (isSpecial scheme) cs
  ⟨scheme, authority, path, query, fragment⟩

/-! ### Path -/

/-- The segments that a path adds to others, and what follows the path. -/
def segmentsFrom (special : Bool) (names : List String) (cs : List Char) :
    List String × List Char :=
  (Path.append names (splitWhere (isSlash special) (cs.takeWhile fun c => !isPathEnd c)),
    cs.dropWhile fun c => !isPathEnd c)

/-- The path behind an authority. Only behind special schemes there always is one. -/
def pathBehindAuthority (special : Bool) (cs : List Char) : List String × List Char :=
  match cs with
  | [] => if special then ([""], []) else ([], [])
  | c :: rest =>
    if isSlash special c then segmentsFrom special [] rest
    else if !special && isPathEnd c then ([], cs)
    else segmentsFrom special [] cs

/-! ### Authority -/

/-- The text in front of the last at sign of an authority, if there is one, and what follows it. -/
def cutUser (special : Bool) (cs : List Char) : Option (List Char) × List Char :=
  let front := cs.takeWhile fun c => !isAuthorityEnd special c
  if front.contains '@' then
    let host := (front.reverse.takeWhile (· ≠ '@')).reverse
    (some (front.take (front.length - host.length - 1)), cs.drop (front.length - host.length))
  else (none, cs)

/-- The user and the password in front of an at sign. A password that is empty is none. -/
def userOf (cs : List Char) : String × Option String :=
  let encode (part : List Char) : String := String.ofList (percentEncode Octets.userInfo part)
  let user := cs.takeWhile (· ≠ ':')
  let password := (cs.dropWhile (· ≠ ':')).drop 1
  (encode user, if password.isEmpty then none else some (encode password))

/-- The text of a host, which brackets may protect from ending, and what follows it. -/
def cutHost (special inside : Bool) : List Char → List Char × List Char
  | [] => ([], [])
  | c :: rest =>
    if (c = ':' && !inside) || isAuthorityEnd special c then ([], c :: rest)
    else
      let inside := c = '[' || (inside && c ≠ ']')
      let (host, behind) := cutHost special inside rest
      (c :: host, behind)

/-- The number of a port behind its colon, and what follows it. No digits stand for no port. -/
def port (cs : List Char) : Except Fault (Option Nat × List Char) :=
  let ds := cs.takeWhile Char.isDigit
  let behind := cs.dropWhile Char.isDigit
  let fits := match behind with
    | [] => true
    | c :: _ => isAuthorityEnd true c
  if !fits || 65535 < Decimal.value ds then .error .invalidPort
  else .ok (if ds.isEmpty then none else some (Decimal.value ds), behind)

/-- The host and the port of an authority, and what follows them. Only where the scheme is not
special the host may be empty, and then without a port. -/
def hostAndPort (scheme : String) (cs : List Char) :
    Except Fault (Host × Option Nat × List Char) := do
  let special := isSpecial scheme
  let (front, behind) := cutHost special false cs
  if special && front.isEmpty then throw .emptyHost
  let host ← if special then Host.parse front else Host.parseOpaque front
  match behind with
  | ':' :: rest =>
    if host = .empty then throw .emptyHost
    let (number, rest) ← port rest
    return (host, if number = defaultPort? scheme then none else number, rest)
  | _ => return (host, none, behind)

/-- The address behind a scheme and the slashes that follow it. -/
def behindSlashes (scheme : String) (cs : List Char) : Except Fault Url := do
  let special := isSpecial scheme
  let (front, rest) := cutUser special cs
  let nothingBehind := match rest with
    | [] => false
    | c :: _ => isAuthorityEnd special c
  if front = some [] && nothingBehind then throw .emptyHost
  let (user, password) := userOf (front.getD [])
  let (host, number, rest) ← hostAndPort scheme rest
  if host = .empty && (!user.isEmpty || password.isSome) then throw .emptyHost
  let (names, rest) := pathBehindAuthority special rest
  return withTail scheme (some ⟨user, password, host, number⟩) (.segments names) rest

/-! ### Files -/

/-- The authority of an address of a file. -/
def fileAuthority (host : Host) : Authority := ⟨"", none, host, none⟩

/-- The address of a file with a host and a path. A host in front of a drive does not count, nor
does the host of this computer. -/
def fileUrl (host : Host) (names : List String) (cs : List Char) : Url :=
  let onDrive := match names with
    | first :: _ => Path.isDriveLetter first.toList
    | [] => false
  let host := if onDrive || host = .name "localhost" then .empty else host
  withTail "file" (some (fileAuthority host)) (.segments (Path.tidy names)) cs

/-- Whether a path starts with a drive. -/
def startsWithDrive (cs : List Char) : Bool :=
  Path.isDriveLetter (cs.take 2) &&
    match cs.drop 2 with
    | [] => true
    | c :: _ => isAuthorityEnd true c

/-- The address of a file behind two slashes. -/
def fileBehindSlashes (cs : List Char) : Except Fault Url := do
  let front := cs.takeWhile fun c => !isAuthorityEnd true c
  if front.isEmpty || Path.isDriveLetter front then
    let (names, rest) := segmentsFrom true [] cs
    return fileUrl .empty names rest
  else
    let host ← Host.parse front
    let (names, rest) := pathBehindAuthority true (cs.drop front.length)
    return fileUrl host names rest

/-- The names of the segments of a path. -/
def names (url : Url) : List String :=
  match url.path with
  | .opaqueText _ => []
  | .segments names => names

/-- The host of an address. -/
def host? (url : Url) : Option Host := url.authority.map (·.host)

/-- What stands behind two slashes or backslashes. -/
def behindTwoSlashes? : List Char → Option (List Char)
  | c :: d :: rest => if isSlash true c && isSlash true d then some rest else none
  | _ => none

/-- The address of a file with a path that starts with a slash. It stays on the drive or the host of
the address that it is relative to, unless it names a drive itself. -/
def fileWithPath (base : Option Url) (cs : List Char) : Url :=
  if startsWithDrive cs then
    let (names, rest) := segmentsFrom true [] cs
    fileUrl .empty names rest
  else
    let drive := ((base.map names).getD []).take 1 |>.filter fun name =>
      Path.isDriveLetter name.toList
    let (names, rest) := segmentsFrom true drive cs
    fileUrl (if drive.isEmpty then (base.bind host?).getD .empty else .empty) names rest

/-- The address of a file with a path that starts with a name. -/
def fileBeside (base : Option Url) (cs : List Char) : Url :=
  match base with
  | some base =>
    if startsWithDrive cs then
      let (names, rest) := segmentsFrom true [] cs
      fileUrl .empty names rest
    else
      let (names, rest) := segmentsFrom true (Path.shorten (names base)) cs
      fileUrl ((host? base).getD .empty) names rest
  | none =>
    let (names, rest) := segmentsFrom true [] cs
    fileUrl .empty names rest

/-- The address that a text without a path denotes relative to another one, if it is such a
text. -/
def withoutPath? (base : Url) : List Char → Option Url
  | [] => some { base with fragment := none }
  | c :: rest =>
    if c = '?' then some (withTail base.scheme base.authority base.path (c :: rest))
    else if c = '#' then some { base with fragment := some (fragmentOf rest) }
    else none

/-- The address of a file behind its scheme, or relative to one. -/
def file (base : Option Url) (cs : List Char) : Except Fault Url :=
  match behindTwoSlashes? cs with
  | some rest => fileBehindSlashes rest
  | none =>
    match base.bind fun base => withoutPath? base cs with
    | some url => .ok url
    | none =>
      match cs with
      | c :: rest => .ok (if isSlash true c then fileWithPath base rest else fileBeside base cs)
      | [] => .ok (fileBeside base cs)

/-! ### Relative addresses -/

/-- The address that a text without scheme denotes relative to another one. Two slashes lead to
another host, one slash to another path of the same host. -/
def relative (base : Url) (cs : List Char) : Except Fault Url :=
  match withoutPath? base cs, behindTwoSlashes? cs with
  | some url, _ => .ok url
  | none, some rest =>
    behindSlashes base.scheme
      (if cs.take 2 = ['/', '/'] then rest else rest.dropWhile (isSlash true))
  | none, none =>
    let special := isSpecial base.scheme
    let onHost : Bool := match cs with
      | c :: _ => isSlash true c
      | [] => false
    let (names, rest) :=
      if onHost then segmentsFrom special [] (cs.drop 1)
      else segmentsFrom special (names base).dropLast cs
    .ok (withTail base.scheme base.authority (.segments names) rest)

/-- The address behind a scheme. An address with the same special scheme as the one that it may be
relative to is relative to it, unless two slashes follow. -/
def behindScheme (base : Option Url) (scheme : String) (cs : List Char) : Except Fault Url :=
  if scheme = "file" then file (base.filter fun url => url.scheme = "file") cs
  else if isSpecial scheme then
    let slashes := (cs.takeWhile (isSlash true)).length
    let fresh := behindSlashes scheme (cs.dropWhile (isSlash true))
    match base with
    | some base => if slashes < 2 && base.scheme = scheme then relative base cs else fresh
    | none => fresh
  else
    match cs with
    | '/' :: '/' :: rest => behindSlashes scheme rest
    | '/' :: rest =>
      let (names, tail) := segmentsFrom false [] rest
      .ok (withTail scheme none (.segments names) tail)
    | _ =>
      let path := percentEncode Octets.controls (cs.takeWhile fun c => !isPathEnd c)
      .ok (withTail scheme none (.opaqueText (String.ofList path))
        (cs.dropWhile fun c => !isPathEnd c))

/-- The address that a text denotes on its own. -/
def parse (s : String) : Except Fault Url :=
  let cs := clean s.toList
  match scheme? cs with
  | some (scheme, rest) => behindScheme none scheme rest
  | none => .error .relativeWithoutBase

/-- The address that a text denotes relative to another one. -/
def join (base : Url) (s : String) : Except Fault Url :=
  let cs := clean s.toList
  match scheme? cs with
  | some (scheme, rest) => behindScheme (some base) scheme rest
  | none =>
    match cs with
    | '#' :: rest => .ok { base with fragment := some (fragmentOf rest) }
    | _ =>
      if !base.hasHierarchy then .error .relativeToOpaque
      else if base.scheme = "file" then file (some base) cs
      else relative base cs

end Consent.Url
