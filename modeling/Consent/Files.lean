import Consent.Text.Split
import Consent.Text.Utf8

set_option autoImplicit false

/-!
# Files

A tree of folders and files, and paths that lead through it from its root or from the folder that
the program works in.

## Main definitions

* `Consent.Files` — the tree.
* `Consent.Files.Route` — a path.
* `Consent.Files.read?` — the octets of a file.
* `Consent.Files.makeFolders` — makes a folder and all that it is in.
* `Consent.Files.append?` — writes at the end of a file.
-/

namespace Consent

/-- What a path can lead to. -/
inductive Files.Node where
  | folder
  | file (content : Bytes)
deriving DecidableEq, Repr

/-- A tree of folders and files. The root is always there. -/
structure Files where
  /-- The folder that the program works in. -/
  current : List String
  /-- What the names from the root on lead to; the first entry counts. -/
  entries : List (List String × Files.Node)
deriving DecidableEq, Repr

namespace Files

/-- Why a folder is not made, or a path does not lead anywhere. -/
inductive Fault where
  | missing
  | occupied
  | notFolder
deriving DecidableEq, Repr

/-- The wording of a fault. -/
def Fault.message : Fault → String
  | missing => "No such file or directory (os error 2)"
  | occupied => "File exists (os error 17)"
  | notFolder => "Not a directory (os error 20)"

/-- A path: whether it starts at the root, and its parts. -/
structure Route where
  absolute : Bool
  parts : List String
deriving DecidableEq, Repr

/-- A path out of its text. -/
def Route.ofString (s : String) : Route where
  absolute := s.toList.head? = some '/'
  parts := ((Text.splitWhere (· = '/') s.toList).map String.ofList).filter fun part =>
    part ≠ "" && part ≠ "."

/-- The part that leads up. -/
def up : String := ".."

/-- What the names from the root on lead to. -/
def node? (files : Files) (names : List String) : Option Node :=
  if names.isEmpty then some .folder else List.lookup names files.entries

/-- Whether the names from the root on lead to a folder. -/
def isFolder (files : Files) (names : List String) : Bool := files.node? names = some .folder

/-- The names from the root on to which parts lead from a folder. The last name need not be
there. -/
def walk (files : Files) : List String → List String → Except Fault (List String)
  | folder, [] => .ok folder
  | folder, part :: parts =>
    if part = up then walk files folder.dropLast parts
    else
      match files.node? (folder ++ [part]) with
      | some .folder => walk files (folder ++ [part]) parts
      | some (.file _) => if parts.isEmpty then .ok (folder ++ [part]) else .error .notFolder
      | none => if parts.isEmpty then .ok (folder ++ [part]) else .error .missing

/-- The folder that a path starts in. -/
def start (files : Files) (absolute : Bool) : List String :=
  if absolute then [] else files.current

/-- The names from the root on to which a path leads. -/
def resolve (files : Files) (route : Route) : Except Fault (List String) :=
  files.walk (files.start route.absolute) route.parts

/-- The folders and the file that a path visits, each by its names from the root on. -/
def visited : List String → List String → List (List String)
  | folder, [] => [folder]
  | folder, part :: parts =>
    folder :: visited (if part = up then folder.dropLast else folder ++ [part]) parts

/-- The tree with another node. -/
def put (files : Files) (names : List String) (node : Node) : Files :=
  { files with entries := (names, node) :: files.entries }

/-- The octets of the file at the end of a path, if there is one. -/
def read? (files : Files) (route : Route) : Option Bytes :=
  match files.resolve route with
  | .error _ => none
  | .ok names =>
    match files.node? names with
    | some (.file content) => some content
    | _ => none

/-- Makes the folder at the end of a path. -/
def makeFolder (files : Files) (route : Route) : Except Fault Files := do
  let names ← files.resolve route
  if (files.node? names).isSome then throw .occupied
  return files.put names .folder

/-- Whether there is a folder at the end of a path. -/
def hasFolder (files : Files) (route : Route) : Bool :=
  match files.resolve route with
  | .error _ => false
  | .ok names => files.isFolder names

/-- Makes the folder at the end of a path and all that it is in, given the parts from the last one
on. A folder that is there already is fine. -/
def makeFoldersBack (absolute : Bool) : List String → Files → Except Fault Files
  | [], files => .ok files
  | last :: before, files =>
    let route : Route := ⟨absolute, (last :: before).reverse⟩
    let again (files : Files) (e : Fault) : Except Fault Files :=
      if files.hasFolder route then .ok files else .error e
    match files.makeFolder route with
    | .ok files => .ok files
    | .error .missing =>
      match makeFoldersBack absolute before files with
      | .error e => .error e
      | .ok files =>
        match files.makeFolder route with
        | .ok files => .ok files
        | .error e => again files e
    | .error e => again files e

/-- Makes the folder at the end of a path and all that it is in. -/
def makeFolders (files : Files) (route : Route) : Except Fault Files :=
  makeFoldersBack route.absolute route.parts.reverse files

/-- Writes at the end of the file at the end of a path, which is made if it is not there. -/
def append? (files : Files) (route : Route) (text : Bytes) : Option Files :=
  match files.resolve route with
  | .error _ => none
  | .ok names =>
    match files.node? names with
    | some .folder => none
    | some (.file content) => some (files.put names (.file (content ++ text)))
    | none => some (files.put names (.file text))

end Files

end Consent
