import Consent.Program

set_option autoImplicit false

/-!
# The executable

Looks up what a run depends on, runs the program, and prints and writes what came of it. No network
is attached, so that every request fails to connect.
-/

namespace Consent.Executable

/-- The variable that holds the address of the server. -/
def addressVariable : String := "CONSENTSYNC_BASE_URL"

/-- The text of the names from the root on. -/
def pathText (names : List String) : String := "/" ++ "/".intercalate names

/-- The paths that the words of a command line mention. -/
def routes (words : List String) : List Files.Route :=
  match CommandLine.parse words with
  | .error _ => []
  | .ok call =>
    let log := (call.value? .logFile).map fun path =>
      let (folder, name) := Program.logPlace (.ofString path)
      { folder with parts := folder.parts ++ [name] }
    ((call.value? .config).map Files.Route.ofString).toList ++ log.toList

/-- What is at the end of the names from the root on. -/
def probe (names : List String) : IO (Option Files.Node) := do
  let path := (← IO.currentDir) / pathText names
  if ← path.isDir then return some .folder
  if ← path.pathExists then return some (.file (← IO.FS.readBinFile path).toList)
  return none

/-- The part of the tree that a command line mentions. -/
def snapshot (words : List String) : IO Files := do
  let here := (Files.Route.ofString (← IO.currentDir).toString).parts
  let places := (routes words).flatMap fun route =>
    Files.visited (if route.absolute then [] else here) route.parts
  let mut entries := []
  for names in places do
    if let some node ← probe names then entries := (names, node) :: entries
  return ⟨here, entries⟩

/-- Writes what a run has changed. -/
def save (before after : Files) : IO Unit := do
  let added := after.entries.take (after.entries.length - before.entries.length)
  for (names, node) in added.reverse do
    match node with
    | .folder => IO.FS.createDirAll (pathText names)
    | .file content => IO.FS.writeBinFile (pathText names) content.toByteArray

end Consent.Executable

/-- Runs the program. -/
def main (words : List String) : IO UInt32 := do
  let files ← Consent.Executable.snapshot words
  let address ← IO.getEnv Consent.Executable.addressVariable
  let outcome := Consent.Program.run
    ⟨address.map Consent.Utf8.ofString, files, .unreachable "error trying to connect"⟩ words
  IO.print outcome.output
  Consent.Executable.save files outcome.files
  match outcome.ending with
  | .failure report => IO.eprint report.text
  | .misuse => IO.eprintln ("Usage: " ++ Consent.CommandLine.programName ++ " [OPTIONS] <COMMAND>")
  | .breakdown => IO.eprintln "cannot open the log"
  | .success => pure ()
  return outcome.ending.code.toUInt32
