import Consent.CommandLine.Parse
import Consent.Config.Effective
import Consent.Files
import Consent.Http.Transport
import Consent.Session

set_option autoImplicit false

/-!
# The program

A run of the program reads its command line, opens a log if one is asked for, puts the configuration
together, and does what the command says. The commands that talk to the server make a session with a
console as its surface and, unless that is turned off, a host whose only observer prints what it is
told; it is attached before the operation begins.

## Main definitions

* `Consent.Program.Action`, `Consent.Program.act` — an operation from its call to its end.
* `Consent.Program.Environment`, `Consent.Program.Outcome` — what a run depends on, and what comes
  of it.
* `Consent.Program.run` — a run.
-/

namespace Consent.Program

open CommandLine

/-! ### One operation -/

/-- What is done with the record. -/
inductive Action where
  | status
  | submit (draft : Draft)
  | revoke
deriving DecidableEq, Repr

/-- The name of the only future, and of the only observer. -/
def onlyName : String := "only"

/-- The step that calls an action. -/
def Action.step : Action → SessionStep
  | status => .load onlyName
  | submit draft => .submit onlyName draft
  | revoke => .revoke onlyName

/-- The steps by which an observer is attached before anything happens. -/
def attachSteps : List SessionStep :=
  [.host (.makeObserver onlyName .nothing), .host (.bind Observer.Host.mainSlot onlyName),
    .host .arm, .host .run]

/-- Polls the future until it is done, and has every request answered; the number bounds the
polls. -/
def drive (t : HttpTransport) (network : Http.Network) :
    Nat → Session → List Http.Message → Session × List Http.Message
  | 0, s, sent => (s, sent)
  | polls + 1, s, sent =>
    match s.step (.poll onlyName) with
    | (s, .pending) =>
      match s.wire.sent.getLast? with
      | none => (s, sent)
      | some request =>
        let (reply, sent) := t.send network sent request
        drive t network polls (s.step (.respond (s.wire.sent.length - 1) reply)).1 sent
    | (s, _) => (s, sent)

/-- How often a future is polled at most: it waits for an answer twice. -/
def mostPolls : Nat := 3

/-- The session in which an action has been called. -/
def called (config : Config) (action : Action) : Session :=
  let fresh := Session.fresh config.server.endpoint (.console .fresh) .watching []
  (fresh.run (if config.observerEnabled then attachSteps else [])).step action.step |>.1

/-- An action from its call to its end: the session then, and all messages sent. -/
def act (config : Config) (t : HttpTransport) (network : Http.Network) (action : Action) :
    Session × List Http.Message :=
  drive t network mostPolls (called config action) []

/-- What is printed when a session puts something out: a text as it is, and a line about a call. -/
def printedText : Output → String
  | .shown text => text
  | .told note => note.verdict.line

/-- What is printed in a session. -/
def printed (s : Session) : String := String.join (s.output.map printedText)

/-! ### A run -/

/-- A report of what went wrong, and why. -/
structure Report where
  message : String
  /-- The causes, the last one the deepest. -/
  causes : List String
deriving DecidableEq, Repr

/-- A report as it is printed. Several causes are numbered. -/
def Report.text (r : Report) : String :=
  "Error: " ++ r.message ++ "\n" ++
    match r.causes with
    | [] => ""
    | [cause] => "\nCaused by:\n    " ++ cause ++ "\n"
    | causes =>
      "\nCaused by:\n" ++ String.join (causes.zipIdx.map fun (cause, i) =>
        "    " ++ toString i ++ ": " ++ cause ++ "\n")

/-- How a run ends. -/
inductive Ending where
  | success
  | failure (r : Report)
  /-- The command line has a mistake. -/
  | misuse
  /-- The log cannot be opened. -/
  | breakdown
deriving DecidableEq, Repr

/-- The number that a run ends with. -/
def Ending.code : Ending → Nat
  | success => 0
  | failure _ => 1
  | misuse => 2
  | breakdown => 101

/-- What a run depends on. -/
structure Environment where
  /-- The address of the server in the environment. -/
  baseUrl : Option Bytes
  files : Files
  network : Http.Network

/-- What comes of a run. -/
structure Outcome where
  ending : Ending
  /-- What is printed. -/
  output : String
  files : Files
  /-- The messages sent. -/
  sent : List Http.Message

/-- A run that ends without any message. -/
def Outcome.quiet (ending : Ending) (output : String) (files : Files) : Outcome :=
  ⟨ending, output, files, []⟩

/-- A run that ends with a report. -/
def Outcome.fail (message : String) (causes : List String) (files : Files) : Outcome :=
  .quiet (.failure ⟨message, causes⟩) "" files

/-! ### The log -/

/-- The name of the log when a path gives none. -/
def logName : String := "consentsync.log"

/-- The folder and the name of the log at the end of a path. -/
def logPlace (route : Files.Route) : Files.Route × String :=
  match route.parts.reverse with
  | [] => (⟨false, []⟩, logName)
  | last :: before =>
    (⟨route.absolute, before.reverse⟩, if last = Files.up then logName else last)

/-- Opens the log at the end of a path: where it is, and the files then. -/
def openLog (files : Files) (path : String) : Except Ending (Files.Route × Files) :=
  let (folder, name) := logPlace (.ofString path)
  match files.makeFolders folder with
  | .error e => .error (.failure ⟨"failed to set up logging", [e.message]⟩)
  | .ok files =>
    let log : Files.Route := { folder with parts := folder.parts ++ [name] }
    match files.append? log [] with
    | none => .error .breakdown
    | some files => .ok (log, files)

/-- The files with one more line in the log, if there is one. -/
def note (log : Option Files.Route) (line : String) (files : Files) : Files :=
  match log with
  | none => files
  | some route => (files.append? route (Utf8.ofString (line ++ "\n"))).getD files

/-! ### Commands -/

/-- What the settings of a call change in the configuration. -/
def overrides (call : Call) : Config.Overrides :=
  ⟨call.value? .baseUrl, call.value? .endpoint, call.hasFlag .noObserver⟩

/-- The draft that a call submits. -/
def draft (call : Call) : Draft :=
  (Draft.empty.withMain (call.hasFlag .main)).withUserdata (call.hasFlag .userdata)

/-- Does an action and prints the session. A session that ends with a failure is reported. -/
def perform (network : Http.Network) (log : Option Files.Route) (files : Files) (config : Config)
    (action : Action) : Outcome :=
  match HttpTransport.ofConfig config.server with
  | .error e => .fail e.message e.causes files
  | .ok t =>
    let files := note log ("Server " ++ t.baseUrl.text ++ " endpoint " ++ config.server.endpoint)
      files
    let (s, sent) := act config t network action
    match s.client.state with
    | .failed e => ⟨.failure ⟨e.message, []⟩, printed s, files, sent⟩
    | _ => ⟨.success, printed s, files, sent⟩

/-- Does what a command says under a configuration. -/
def execute (network : Http.Network) (log : Option Files.Route) (files : Files) (config : Config)
    (call : Call) : Outcome :=
  match call.command with
  | .version => .quiet .success "" files
  | .config => .quiet .success config.file files
  | .status => perform network log files config .status
  | .accept => perform network log files config (.submit (draft call))
  | .revoke => perform network log files config .revoke

/-- What the version command prints. -/
def versionLine : String := programName ++ " v" ++ programVersion ++ "\n"

/-- Carries out a call, with the log open. The version needs no configuration. -/
def carryOut (env : Environment) (log : Option Files.Route) (files : Files) (call : Call) :
    Outcome :=
  if call.command = .version then .quiet .success versionLine files
  else
    let path := call.value? .config
    let content := path.bind fun p => files.read? (.ofString p)
    let files := match path with
      | none => files
      | some p => note log ("Config at " ++ p) files
    match Config.effective content env.baseUrl (overrides call) with
    | .error e => .fail e.message [] files
    | .ok config => execute env.network log files config call

/-- A run of the program with the given words behind its name. -/
def run (env : Environment) (words : List String) : Outcome :=
  match parse words with
  | .error (.help page) => .quiet .success page.text env.files
  | .error .version => .quiet .success (programName ++ " " ++ programVersion ++ "\n") env.files
  | .error .mistake => .quiet .misuse "" env.files
  | .ok call =>
    match call.value? .logFile with
    | none => carryOut env none env.files call
    | some path =>
      match openLog env.files path with
      | .error ending => .quiet ending "" env.files
      | .ok (log, files) => carryOut env (some log) files call

end Consent.Program
