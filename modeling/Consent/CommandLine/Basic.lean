set_option autoImplicit false

/-!
# The command line

A call of the program names a command and gives settings. Most settings may stand in front of the
command or behind it; those of a command stand behind it.

## Main definitions

* `Consent.CommandLine.Command` — the names of the commands.
* `Consent.CommandLine.Setting` — the settings, and how they are spelled.
* `Consent.CommandLine.Level` — in front of the command, or behind it.
* `Consent.CommandLine.Call` — what a call asks for.
-/

namespace Consent.CommandLine

/-- The name of the program. -/
def programName : String := "consentsync"

/-- The version of the program. -/
def programVersion : String := "0.1.0"

/-- The commands. -/
inductive Command where
  | status
  | accept
  | revoke
  | config
  | version
deriving DecidableEq, Repr

namespace Command

/-- All commands, in the order in which they are listed. -/
def all : List Command := [status, accept, revoke, config, version]

/-- The name of a command. -/
def name : Command → String
  | status => "status"
  | accept => "accept"
  | revoke => "revoke"
  | config => "config"
  | version => "version"

/-- What a command does. -/
def about : Command → String
  | status => "Fetch and show the current consent record"
  | accept => "Submit accepted terms. Flags not given are stored as not accepted"
  | revoke => "Revoke every acceptance"
  | config => "Print the effective configuration"
  | version => "Show version"

/-- The command with a name. -/
def ofName? (s : String) : Option Command := all.find? fun c => c.name = s

end Command

/-- Where a setting stands. -/
inductive Level where
  /-- In front of the command. -/
  | top
  /-- Behind a command. -/
  | behind (c : Command)
deriving DecidableEq, Repr

/-- The settings. The last two ask for a text instead of a run. -/
inductive Setting where
  | config
  | baseUrl
  | endpoint
  | noObserver
  | logFile
  | main
  | userdata
  | help
  | version
deriving DecidableEq, Repr

namespace Setting

/-- The long name of a setting, behind two hyphens. -/
def long : Setting → String
  | config => "config"
  | baseUrl => "base-url"
  | endpoint => "endpoint"
  | noObserver => "no-observer"
  | logFile => "log-file"
  | main => "main"
  | userdata => "userdata"
  | help => "help"
  | version => "version"

/-- The short name of a setting, behind one hyphen. -/
def short? : Setting → Option Char
  | config => some 'c'
  | help => some 'h'
  | version => some 'V'
  | _ => none

/-- What the value of a setting is called, if it takes one. -/
def valueName? : Setting → Option String
  | config => some "CONFIG"
  | baseUrl => some "BASE_URL"
  | endpoint => some "ENDPOINT"
  | logFile => some "LOG_FILE"
  | _ => none

/-- Whether a setting takes a value. -/
def takesValue (s : Setting) : Bool := s.valueName?.isSome

/-- Whether the value of a setting is a path, which is never empty. -/
def isPath (s : Setting) : Bool := s = config || s = logFile

/-- What a setting is for. -/
def about : Setting → String
  | config => "Path to config file (TOML)"
  | baseUrl => "Server base URL (or set CONSENTSYNC_BASE_URL)"
  | endpoint => "Consent resource path, e.g. /terms_conditions/accept"
  | noObserver => "Do not forward the outcome to the host observer"
  | logFile => "Write logs to a file (in addition to stderr)"
  | main => "Accept the main terms"
  | userdata => "Accept user data processing"
  | help => "Print help"
  | version => "Print version"

end Setting

/-- The settings that may stand at a level, in the order in which they are listed. -/
def Level.settings : Level → List Setting
  | top => [.config, .baseUrl, .endpoint, .noObserver, .logFile, .help, .version]
  | behind .accept =>
    [.config, .main, .baseUrl, .userdata, .endpoint, .noObserver, .logFile, .help]
  | behind _ => [.config, .baseUrl, .endpoint, .noObserver, .logFile, .help]

/-- A setting that was given, and its value; the value of a flag is empty. -/
abbrev Given := Setting × String

/-- What a call asks for: a command, and the settings of either level. -/
structure Call where
  command : Command
  /-- The settings in front of the command. -/
  front : List Given
  /-- The settings behind the command. -/
  back : List Given
deriving DecidableEq, Repr

namespace Call

/-- The value of a setting. One behind the command wins. -/
def value? (call : Call) (s : Setting) : Option String :=
  (List.lookup s call.back).or (List.lookup s call.front)

/-- Whether a flag is given at either level. -/
def hasFlag (call : Call) (s : Setting) : Bool := (call.value? s).isSome

end Call

end Consent.CommandLine
