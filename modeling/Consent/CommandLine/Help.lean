import Consent.CommandLine.Basic

set_option autoImplicit false

/-!
# Help

## Main definitions

* `Consent.CommandLine.HelpPage` — what help can be about.
* `Consent.CommandLine.HelpPage.text` — the text of a page.
-/

namespace Consent.CommandLine

/-- The name of the command that shows help. -/
def helpName : String := "help"

/-- What the program does. -/
def programAbout : String := "Keep a user's consent decision in sync with the testbed server"

/-- What the command that shows help does. -/
def helpAbout : String := "Print this message or the help of the given subcommand(s)"

/-- What help can be about. -/
inductive HelpPage where
  /-- The settings of a level, and the commands in front of which it is. -/
  | level (l : Level)
  /-- Help itself. -/
  | help
  /-- Help about a command. -/
  | helpAbout (c : Command)
  /-- Help about help. -/
  | helpHelp
deriving DecidableEq, Repr

/-- Two columns, the second one two blanks behind the longest entry of the first. -/
def columns (rows : List (String × String)) : String :=
  let width := rows.foldl (fun n row => max n row.1.length) 0
  String.join (rows.map fun (left, right) =>
    "  " ++ left ++ String.ofList (List.replicate (width - left.length + 2) ' ') ++ right ++ "\n")

/-- How a setting is spelled in a list. -/
def Setting.spelling (s : Setting) : String :=
  (match s.short? with
    | some c => "-" ++ c.toString ++ ", "
    | none => "    ") ++ "--" ++ s.long ++
  match s.valueName? with
  | some name => " <" ++ name ++ ">"
  | none => ""

/-- The list of the commands. -/
def commandList : String :=
  "\nCommands:\n" ++
    columns (Command.all.map (fun c => (c.name, c.about)) ++ [(helpName, helpAbout)])

/-- The list of the settings of a level. -/
def Level.settingList (l : Level) : String :=
  "\nOptions:\n" ++ columns (l.settings.map fun s => (s.spelling, s.about))

/-- The start of a page. -/
def opening (about usage : String) : String :=
  about ++ "\n\nUsage: " ++ programName ++ " " ++ usage ++ "\n"

/-- The text of a page. -/
def HelpPage.text : HelpPage → String
  | level .top => opening programAbout "[OPTIONS] <COMMAND>" ++ commandList ++ Level.top.settingList
  | level (.behind c) =>
    opening c.about (c.name ++ " [OPTIONS]") ++ (Level.behind c).settingList
  | help => opening CommandLine.helpAbout "help [COMMAND]" ++ commandList
  | helpAbout c => opening c.about ("help " ++ c.name)
  | helpHelp => opening CommandLine.helpAbout "help help"

/-- The page that some words ask for, if they do. -/
def HelpPage.ofWords? : List String → Option HelpPage
  | [] => some (.level .top)
  | word :: words =>
    if word = helpName then
      match words with
      | [] => some .help
      | [about] =>
        if about = helpName then some .helpHelp else (Command.ofName? about).map .helpAbout
      | _ => none
    else if words.isEmpty then (Command.ofName? word).map fun c => .level (.behind c)
    else none

end Consent.CommandLine
