import Consent.CommandLine.Help
import Consent.Text.Split

set_option autoImplicit false

/-!
# Reading the command line

Words are read from the left. A word with hyphens gives a setting, whose value stands in the same
word or is the next one; the first word without hyphens is the command. Asking for help ends the
reading, and so does the first mistake. Each setting is given once at a level.

A value that is a word of its own is *held* and only looked at when the reading of its level goes
on; so help behind a command comes before a mistake in the last value in front of it.

## Main definitions

* `Consent.CommandLine.Ending` — how the reading may end without a call.
* `Consent.CommandLine.Gathered` — the settings of a level as far as they have been read.
* `Consent.CommandLine.parse` — the call that some words stand for.
-/

namespace Consent.CommandLine

/-- How the reading of a command line may end without a call. -/
inductive Ending where
  /-- Help is asked for. -/
  | help (page : HelpPage)
  /-- The version is asked for. -/
  | version
  /-- The command line has a mistake. -/
  | mistake
deriving DecidableEq, Repr

/-- What a word with hyphens means. -/
inductive Meaning where
  /-- A setting with its value. -/
  | given (g : Given)
  /-- A setting whose value is the next word. -/
  | awaiting (s : Setting)
  /-- The end of the reading. -/
  | ending (e : Ending)
deriving DecidableEq, Repr

/-- The meaning of a setting, with the value that stands in the same word, if there is one. -/
def meaning (l : Level) (s : Setting) (attached : Option String) : Meaning :=
  if s.takesValue then
    match attached with
    | some v => .given (s, v)
    | none => .awaiting s
  else if attached.isSome then .ending .mistake
  else if s = .help then .ending (.help (.level l))
  else if s = .version then .ending .version
  else .given (s, "")

/-- The meaning of a word behind two hyphens: a long name, perhaps with a value behind a sign. -/
def longMeaning (l : Level) (cs : List Char) : Meaning :=
  let name := String.ofList (cs.takeWhile (· ≠ '='))
  let attached := match cs.dropWhile (· ≠ '=') with
    | [] => none
    | _ :: value => some (String.ofList value)
  match l.settings.find? (·.long = name) with
  | some s => meaning l s attached
  | none => .ending .mistake

/-- The meaning of a word behind one hyphen: a short name, and a value if one is taken. A sign in
front of the value is left out. -/
def shortMeaning (l : Level) (c : Char) (rest : List Char) : Meaning :=
  match l.settings.find? (·.short? = some c) with
  | some s =>
    if s.takesValue then
      match rest with
      | [] => .awaiting s
      | '=' :: value => .given (s, String.ofList value)
      | value => .given (s, String.ofList value)
    else meaning l s none
  | none => .ending .mistake

/-- What a word is. -/
inductive Word where
  /-- Two hyphens, behind which only plain words may follow. -/
  | separator
  | hyphened (m : Meaning)
  | plain
deriving DecidableEq, Repr

/-- What a word is at a level. A single hyphen is a plain word. -/
def classify (l : Level) (word : String) : Word :=
  match word.toList with
  | ['-', '-'] => .separator
  | '-' :: '-' :: cs => .hyphened (longMeaning l cs)
  | '-' :: c :: cs => .hyphened (shortMeaning l c cs)
  | _ => .plain

/-- Whether a word cannot be a value. -/
def hasHyphen (word : String) : Bool :=
  match word.toList with
  | '-' :: _ :: _ => true
  | _ => false

/-- The settings of a level as far as they have been read. -/
structure Gathered where
  /-- The settings that count. -/
  given : List Given
  /-- A setting whose value has not been looked at. -/
  held : Option Given
deriving DecidableEq, Repr

namespace Gathered

/-- No settings. -/
def none : Gathered := ⟨[], Option.none⟩

/-- The settings with one more, unless it is there already or its value is an empty path. -/
def count (g : Gathered) (more : Given) : Except Ending Gathered :=
  if g.given.any (·.1 = more.1) || (more.1.isPath && more.2.isEmpty) then .error .mistake
  else .ok { g with given := g.given ++ [more] }

/-- The settings with the held one looked at. -/
def settle (g : Gathered) : Except Ending Gathered :=
  match g.held with
  | Option.none => .ok g
  | some more => { g with held := Option.none }.count more

end Gathered

/-- Reads the words behind a command. -/
def parseBehind (c : Command) : Gathered → List String → Except Ending (List Given)
  | g, [] => g.settle.map (·.given)
  | g, word :: words =>
    match classify (.behind c) word with
    | .plain => .error .mistake
    | .separator => if words.isEmpty then g.settle.map (·.given) else .error .mistake
    | .hyphened m =>
      match g.settle with
      | .error e => .error e
      | .ok g =>
        match m with
        | .ending e => .error e
        | .given more =>
          match g.count more with
          | .error e => .error e
          | .ok g => parseBehind c g words
        | .awaiting s =>
          match words with
          | [] => .error .mistake
          | value :: words =>
            if hasHyphen value then .error .mistake
            else parseBehind c { g with held := some (s, value) } words

/-- Reads the words from the front on. -/
def parseFrom : Gathered → List String → Except Ending Call
  | _, [] => .error .mistake
  | g, word :: words =>
    match classify .top word with
    | .plain =>
      if word = helpName then
        match HelpPage.ofWords? words with
        | some page => .error (.help page)
        | none => .error .mistake
      else
        match Command.ofName? word with
        | none => .error .mistake
        | some c => do
          let back ← parseBehind c .none words
          let g ← g.settle
          return ⟨c, g.given, back⟩
    | .separator => .error .mistake
    | .hyphened m =>
      match g.settle with
      | .error e => .error e
      | .ok g =>
        match m with
        | .ending e => .error e
        | .given more =>
          match g.count more with
          | .error e => .error e
          | .ok g => parseFrom g words
        | .awaiting s =>
          match words with
          | [] => .error .mistake
          | value :: words =>
            if hasHyphen value then .error .mistake
            else parseFrom { g with held := some (s, value) } words

/-- The call that some words stand for. -/
def parse (words : List String) : Except Ending Call := parseFrom .none words

end Consent.CommandLine
