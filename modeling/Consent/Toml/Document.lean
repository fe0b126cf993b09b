import Consent.Toml.Value

set_option autoImplicit false

/-!
# Reading a configuration file

A file is a sequence of lines: values at first, and then sections, each of which starts with a
header. `lines` reads them, `sections` puts the values under their headers, and `ofLines` builds
the table that they describe.

## Main definitions

* `Consent.Toml.Line` — a line that says something.
* `Consent.Toml.Section` — a header and the values under it.
* `Consent.Toml.parse` — the keys of a file.
-/

namespace Consent.Toml

open Text

/-- A key with its path and its value. -/
abbrev Assignment := List String × String × Item

/-- A line that says something. -/
inductive Line where
  | assignment (a : Assignment)
  /-- A header in brackets. -/
  | table (path : List String) (key : String)
  /-- A header in double brackets. -/
  | element (path : List String) (key : String)

/-- A header in brackets. -/
def tableHeader : Scanner Line := fun cs => do
  let (_, cs) ← Scanner.char '[' cs
  let ((path, key), cs) ← keyPath cs
  let (_, cs) ← Scanner.char ']' cs
  return (.table path key, cs)

/-- A header in double brackets. -/
def elementHeader : Scanner Line := fun cs => do
  let (_, cs) ← Scanner.word ['[', '['] cs
  let ((path, key), cs) ← keyPath cs
  let (_, cs) ← Scanner.word [']', ']'] cs
  return (.element path key, cs)

/-- A key and its value. -/
def assignmentLine : Scanner Line := fun cs =>
  (keyValue (value (depthLimit - 1)) cs).map fun (a, rest) => (.assignment a, rest)

/-- What a line says, if anything. -/
def lineContent : Scanner (Option Line) :=
  Scanner.orElse
    (Scanner.orElse assignmentLine (Scanner.orElse tableHeader elementHeader) ·
      |>.map fun (line, rest) => (some line, rest))
    (fun cs => some (none, cs))

/-- A line with its end. -/
def line : Scanner (Option Line) := fun cs =>
  if cs.isEmpty then none
  else do
    let (_, cs) ← blanks cs
    let (content, cs) ← lineContent cs
    let (_, cs) ← lineEnd cs
    return (content, cs)

/-- All lines of a file that say something. -/
def lines (cs : List Char) : Option (List Line) := do
  let (lines, rest) ← Scanner.many line cs
  if rest.isEmpty then some lines.reduceOption else none

/-- A header and the values under it. -/
structure Section where
  /-- Whether the header is in double brackets. -/
  repeated : Bool
  /-- The tables that lead to the one of this section. -/
  path : List String
  /-- The name of the table of this section. -/
  key : String
  /-- The values under the header. -/
  values : List Assignment

/-- The values before the first header, and the sections. -/
def sections : List Line → List Assignment × List Section
  | [] => ([], [])
  | .assignment a :: rest => ((a :: (sections rest).1), (sections rest).2)
  | .table path key :: rest => ([], ⟨false, path, key, (sections rest).1⟩ :: (sections rest).2)
  | .element path key :: rest => ([], ⟨true, path, key, (sections rest).1⟩ :: (sections rest).2)

/-- Adds a section to the keys of a file. -/
def Section.add (s : Section) (entries : Entries) : Option Entries :=
  if s.repeated then addToTables s.path s.key s.values entries
  else addTable s.path s.key s.values entries

/-- The keys that some lines describe. -/
def ofLines (lines : List Line) : Option Entries := do
  let (values, sections) := sections lines
  let entries ← addValues values []
  sections.foldlM (fun entries s => s.add entries) entries

/-- The text behind a byte order mark. -/
def dropMark : List Char → List Char
  | '\ufeff' :: rest => rest
  | cs => cs

/-- The keys of a file. -/
def parse (cs : List Char) : Option Entries := (lines (dropMark cs)).bind ofLines

end Consent.Toml
