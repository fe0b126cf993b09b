set_option autoImplicit false

/-!
# Items of a configuration file

What a key of a configuration file stands for: a value, a table, or several tables under one
header. A table remembers how it came about, because that decides what may be added to it.

## Main definitions

* `Consent.Toml.Item` — values and tables.
* `Consent.Toml.Origin` — how a table came about.
* `Consent.Toml.Entries` — the keys of a table.
* `Consent.Toml.descend` — changes the table at the end of a path.
* `Consent.Toml.addValue`, `Consent.Toml.addTable`, `Consent.Toml.addToTables` — what a line or a
  section of a file adds.
-/

namespace Consent.Toml

/-- How a table came about. -/
inductive Origin where
  /-- It has a header of its own. -/
  | header
  /-- A header names a table inside of it. -/
  | implied
  /-- A key with dots names a member of it. -/
  | dotted
  /-- It stands in braces. -/
  | inline
deriving DecidableEq, Repr

/-- What a key stands for. The values of floats and dates are not kept, since nothing asks for
them. -/
inductive Item where
  | text (s : String)
  | integer (n : Int)
  | flag (b : Bool)
  | float
  | dateTime
  | list (elements : List Item)
  | table (origin : Origin) (entries : List (String × Item))
  /-- The tables with one header in double brackets. -/
  | tables (elements : List (List (String × Item)))
deriving Inhabited

/-- The keys of a table, and what they stand for. -/
abbrev Entries := List (String × Item)

/-- What a key stands for. -/
def Entries.find? (entries : Entries) (key : String) : Option Item := List.lookup key entries

/-- The entries in which a key stands for an item. -/
def Entries.put : Entries → String → Item → Entries
  | [], key, item => [(key, item)]
  | (k, i) :: entries, key, item =>
    if k = key then (k, item) :: entries else (k, i) :: Entries.put entries key item

/-- Changes the table at the end of a path. Tables that are missing on the way come about as
`made`; the way may lead through tables, and through the last of several tables with one header. A
dotted key may not lead through a table with a header of its own. -/
def descend (made : Origin) (change : Origin → Entries → Option Entries) :
    List String → Origin → Entries → Option Entries
  | [], origin, entries => change origin entries
  | key :: path, _, entries =>
    match entries.find? key with
    | none => (descend made change path made []).map fun sub => entries.put key (.table made sub)
    | some (.table .inline _) => none
    | some (.table origin sub) =>
      if made = .dotted && origin = .header then none
      else
        (descend made change path origin sub).map fun sub => entries.put key (.table origin sub)
    | some (.tables elements) =>
      match elements.getLast? with
      | none => none
      | some last =>
        (descend made change path .header last).map fun last =>
          entries.put key (.tables (elements.dropLast ++ [last]))
    | some _ => none

/-- Adds a value under a key, at the end of a path of dotted keys. Each key is given once, and a
path leads to a table that only dotted keys make. -/
def addValue (path : List String) (key : String) (item : Item) (entries : Entries) :
    Option Entries :=
  descend .dotted (fun origin entries =>
    if !path.isEmpty && origin ≠ .dotted then none
    else if (entries.find? key).isSome then none
    else some (entries.put key item)) path .header entries

/-- Adds the values of a section in their order. -/
def addValues (values : List (List String × String × Item)) (entries : Entries) : Option Entries :=
  values.foldlM (fun entries (path, key, item) => addValue path key item entries) entries

/-- Adds the table under a header. It may only be there already because a header names a table
inside of it. -/
def addTable (path : List String) (key : String) (values : List (List String × String × Item))
    (entries : Entries) : Option Entries :=
  descend .implied (fun _ entries =>
    match entries.find? key with
    | none => (addValues values []).map fun sub => entries.put key (.table .header sub)
    | some (.table .implied sub) =>
      (addValues values sub).map fun sub => entries.put key (.table .header sub)
    | some _ => none) path .header entries

/-- Adds one more table under a header in double brackets. -/
def addToTables (path : List String) (key : String)
    (values : List (List String × String × Item)) (entries : Entries) : Option Entries :=
  descend .implied (fun _ entries =>
    match entries.find? key with
    | none => (addValues values []).map fun sub => entries.put key (.tables [sub])
    | some (.tables elements) =>
      (addValues values []).map fun sub => entries.put key (.tables (elements ++ [sub]))
    | some _ => none) path .header entries

end Consent.Toml
