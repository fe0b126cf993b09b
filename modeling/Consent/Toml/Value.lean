import Consent.Toml.Number

set_option autoImplicit false

/-!
# Reading keys and values

## Main definitions

* `Consent.Toml.keyPath` — a key with dots between its parts.
* `Consent.Toml.value` — a value. Lists and inline tables are read down to a depth.
* `Consent.Toml.keyValue` — a key and its value.
-/

namespace Consent.Toml

open Text

/-- A character of a key without quotes. -/
def isBareChar (c : Char) : Bool := c.isAlphanum || c = '_' || c = '-'

/-- The greatest number of parts of a key, and of lists and inline tables around each other, is
one less. -/
def depthLimit : Nat := 80

/-- One part of a key. -/
def keyPart : Scanner (List Char) :=
  Scanner.orElse (Scanner.run isBareChar) (Scanner.orElse basicText literalText)

/-- One part of a key with blanks around it. -/
def spacedKeyPart : Scanner String := fun cs => do
  let (_, cs) ← blanks cs
  let (part, cs) ← keyPart cs
  let (_, cs) ← blanks cs
  return (String.ofList part, cs)

/-- A key with dots between its parts: the parts before the last one, and the last one. -/
def keyPath : Scanner (List String × String) := fun cs => do
  let (parts, cs) ← Scanner.separated (Scanner.char '.') spacedKeyPart cs
  let last ← parts.getLast?
  if parts.length < depthLimit then some ((parts.dropLast, last), cs) else none

/-- A key, the sign between it and its value, and the value. -/
def keyValue (value : Scanner Item) : Scanner (List String × String × Item) := fun cs => do
  let ((path, key), cs) ← keyPath cs
  let (_, cs) ← Scanner.char '=' cs
  let (_, cs) ← blanks cs
  let (item, cs) ← value cs
  return ((path, key, item), cs)

/-- The elements of a list, between which and around which there may be line ends and comments. A
comma may stand behind the last one. -/
def elements (value : Scanner Item) : Scanner (List Item) := fun cs => do
  let spaced : Scanner Item := fun cs => do
    let (_, cs) ← space cs
    let (item, cs) ← value cs
    let (_, cs) ← space cs
    return (item, cs)
  match Scanner.separated (Scanner.char ',') spaced cs with
  | none =>
    let (_, cs) ← space cs
    return ([], cs)
  | some (items, cs) =>
    let (_, cs) ← Scanner.orElse (Scanner.char ',') (fun cs => some ((), cs)) cs
    let (_, cs) ← space cs
    return (items, cs)

/-- The members of an inline table, which stand on one line. -/
def members (value : Scanner Item) : Scanner Entries := fun cs => do
  let spaced : Scanner (List String × String × Item) := fun cs => do
    let (member, cs) ← keyValue value cs
    let (_, cs) ← blanks cs
    return (member, cs)
  match Scanner.separated (Scanner.char ',') spaced cs with
  | none =>
    let (_, cs) ← blanks cs
    return ([], cs)
  | some (values, cs) =>
    let entries ← addValues values []
    return (entries, cs)

/-- A value. The depth is how many lists and inline tables may be around each other. -/
def value : Nat → Scanner Item
  | _, [] => none
  | 0, c :: rest => simple (c :: rest)
  | depth + 1, c :: rest =>
    if c = '[' then do
      let (items, cs) ← elements (value depth) rest
      let (_, cs) ← Scanner.char ']' cs
      return (.list items, cs)
    else if c = '\x7b' then do
      let (entries, cs) ← members (value depth) rest
      let (_, cs) ← Scanner.char '\x7d' cs
      return (.table .inline entries, cs)
    else simple (c :: rest)
where
  /-- A value that holds no other values. -/
  simple : Scanner Item :=
    Scanner.orElse (anyText · |>.map fun (text, rest) => (.text (String.ofList text), rest))
      (Scanner.orElse
        (Scanner.word ['t', 'r', 'u', 'e'] · |>.map fun (_, rest) => (.flag true, rest))
        (Scanner.orElse
          (Scanner.word ['f', 'a', 'l', 's', 'e'] · |>.map fun (_, rest) => (.flag false, rest))
          number))

end Consent.Toml
