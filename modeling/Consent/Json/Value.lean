import Consent.Json.Text

set_option autoImplicit false

/-!
# Values and their compact form

A JSON value of any kind, and its form without blanks. The members of an object are written in
the order of their keys, so equal values have equal forms.

## Main definitions

* `Consent.Json.writeList`, `Consent.Json.writeObject` — lists and objects of written values.
* `Consent.Json.Value` — a value of any kind.
* `Consent.Json.Value.write` — its compact form.
-/

namespace Consent.Json

open Decimal

/-- A list of written values. -/
def writeList (elements : List (List Char)) : List Char :=
  ['['] ++ List.intercalate [','] elements ++ [']']

/-- An object of written values, in the given order. -/
def writeObject (members : List (String × List Char)) : List Char :=
  ['\x7b'] ++ List.intercalate [','] (members.map fun (key, v) => quote key ++ ':' :: v) ++ ['\x7d']

/-- A written truth value. -/
def writeFlag (b : Bool) : List Char :=
  if b then ['t', 'r', 'u', 'e'] else ['f', 'a', 'l', 's', 'e']

/-- A value of any kind. -/
inductive Value where
  | null
  | flag (b : Bool)
  | integer (n : Int)
  | float (x : Binary64)
  | text (s : String)
  | list (elements : List Value)
  /-- Members with distinct keys. -/
  | object (members : List (String × Value))
deriving Inhabited

mutual

/-- The compact form of a value. -/
def Value.write : Value → List Char
  | .null => ['n', 'u', 'l', 'l']
  | .flag b => writeFlag b
  | .integer n => (toString n).toList
  | .float x => x.text.toList
  | .text s => quote s
  | .list elements => writeList (writeEach elements)
  | .object members =>
    writeObject ((writeMembers members).mergeSort fun a b => decide (a.1 ≤ b.1))

/-- The compact forms of some values. -/
def Value.writeEach : List Value → List (List Char)
  | [] => []
  | v :: vs => v.write :: writeEach vs

/-- The compact forms of the values of some members. -/
def Value.writeMembers : List (String × Value) → List (String × List Char)
  | [] => []
  | (key, v) :: ms => (key, v.write) :: writeMembers ms

end

end Consent.Json
