set_option autoImplicit false

/-!
# Splitting

Texts that are lists: parts with a separator between them.

## Main definitions

* `Consent.Text.splitWhere` — the parts between the characters with a property.
* `Consent.Text.joinWith` — parts with a separator between them.
-/

namespace Consent.Text

/-- The parts between the characters with a property. -/
def splitWhere (p : Char → Bool) : List Char → List (List Char)
  | [] => [[]]
  | c :: rest =>
    if p c then [] :: splitWhere p rest
    else
      match splitWhere p rest with
      | [] => [[c]]
      | part :: parts => (c :: part) :: parts

/-- Parts with a separator between them. -/
def joinWith (separator : List Char) : List (List Char) → List Char
  | [] => []
  | [part] => part
  | part :: parts => part ++ separator ++ joinWith separator parts

end Consent.Text
