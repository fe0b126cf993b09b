import Consent.Text.Split
import Consent.Url.Percent

set_option autoImplicit false

/-!
# Paths

A path is a list of segments. While it is read, a segment of two dots takes the last segment away
and a segment of one dot stands for nothing; a dot may be percent-encoded. At the end of a path
either of them leaves an empty segment. Two dots never take a drive letter away.

## Main definitions

* `Consent.Url.Path` — segments, or a text without hierarchy.
* `Consent.Url.Path.shorten` — the path without its last segment.
* `Consent.Url.Path.append` — the path with segments as they are read.
-/

namespace Consent.Url

/-- A path. -/
inductive Path where
  /-- A text without hierarchy. -/
  | opaqueText (s : String)
  /-- Segments, each behind a slash. -/
  | segments (names : List String)
deriving DecidableEq, Repr

namespace Path

/-- The text with its encoded dots decoded. -/
def decodeDots : List Char → List Char
  | [] => []
  | [a] => [a]
  | [a, b] => [a, b]
  | a :: b :: c :: rest =>
    if a = '%' && b = '2' && (c = 'e' || c = 'E') then '.' :: decodeDots rest
    else a :: decodeDots (b :: c :: rest)

/-- Whether a segment names a drive: a letter and a colon or a bar. -/
def isDriveLetter : List Char → Bool
  | [a, b] => a.isAlpha && (b = ':' || b = '|')
  | _ => false

/-- The segments without the last one, unless that names a drive. -/
def shorten (names : List String) : List String :=
  match names.getLast? with
  | none => []
  | some last => if isDriveLetter last.toList then names else names.dropLast

/-- The segments with one more, as it is read. -/
def push (names : List String) (raw : List Char) (isLast : Bool) : List String :=
  let name := percentEncode Octets.path raw
  let tail := if isLast then [""] else []
  if decodeDots name = ['.', '.'] then shorten names ++ tail
  else if decodeDots name = ['.'] then names ++ tail
  else names ++ [String.ofList name]

/-- The segments with more of them, as they are read. -/
def append (names : List String) : List (List Char) → List String
  | [] => names
  | [raw] => push names raw true
  | raw :: next :: rest => append (push names raw false) (next :: rest)

/-- The segments of a path of files: no empty ones at the front, and a colon behind the letter of a
drive. -/
def tidy (names : List String) : List String :=
  match names.dropWhile (·.isEmpty) with
  | [] => [""]
  | first :: rest =>
    if isDriveLetter first.toList then String.ofList (first.toList.take 1 ++ [':']) :: rest
    else first :: rest

/-- A path in writing. -/
def text : Path → List Char
  | opaqueText s => s.toList
  | segments names => names.flatMap fun name => '/' :: name.toList

end Path

end Consent.Url
