import Consent.Proofs.Text.Utf8
import Consent.SyncError

set_option autoImplicit false

/-!
# What a failure keeps of a body

A failure keeps the start of a body: all of a text that is short enough, and else as many characters
as fit and an ellipsis. A text is cut at an octet, and this octet is always the first one of a
character. Since a character is read from four octets at most, the octets that come late in a long
body are not in the failure in any way.

## Main results

* `Consent.SyncError.snippet_of_le`, `Consent.SyncError.snippet_of_lt` — the start of a body in
  characters.
* `Consent.SyncError.snippet_more` — late octets do not change it.
* `Consent.SyncError.body_is_cut_between_characters` — bodies are cut safely and boundedly.
-/

namespace Consent.SyncError

variable {body : Bytes}

/-! ### Octets and characters -/

/-- A text is not cut if all of its characters are kept. -/
lemma cut?_eq_none_iff {text : List Char} : cut? text = none ↔ text.length ≤ snippetLength := by
  rw [cut?, Utf8.getElem?_charIndices, Option.map_map, Option.map_eq_none_iff,
    List.getElem?_eq_none_iff]

/-- Before the octet at which a text is cut are the characters that are kept. -/
lemma copy_sliceTo_cut {text : List Char} {index : Nat} (h : cut? text = some index) :
    ((String.ofList text).sliceTo ((String.ofList text).pos ⟨index⟩ (isValid_of_cut? h))).copy =
      String.ofList (text.take snippetLength) := by
  have hsplits : ((String.ofList text).pos ⟨index⟩ (isValid_of_cut? h)).Splits
      (String.ofList (text.take snippetLength)) (String.ofList (text.drop snippetLength)) := by
    constructor
    · rw [← String.ofList_append, List.take_append_drop]
    · obtain ⟨-, rfl⟩ := cut?_eq_some_iff.mp h
      rfl
  exact hsplits.copy_sliceTo_eq

/-- A short text is kept as it is. -/
lemma snippet_of_le (h : (Utf8.decodeLossy body).length ≤ snippetLength) :
    snippet body = String.ofList (Utf8.decodeLossy body) := by
  have hnone := cut?_eq_none_iff.mpr h
  simp only [snippet]
  split
  · rename_i hsome
    cases hnone.symm.trans hsome
  · rfl

/-- Of a long text the first characters are kept, and an ellipsis stands for the others. -/
lemma snippet_of_lt (h : snippetLength < (Utf8.decodeLossy body).length) :
    snippet body = String.ofList ((Utf8.decodeLossy body).take snippetLength ++ ['…']) := by
  simp only [snippet]
  split
  · rename_i hsome
    rw [copy_sliceTo_cut hsome, String.ofList_append]
  · rename_i hnone
    exact absurd (cut?_eq_none_iff.mp hnone) (Nat.not_le.mpr h)

/-- At most one character more than fit is kept. -/
lemma length_snippet_le (body : Bytes) : (snippet body).length ≤ snippetLength + 1 := by
  rcases Nat.lt_or_ge snippetLength (Utf8.decodeLossy body).length with hlong | hshort
  · refine Nat.le_of_eq ?_
    rw [snippet_of_lt hlong, String.length_ofList, List.length_append,
      List.length_take_of_le (Nat.le_of_lt hlong), List.length_singleton]
  · rw [snippet_of_le hshort, String.length_ofList]
    exact Nat.le_succ_of_le hshort

/-! ### Late octets -/

/-- **Late octets do not change the start of a body.** They come behind four octets for each of the
characters that are kept, and one more.

**Proof sketch.** Four octets for each of the characters that are kept tell these, and the one octet
more that there are others (`Utf8.exists_decodeLossy_more`), so the text is cut behind the same
characters, whatever the others are. -/
lemma snippet_more {front : Bytes} (hfront : 4 * snippetLength < front.length)
    (more more' : Bytes) : snippet (front ++ more) = snippet (front ++ more') := by
  obtain ⟨kept, hkept, hmore⟩ := Utf8.exists_decodeLossy_more snippetLength hfront
  have hcut : ∀ more, snippet (front ++ more) = String.ofList (kept ++ ['…']) := by
    intro more
    obtain ⟨c, left, htext⟩ := hmore more
    have hlong : snippetLength < (Utf8.decodeLossy (front ++ more)).length := by
      rw [htext, List.length_append, List.length_cons, hkept]
      omega
    rw [snippet_of_lt hlong, htext, List.take_left' hkept]
  rw [hcut, hcut]

/-- **Bodies are cut safely and boundedly.** A failure keeps a text of at most 256 characters as it
is, and of a longer one exactly the first 256 characters and an ellipsis. The octet at which the
longer one is cut is the first of a character, and what is kept are the octets before it. Nothing
behind the first 1028 octets of a body is in the failure in any way.

**Proof sketch.** The octet is the number of octets of the characters that are kept
(`cut?_eq_some_iff`), so these are what stands before it (`copy_sliceTo_cut`). Late octets do not
change what is kept (`snippet_more`). -/
theorem body_is_cut_between_characters (operation : Operation) (status : Nat) :
    (∀ body : Bytes,
      let text := Utf8.decodeLossy body
      ∃ kept, ofStatus operation status body = unexpectedStatus operation status kept ∧
        kept.length ≤ 257 ∧
        (text.length ≤ 256 → cut? text = none ∧ kept = String.ofList text) ∧
        (256 < text.length → kept = String.ofList (text.take 256 ++ ['…']) ∧
          ∃ index, cut? text = some index ∧
            (⟨index⟩ : String.Pos.Raw).IsValid (String.ofList text) ∧
            Utf8.ofString kept = (Utf8.encode text).take index ++ Utf8.ofString "…")) ∧
    ∀ front more more' : Bytes, 1028 ≤ front.length →
      ofStatus operation status (front ++ more) = ofStatus operation status (front ++ more') := by
  constructor
  · intro body text
    refine ⟨snippet body, rfl, length_snippet_le body, fun hshort => ?_, fun hlong => ?_⟩
    · exact ⟨cut?_eq_none_iff.mpr hshort, snippet_of_le hshort⟩
    · have hcut := cut?_eq_some_iff.mpr ⟨hlong, rfl⟩
      refine ⟨snippet_of_lt hlong, _, hcut, isValid_of_cut? hcut, ?_⟩
      rw [snippet_of_lt hlong, Utf8.ofString, String.toList_ofList, Utf8.encode_append,
        Utf8.take_encode]
      rfl
  · intro front more more' hfront
    have hlate : 4 * snippetLength < front.length := by
      rw [snippetLength]
      omega
    rw [ofStatus, ofStatus, snippet_more hlate]

/-- The octets of some faces, four for each of them. -/
def faces (count : Nat) : Bytes := Utf8.encode (List.replicate count '😀')

/-- The start of a face behind 255 faces becomes the last character that is kept, behind 256 faces
it is cut off. After 1028 octets it makes no difference whether the face is completed. -/
theorem broken_face_is_kept_or_cut :
    ofStatus .fetch 502 (faces 255 ++ [0xf0, 0x9f]) =
      unexpectedStatus .fetch 502 (String.ofList (List.replicate 255 '😀' ++ ['\ufffd'])) ∧
    ofStatus .fetch 502 (faces 256 ++ [0xf0, 0x9f]) =
      unexpectedStatus .fetch 502 (String.ofList (List.replicate 256 '😀' ++ ['…'])) ∧
    ofStatus .fetch 502 (Ascii.octet 'a' :: faces 256 ++ [0xf0, 0x9f, 0x98] ++ [0x80]) =
      ofStatus .fetch 502 (Ascii.octet 'a' :: faces 256 ++ [0xf0, 0x9f, 0x98] ++ [0x22]) := by
  have htext : ∀ count, Utf8.decodeLossy (faces count ++ [0xf0, 0x9f]) =
      List.replicate count '😀' ++ ['\ufffd'] := by
    intro count
    have hbroken : Utf8.pieces [0xf0, 0x9f] = [none] := by decide +kernel
    rw [Utf8.decodeLossy, faces, Utf8.pieces_encode_append, hbroken, List.map_append, List.map_map]
    exact congrArg (· ++ _) (List.map_id _)
  obtain ⟨hbodies, hmore⟩ := body_is_cut_between_characters .fetch 502
  refine ⟨?_, ?_, ?_⟩
  · obtain ⟨kept, hkept, -, hshort, -⟩ := hbodies (faces 255 ++ [0xf0, 0x9f])
    rw [hkept, (hshort ?_).2, htext]
    rw [htext, List.length_append, List.length_replicate]
    decide
  · obtain ⟨kept, hkept, -, -, hlong⟩ := hbodies (faces 256 ++ [0xf0, 0x9f])
    rw [hkept, (hlong ?_).1, htext, List.take_left' List.length_replicate]
    rw [htext, List.length_append, List.length_replicate]
    decide
  · exact hmore (Ascii.octet 'a' :: faces 256 ++ [0xf0, 0x9f, 0x98]) [0x80] [0x22]
      (by decide +kernel)

end Consent.SyncError
