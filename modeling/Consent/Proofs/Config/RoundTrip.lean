import Consent.Config.File
import Consent.Proofs.Text.Utf8
import Consent.Proofs.Toml.Lines

set_option autoImplicit false

/-!
# Configuration files are read back

The file of a configuration has a line for each header and each setting. Every line is read back,
whatever the texts of the configuration hold, and together the lines describe the configuration.

## Main definitions

* `Consent.Config.writtenLines` — the lines of a file, and what they say.

## Main results

* `Consent.Config.lines_write` — the lines are read back.
* `Consent.Config.written_file_is_read_back` — the configuration is.
-/

namespace Consent.Config

open Toml

variable (config : Config)

/-! ### Lines -/

/-- The lines of the file of a configuration, and what they say. -/
def writtenLines : List (List Char × Option Line) :=
  [(header "server", some (.table [] "server")),
    (setting "base_url" (writeText config.server.baseUrl.toList),
      some (.assignment ([], "base_url", .text config.server.baseUrl))),
    (setting "endpoint" (writeText config.server.endpoint.toList),
      some (.assignment ([], "endpoint", .text config.server.endpoint))),
    (setting "timeout_secs" (Decimal.digits config.server.timeoutSecs),
      some (.assignment ([], "timeout_secs", .integer config.server.timeoutSecs))),
    (setting "user_agent" (writeText config.server.userAgent.toList),
      some (.assignment ([], "user_agent", .text config.server.userAgent))),
    (['\n'], none),
    (header "observer", some (.table [] "observer")),
    (setting "enabled" (toString config.observerEnabled).toList,
      some (.assignment ([], "enabled", .flag config.observerEnabled)))]

/-- The file is made of these lines. -/
lemma write_eq_flatMap : config.write = config.writtenLines.flatMap Prod.fst := by
  simp only [write, writtenLines, List.flatMap_cons, List.flatMap_nil, List.append_nil,
    List.append_assoc]

/-- A key that is written without quotes. -/
lemma isBare_toList {key : String} (hne : key.toList ≠ [])
    (hbare : key.toList.all isBareChar = true) : IsBare key.toList :=
  ⟨hne, List.all_eq_true.mp hbare⟩

/-- The line of a setting is read back. -/
lemma line_setting {key : String} (hkey : IsBare key.toList) {written : List Char} {item : Item}
    (hvalue : ReadOnLine written item) (rest : List Char) :
    line (setting key written ++ rest) = some (some (.assignment ([], key, item)), rest) := by
  have hread := line_assignment hkey hvalue rest
  rwa [String.ofList_toList] at hread

/-- The line of a header is read back. -/
lemma line_header {key : String} (hkey : IsBare key.toList) (rest : List Char) :
    line (header key ++ rest) = some (some (.table [] key), rest) := by
  have hread := line_table hkey rest
  rwa [String.ofList_toList] at hread

/-- Each line of the file is read back. -/
lemma line_written (hn : config.server.timeoutSecs ≤ greatestInteger) :
    ∀ l ∈ config.writtenLines, ∀ rest, line (l.1 ++ rest) = some (l.2, rest) := by
  intro l hl rest
  have hbound : config.server.timeoutSecs < Nat.pow 2 63 := Nat.lt_of_le_pred (by decide) hn
  simp only [writtenLines, List.mem_cons, List.not_mem_nil, or_false] at hl
  rcases hl with rfl | rfl | rfl | rfl | rfl | rfl | rfl | rfl
  · exact line_header (isBare_toList (by decide) (by decide)) rest
  · exact line_setting (isBare_toList (by decide) (by decide)) (readOnLine_text _) rest
  · exact line_setting (isBare_toList (by decide) (by decide)) (readOnLine_text _) rest
  · exact line_setting (isBare_toList (by decide) (by decide)) (readOnLine_digits hbound) rest
  · exact line_setting (isBare_toList (by decide) (by decide)) (readOnLine_text _) rest
  · exact line_empty rest
  · exact line_header (isBare_toList (by decide) (by decide)) rest
  · exact line_setting (isBare_toList (by decide) (by decide)) (readOnLine_flag _) rest

/-- **The lines of the file are read back.** -/
lemma lines_write (hn : config.server.timeoutSecs ≤ greatestInteger) :
    lines config.write = some (config.writtenLines.map Prod.snd).reduceOption := by
  rw [write_eq_flatMap]
  refine lines_flatMap (line_written config hn) fun l hl => ?_
  simp only [writtenLines, List.mem_cons, List.not_mem_nil, or_false] at hl
  rcases hl with rfl | rfl | rfl | rfl | rfl | rfl | rfl | rfl <;> simp [header, setting]

/-! ### The configuration -/

/-- The keys that the lines describe. -/
def writtenEntries : Entries :=
  [("server", .table .header [("base_url", .text config.server.baseUrl),
      ("endpoint", .text config.server.endpoint),
      ("timeout_secs", .integer config.server.timeoutSecs),
      ("user_agent", .text config.server.userAgent)]),
    ("observer", .table .header [("enabled", .flag config.observerEnabled)])]

/-- The lines describe these keys. -/
lemma ofLines_written :
    ofLines (config.writtenLines.map Prod.snd).reduceOption = some config.writtenEntries := rfl

/-- The keys describe the configuration. -/
lemma ofEntries?_written : ofEntries? config.writtenEntries = some config := by
  have hcount : count? ServerConfig.default.timeoutSecs
      (some (.integer config.server.timeoutSecs)) = some config.server.timeoutSecs := by
    rw [count?, if_pos (Int.natCast_nonneg _), Int.toNat_natCast]
  have hserver : server? (config.writtenEntries.find? "server") = some config.server := by
    rw [server?]
    refine Option.bind_eq_some_iff.mpr ⟨_, rfl, ?_⟩
    refine Option.bind_eq_some_iff.mpr ⟨config.server.baseUrl, rfl, ?_⟩
    refine Option.bind_eq_some_iff.mpr ⟨config.server.endpoint, rfl, ?_⟩
    refine Option.bind_eq_some_iff.mpr ⟨config.server.timeoutSecs, hcount, ?_⟩
    exact Option.bind_eq_some_iff.mpr ⟨config.server.userAgent, rfl, rfl⟩
  have hobserver : observer? (config.writtenEntries.find? "observer") =
      some config.observerEnabled := rfl
  simp only [ofEntries?, hserver, hobserver, Option.bind_eq_bind, Option.bind_some, Option.pure_def]

/-- **A configuration is read back from the file that describes it**, whatever its texts hold. The
file is not empty.

**Proof sketch.** The file decodes to its characters, these are lines that are read back
(`lines_write`), and the lines describe the configuration. -/
theorem written_file_is_read_back (hn : config.server.timeoutSecs ≤ greatestInteger) :
    config.file ≠ "" ∧ ofFile (some (Utf8.ofString config.file)) = config := by
  have hfile : config.file = String.ofList config.write := if_pos hn
  have hparse : parse config.write = some config.writtenEntries := by
    have hmark : dropMark config.write = config.write := rfl
    rw [parse, hmark, lines_write config hn, Option.bind_some, ofLines_written]
  have hbytes : ofBytes? (Utf8.ofString config.file) = some config := by
    rw [hfile, Utf8.ofString, String.toList_ofList]
    simp only [ofBytes?, Utf8.decode?_encode, hparse, ofEntries?_written, Option.bind_eq_bind,
      Option.bind_some]
  refine ⟨fun hempty => ?_, ?_⟩
  · have hnone : config.write = [] := by
      rw [hfile] at hempty
      simpa using congrArg String.toList hempty
    exact absurd hnone (by simp [write, header])
  · rw [ofFile, Option.bind_some, hbytes, Option.getD_some]

/-- A configuration with quotes in rows, both kinds of them, backslashes, ends of lines and other
controls in its texts, and the greatest timeout that a file can hold. -/
def awkward : Config where
  server := ⟨"\"\"\"'''\\\n\"\"", "'\"\t\r\x00\x7f\u2028\ufeff", greatestInteger, ""⟩
  observerEnabled := false

/-- Such a configuration is read back. -/
theorem awkward_file_is_read_back :
    awkward.server.timeoutSecs ≤ greatestInteger ∧ awkward.file ≠ "" ∧
      ofFile (some (Utf8.ofString awkward.file)) = awkward :=
  ⟨Nat.le_refl _, written_file_is_read_back awkward (Nat.le_refl _)⟩

end Consent.Config
