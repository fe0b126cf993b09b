import Consent.Config.Effective
import Consent.Proofs.Config.Fields
import Consent.Proofs.Config.RoundTrip
import Consent.Proofs.Text.Trimming

set_option autoImplicit false

/-!
# The layers of the configuration

A file that is text, reads as lines that make up a table, and fits the known fields, says for each
field what its lines state, and leaves the others at their defaults. Any other file says nothing.
Over the file stand the environment, which may bring an address, and over that the options.

## Main definitions

* `Consent.Config.Reads` — a file reads as some lines, which make up a table.
* `Consent.Config.OfFile` — a configuration is what a file makes of the defaults.
* `Consent.Config.Overlay` — a configuration is what the environment and options make of another.

## Main results

* `Consent.Config.ofFile_isOfFile` — what a file is read as.
* `Consent.Config.configuration_is_layered` — what the effective configuration is.
-/

namespace Consent.Config

open Text Toml

/-- A file is text, and reads as some lines, which make up a table. -/
def Reads (file : Option Bytes) (ls : List Line) (entries : Entries) : Prop :=
  ∃ cs, file = some (Utf8.encode cs) ∧ lines (dropMark cs) = some ls ∧ ofLines ls = some entries

/-- A configuration is what a file makes of the defaults, all or nothing. A file that is missing, or
is not text, or does not read, or does not fit, makes nothing of them. -/
structure OfFile (file : Option Bytes) (config : Config) : Prop where
  nothing : (∀ ls entries, Reads file ls entries → ¬ Fits entries) → config = default
  given : ∀ ls entries, Reads file ls entries → Fits entries →
    ∀ (field : Field) (item : Item), field.Given ls item → field.Denotes item (config.value field)
  absent : ∀ ls entries, Reads file ls entries → Fits entries →
    ∀ field : Field, (∀ item, ¬ field.Given ls item) → config.value field = default.value field

/-- A configuration is what the environment and options make of another one. -/
structure Overlay (base : Config) (environment : Option Bytes) (o : Overrides) (config : Config) :
    Prop where
  baseUrl_option : ∀ url, o.baseUrl = some url → config.server.baseUrl = url
  baseUrl_environment : o.baseUrl = none → ∀ cs, environment = some (Utf8.encode cs) →
    (∃ c ∈ cs, Text.isBlank c = false) → config.server.baseUrl = String.ofList (trim cs)
  baseUrl_base : o.baseUrl = none →
    (∀ cs, environment = some (Utf8.encode cs) → ∀ c ∈ cs, Text.isBlank c = true) →
      config.server.baseUrl = base.server.baseUrl
  endpoint : config.server.endpoint = o.endpoint.getD base.server.endpoint
  timeoutSecs : config.server.timeoutSecs = base.server.timeoutSecs
  userAgent : config.server.userAgent = base.server.userAgent
  observerEnabled : config.observerEnabled = (base.observerEnabled && !o.noObserver)

/-! ### The file -/

variable {file : Option Bytes} {ls : List Line} {entries : Entries} {config : Config}

/-- A file reads in one way. -/
lemma Reads.unique {ls' : List Line} {entries' : Entries} (h : Reads file ls entries)
    (h' : Reads file ls' entries') : ls = ls' ∧ entries = entries' := by
  obtain ⟨cs, rfl, hlines, hentries⟩ := h
  obtain ⟨cs', hfile, hlines', hentries'⟩ := h'
  have hdecode : some cs = some cs' := by
    rw [← Utf8.decode?_encode cs, Option.some.inj hfile, Utf8.decode?_encode]
  obtain rfl := Option.some.inj hdecode
  obtain rfl := Option.some.inj (hlines.symm.trans hlines')
  exact ⟨rfl, Option.some.inj (hentries.symm.trans hentries')⟩

/-- A file describes the configuration that its keys make. -/
lemma bind_ofBytes?_eq_some_iff : file.bind ofBytes? = some config ↔
    ∃ ls entries, Reads file ls entries ∧ ofEntries? entries = some config := by
  constructor
  · intro h
    obtain ⟨bytes, hbytes, h⟩ := Option.bind_eq_some_iff.mp h
    obtain ⟨cs, hdecode, h⟩ := Option.bind_eq_some_iff.mp h
    obtain ⟨entries, hparse, h⟩ := Option.bind_eq_some_iff.mp h
    obtain ⟨ls, hlines, hentries⟩ := Option.bind_eq_some_iff.mp hparse
    exact ⟨ls, entries, ⟨cs, Utf8.decode?_eq_some_iff.mp hdecode ▸ hbytes, hlines, hentries⟩, h⟩
  · rintro ⟨ls, entries, ⟨cs, rfl, hlines, hentries⟩, h⟩
    refine Option.bind_eq_some_iff.mpr ⟨_, rfl, ?_⟩
    refine Option.bind_eq_some_iff.mpr ⟨cs, Utf8.decode?_encode cs, ?_⟩
    refine Option.bind_eq_some_iff.mpr ⟨entries, ?_, h⟩
    exact Option.bind_eq_some_iff.mpr ⟨ls, hlines, hentries⟩

/-- The configuration of a file that reads and fits: each field is read from its keys. -/
lemma read?_of_reads (hread : Reads file ls entries) (hfits : Fits entries) (field : Field) :
    field.read? (field.item? entries) = some ((ofFile file).value field) := by
  obtain ⟨config, hconfig⟩ := exists_ofEntries?_iff.mpr hfits
  have hfile := bind_ofBytes?_eq_some_iff.mpr ⟨ls, entries, hread, hconfig⟩
  rw [ofFile, hfile, Option.getD_some]
  exact (ofEntries?_eq_some_iff.mp hconfig).2 field

/-- **A file makes of the defaults what its lines state**, if it reads and fits, and nothing
otherwise. -/
lemma ofFile_isOfFile (file : Option Bytes) : OfFile file (ofFile file) where
  nothing h := by
    cases hfile : file.bind ofBytes? with
    | none => rw [ofFile, hfile, Option.getD_none]
    | some config =>
      obtain ⟨ls, entries, hread, hentries⟩ := bind_ofBytes?_eq_some_iff.mp hfile
      exact absurd (exists_ofEntries?_iff.mp ⟨config, hentries⟩) (h ls entries hread)
  given ls entries hread hfits field item hgiven := by
    have hfield := read?_of_reads hread hfits field
    obtain ⟨cs, -, hlines, hentries⟩ := hread
    rw [(item?_eq_some_iff hlines hentries hfits).mpr hgiven] at hfield
    rcases Field.read?_eq_some_iff.mp hfield with ⟨hnone, -⟩ | ⟨i, hsome, hdenotes⟩
    · cases hnone
    · rwa [Option.some.inj hsome]
  absent ls entries hread hfits field hnone := by
    have hfield := read?_of_reads hread hfits field
    obtain ⟨cs, -, hlines, hentries⟩ := hread
    rcases Field.read?_eq_some_iff.mp hfield with ⟨-, hdefault⟩ | ⟨i, hsome, -⟩
    · exact hdefault
    · exact absurd ((item?_eq_some_iff hlines hentries hfits).mp hsome) (hnone i)

/-- Files that state the same for the known fields make the same of the defaults. -/
lemma ofFile_eq_of_given {file' : Option Bytes} {ls' : List Line} {entries' : Entries}
    (hread : Reads file ls entries) (hfits : Fits entries) (hread' : Reads file' ls' entries')
    (hfits' : Fits entries')
    (hsame : ∀ (field : Field) (item : Item), field.Given ls item ↔ field.Given ls' item) :
    ofFile file = ofFile file' := by
  refine ext_value fun field => ?_
  have hitem : field.item? entries = field.item? entries' := by
    obtain ⟨cs, -, hlines, hentries⟩ := hread
    obtain ⟨cs', -, hlines', hentries'⟩ := hread'
    ext item
    exact (item?_eq_some_iff hlines hentries hfits).trans
      ((hsame field item).trans (item?_eq_some_iff hlines' hentries' hfits').symm)
  have hfield := read?_of_reads hread hfits field
  rw [hitem, read?_of_reads hread' hfits' field] at hfield
  exact (Option.some.inj hfield).symm

/-! ### The environment and the options -/

/-- An address from the environment is taken without the blanks around it. -/
lemma withEnvironment_of_text {cs : List Char} (h : ∃ c ∈ cs, Text.isBlank c = false)
    (config : Config) : config.withEnvironment (some (Utf8.encode cs)) =
      { config with server.baseUrl := String.ofList (trim cs) } := by
  have hleft : ¬ (trim cs).isEmpty = true := by
    rw [trim_isEmpty_iff]
    obtain ⟨c, hc, hblank⟩ := h
    exact fun hall => by simp [hall c hc] at hblank
  rw [withEnvironment, Option.bind_some, Utf8.decode?_encode]
  exact if_neg hleft

/-- Without one, the configuration stays as it is. -/
lemma withEnvironment_of_blank {environment : Option Bytes}
    (h : ∀ cs, environment = some (Utf8.encode cs) → ∀ c ∈ cs, Text.isBlank c = true)
    (config : Config) : config.withEnvironment environment = config := by
  rw [withEnvironment]
  split
  · rfl
  · rename_i cs hdecode
    obtain ⟨bytes, hbytes, hdecode⟩ := Option.bind_eq_some_iff.mp hdecode
    rw [Utf8.decode?_eq_some_iff.mp hdecode] at hbytes
    exact if_pos (trim_isEmpty_iff.mpr (h cs hbytes))

/-- The environment brings an address only. -/
lemma withEnvironment_frame (environment : Option Bytes) (config : Config) :
    ∃ url, config.withEnvironment environment = { config with server.baseUrl := url } := by
  rw [withEnvironment]
  split
  · exact ⟨_, rfl⟩
  · split
    · exact ⟨_, rfl⟩
    · exact ⟨_, rfl⟩

/-- **The environment and options make an overlay.** -/
lemma layered_isOverlay (file environment : Option Bytes) (o : Overrides) :
    Overlay (ofFile file) environment o (layered file environment o) := by
  obtain ⟨url, hframe⟩ := withEnvironment_frame environment (ofFile file)
  refine ⟨fun url hurl => ?_, fun hnone cs henvironment htext => ?_, fun hnone hblank => ?_, ?_, ?_,
    ?_, ?_⟩
  · simp [layered, withOverrides, hurl]
  · rw [layered, henvironment, withEnvironment_of_text htext]
    simp [withOverrides, hnone]
  · rw [layered, withEnvironment_of_blank hblank]
    simp [withOverrides, hnone]
  all_goals rw [layered, hframe, withOverrides]

/-- **The effective configuration is made in layers, and all or nothing by the file.** The file
makes of the defaults what its lines state for the known fields, if it reads and fits, and nothing
otherwise; so files that state the same for them, in whichever order and with whatever else, make
the same. The environment and the options are laid over that. The result is the effective
configuration if it can be used, and else its fault is the error.

**Proof sketch.** The keys of a file hold for each field what its lines state
(`item?_eq_some_iff`), and a configuration is read from them field by field
(`ofEntries?_eq_some_iff`). -/
theorem configuration_is_layered (file environment : Option Bytes) (o : Overrides) :
    OfFile file (ofFile file) ∧
    (∀ ls entries, Reads file ls entries → Fits entries →
      ∀ file' ls' entries', Reads file' ls' entries' → Fits entries' →
        (∀ (field : Field) (item : Item), field.Given ls item ↔ field.Given ls' item) →
          ofFile file = ofFile file') ∧
    Overlay (ofFile file) environment o (layered file environment o) ∧
    (∀ config, effective file environment o = .ok config ↔
      config = layered file environment o ∧ config.check = .ok ()) ∧
    ∀ e, effective file environment o = .error e ↔
      (layered file environment o).check = .error e := by
  refine ⟨ofFile_isOfFile file, fun ls entries hread hfits file' ls' entries' hread' hfits' =>
    ofFile_eq_of_given hread hfits hread' hfits', layered_isOverlay file environment o,
    fun config => ?_, fun e => ?_⟩
  · rw [effective]
    cases hcheck : (layered file environment o).check with
    | ok u =>
      refine ⟨fun h => ?_, fun h => ?_⟩
      · obtain rfl := Except.ok.inj h
        exact ⟨rfl, hcheck⟩
      · rw [h.1]
        rfl
    | error e =>
      refine iff_of_false nofun ?_
      rintro ⟨rfl, hok⟩
      cases hcheck.symm.trans hok
  · rw [effective]
    cases hcheck : (layered file environment o).check with
    | ok u => exact iff_of_false nofun nofun
    | error e' =>
      exact ⟨fun h => congrArg _ (Except.error.inj h), fun h => congrArg _ (Except.error.inj h)⟩

/-- Lines that state a timeout. -/
def timeoutLines : List (List Char × Option Line) :=
  [(header "server", some (.table [] "server")),
    (setting "timeout_secs" ['5'], some (.assignment ([], "timeout_secs", .integer 5)))]

/-- Lines that state something unknown. -/
def volumeLines : List (List Char × Option Line) :=
  [(header "observer", some (.table [] "observer")),
    (setting "volume" ['9'], some (.assignment ([], "volume", .integer 9)))]

/-- The file with some lines. -/
def fileOf (written : List (List Char × Option Line)) : Option Bytes :=
  some (Utf8.encode (written.flatMap Prod.fst))

/-- A file with these lines, in whichever order, reads as them. -/
lemma reads_fileOf {written : List (List Char × Option Line)}
    (hperm : written.Perm (timeoutLines ++ volumeLines))
    (hmark : dropMark (written.flatMap Prod.fst) = written.flatMap Prod.fst)
    (hls : (written.map Prod.snd).reduceOption = ls) (hentries : ofLines ls = some entries) :
    Reads (fileOf written) ls entries := by
  refine ⟨_, rfl, ?_, hentries⟩
  rw [hmark, ← hls]
  have hcases : ∀ l ∈ written, l ∈ timeoutLines ++ volumeLines := fun l => hperm.mem_iff.mp
  simp only [timeoutLines, volumeLines, List.cons_append, List.nil_append, List.mem_cons,
    List.not_mem_nil, or_false] at hcases
  have hdigit : ∀ {n : Nat}, n < 10 → ReadOnLine (Decimal.digits n) (.integer n) := fun hn =>
    readOnLine_digits (Nat.lt_trans hn (by decide))
  refine lines_flatMap (fun l hl rest => ?_) fun l hl => ?_
  · rcases hcases l hl with rfl | rfl | rfl | rfl
    · exact line_header (isBare_toList (by decide) (by decide)) rest
    · exact line_setting (isBare_toList (by decide) (by decide)) (hdigit (by decide : 5 < 10)) rest
    · exact line_header (isBare_toList (by decide) (by decide)) rest
    · exact line_setting (isBare_toList (by decide) (by decide)) (hdigit (by decide : 9 < 10)) rest
  · rcases hcases l hl with rfl | rfl | rfl | rfl <;> simp [header, setting]

/-- The lines of the file with the unknown group first. -/
def volumeFirst : List Line :=
  [.table [] "observer", .assignment ([], "volume", .integer 9), .table [] "server",
    .assignment ([], "timeout_secs", .integer 5)]

/-- The lines of the file with the known group first. -/
def timeoutFirst : List Line :=
  [.table [] "server", .assignment ([], "timeout_secs", .integer 5), .table [] "observer",
    .assignment ([], "volume", .integer 9)]

/-- Both files read and fit. -/
lemma reads_either :
    (∃ entries, Reads (fileOf (volumeLines ++ timeoutLines)) volumeFirst entries ∧ Fits entries) ∧
    ∃ entries, Reads (fileOf (timeoutLines ++ volumeLines)) timeoutFirst entries ∧ Fits entries :=
  ⟨⟨[("observer", .table .header [("volume", .integer 9)]),
      ("server", .table .header [("timeout_secs", .integer 5)])],
      reads_fileOf List.perm_append_comm rfl rfl rfl, exists_ofEntries?_iff.mp ⟨_, rfl⟩⟩,
    ⟨[("server", .table .header [("timeout_secs", .integer 5)]),
      ("observer", .table .header [("volume", .integer 9)])],
      reads_fileOf (.refl _) rfl rfl rfl, exists_ofEntries?_iff.mp ⟨_, rfl⟩⟩⟩

/-- What both files state. -/
lemma given_either {field : Field} {item : Item} :
    (field.Given volumeFirst item ↔ field = .timeoutSecs ∧ item = .integer 5) ∧
    (field.Given timeoutFirst item ↔ field = .timeoutSecs ∧ item = .integer 5) := by
  cases field <;> simp [Field.Given, statements, statementsBelow, volumeFirst, timeoutFirst,
    Assignment.statement, Field.group, Field.key]

/-- An address from the environment and an endpoint from the options are laid over a file that
states another timeout and something unknown. The user agent keeps its default, and the observer is
off. The file makes the same of the defaults with its groups in the other order, and a missing file
makes nothing of them. -/
theorem unordered_file_is_layered :
    effective (fileOf (volumeLines ++ timeoutLines))
      (some (Utf8.encode " https://a.example\n".toList)) ⟨none, some "/consent", true⟩ =
        .ok ⟨⟨"https://a.example", "/consent", 5, "consentsync/0.1.0"⟩, false⟩ ∧
    ofFile (fileOf (volumeLines ++ timeoutLines)) = ofFile (fileOf (timeoutLines ++ volumeLines)) ∧
    ofFile none = default := by
  obtain ⟨hfile, horder, hoverlay, heffective, -⟩ := configuration_is_layered
    (fileOf (volumeLines ++ timeoutLines)) (some (Utf8.encode " https://a.example\n".toList))
    ⟨none, some "/consent", true⟩
  obtain ⟨hmissing, -⟩ := configuration_is_layered none none ⟨none, none, false⟩
  obtain ⟨⟨_, hread, hfits⟩, _, hread', hfits'⟩ := reads_either
  have hbase := hoverlay.baseUrl_environment rfl _ rfl ⟨'h', by decide +kernel, by decide +kernel⟩
  have hshown : String.ofList (trim " https://a.example\n".toList) = "https://a.example" := by
    decide +kernel
  have htimeout := hfile.given _ _ hread hfits .timeoutSecs _ (given_either.1.mpr ⟨rfl, rfl⟩)
  have hagent := hfile.absent _ _ hread hfits .userAgent fun _ hgiven =>
    nomatch (given_either.1.mp hgiven).1
  refine ⟨(heffective _).mpr ⟨ext_value fun field => ?_, by decide +kernel⟩,
    horder _ _ hread hfits _ _ _ hread' hfits' fun _ _ =>
      given_either.1.trans given_either.2.symm,
    hmissing.nothing fun ls entries hnone => ?_⟩
  · cases field with
    | baseUrl => exact (hbase.trans hshown).symm
    | endpoint => exact hoverlay.endpoint.symm
    | timeoutSecs =>
      exact (Int.ofNat.inj (Item.integer.inj htimeout)).trans hoverlay.timeoutSecs.symm
    | userAgent => exact (hoverlay.userAgent.trans hagent).symm
    | observerEnabled => exact (hoverlay.observerEnabled.trans (Bool.and_false _)).symm
  · obtain ⟨cs, habsurd, -⟩ := hnone
    cases habsurd

end Consent.Config
