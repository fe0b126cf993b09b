import Consent.Config
import Consent.Proofs.Toml.Statements

set_option autoImplicit false

/-!
# The fields of a configuration file

A file states a field under the key of the field in its group, or as a part of a value that is
stated for the whole group: the member of an inline table with that key, or the element of a list
at its place. The keys of a file make a configuration if what is stated for the known fields has
their types. Each field is then what is stated for it, or else its default.

## Main definitions

* `Consent.Config.Field` — the fields, where they are stated, and what their values denote.
* `Consent.Config.Field.Given` — what the lines of a file state for a field.
* `Consent.Config.Fits` — what is stated for the known fields has their types.

## Main results

* `Consent.Config.ofEntries?_eq_some_iff` — which configuration some keys make.
* `Consent.Config.item?_eq_some_iff` — the keys hold for a field what the lines state for it.
-/

namespace Consent.Config

open Toml

/-! ### Fields -/

/-- The fields of a configuration. -/
inductive Field where
  | baseUrl
  | endpoint
  | timeoutSecs
  | userAgent
  | observerEnabled
deriving DecidableEq

namespace Field

/-- The type of a field. -/
def Value : Field → Type
  | baseUrl => String
  | endpoint => String
  | timeoutSecs => Nat
  | userAgent => String
  | observerEnabled => Bool

/-- The group of a field. -/
def group : Field → String
  | observerEnabled => "observer"
  | _ => "server"

/-- The key of a field in its group. -/
def key : Field → String
  | baseUrl => "base_url"
  | endpoint => "endpoint"
  | timeoutSecs => "timeout_secs"
  | userAgent => "user_agent"
  | observerEnabled => "enabled"

/-- The place of a field in a list of its group. -/
def place : Field → Nat
  | baseUrl => 0
  | endpoint => 1
  | timeoutSecs => 2
  | userAgent => 3
  | observerEnabled => 0

/-- An item has the type of a field, and denotes the given value. -/
def Denotes : (field : Field) → Item → field.Value → Prop
  | baseUrl, item, s => item = .text s
  | endpoint, item, s => item = .text s
  | timeoutSecs, item, n => item = .integer (Int.ofNat n)
  | userAgent, item, s => item = .text s
  | observerEnabled, item, b => item = .flag b

end Field

/-- A field of a configuration. -/
def value (config : Config) : (field : Field) → field.Value
  | .baseUrl => config.server.baseUrl
  | .endpoint => config.server.endpoint
  | .timeoutSecs => config.server.timeoutSecs
  | .userAgent => config.server.userAgent
  | .observerEnabled => config.observerEnabled

/-- A configuration is told by its fields. -/
lemma ext_value {config config' : Config} (h : ∀ field, config.value field = config'.value field) :
    config = config' := by
  have hbase : config.server.baseUrl = config'.server.baseUrl := h .baseUrl
  have hendpoint : config.server.endpoint = config'.server.endpoint := h .endpoint
  have htimeout : config.server.timeoutSecs = config'.server.timeoutSecs := h .timeoutSecs
  have hagent : config.server.userAgent = config'.server.userAgent := h .userAgent
  have henabled : config.observerEnabled = config'.observerEnabled := h .observerEnabled
  cases config with
  | mk server enabled =>
    cases config' with
    | mk server' enabled' =>
      cases server
      cases server'
      simp_all

/-! ### What is stated -/

/-- The part of an item for a group, under a key or at a place. -/
def part (key : String) (place : Nat) : Item → Option Item
  | .table _ entries => Entries.find? entries key
  | .list elements => elements[place]?
  | _ => none

/-- The lines of a file state an item for a field: under its key, or as a part of its group. -/
def Field.Given (field : Field) (ls : List Line) (item : Item) : Prop :=
  ([field.group, field.key], item) ∈ statements ls ∨
    ∃ whole, ([field.group], whole) ∈ statements ls ∧ part field.key field.place whole = some item

/-- What the keys of a file hold for a field. -/
def Field.item? (field : Field) (entries : Entries) : Option Item :=
  (entries.find? field.group).bind (part field.key field.place)

/-- An item can stand for a group. A date can, too: it has none of the fields. -/
def IsGroup : Item → Prop
  | .table _ _ => True
  | .list _ => True
  | .dateTime => True
  | _ => False

/-- What the keys of a file hold for the known fields has their types. -/
structure Fits (entries : Entries) : Prop where
  grouped : ∀ field : Field, ∀ item ∈ entries.find? field.group, IsGroup item
  typed : ∀ field : Field, ∀ item ∈ field.item? entries, ∃ a, field.Denotes item a

/-! ### Reading the fields -/

/-- Reads a field, or takes its default. -/
def Field.read? : (field : Field) → Option Item → Option field.Value
  | baseUrl => text? ServerConfig.default.baseUrl
  | endpoint => text? ServerConfig.default.endpoint
  | timeoutSecs => count? ServerConfig.default.timeoutSecs
  | userAgent => text? ServerConfig.default.userAgent
  | observerEnabled => flag? default.observerEnabled

/-- A text is the one that is there, or the one for a missing key. -/
lemma text?_eq_some_iff {missing s : String} {item : Option Item} :
    text? missing item = some s ↔ item = none ∧ s = missing ∨ item = some (.text s) := by
  unfold text?
  split
  · simp [eq_comm]
  · simp [eq_comm]
  · rename_i htext
    simpa using fun h => htext s h

/-- A count is the one that is there, or the one for a missing key. -/
lemma count?_eq_some_iff {missing n : Nat} {item : Option Item} :
    count? missing item = some n ↔
      item = none ∧ n = missing ∨ item = some (.integer (Int.ofNat n)) := by
  unfold count?
  split
  · simp [eq_comm]
  · rename_i k
    simp only [Option.ite_none_right_eq_some, Option.some.injEq, reduceCtorEq, false_and,
      Item.integer.injEq, false_or]
    constructor
    · rintro ⟨hnonneg, rfl⟩
      exact (Int.toNat_of_nonneg hnonneg).symm
    · rintro rfl
      exact ⟨Int.natCast_nonneg n, rfl⟩
  · rename_i hinteger
    simpa using fun h => hinteger _ h

/-- A flag is the one that is there, or the one for a missing key. -/
lemma flag?_eq_some_iff {missing b : Bool} {item : Option Item} :
    flag? missing item = some b ↔ item = none ∧ b = missing ∨ item = some (.flag b) := by
  unfold flag?
  split
  · simp [eq_comm]
  · simp [eq_comm]
  · rename_i hflag
    simpa using fun h => hflag b h

/-- A field is what an item denotes, or its default. -/
lemma Field.read?_eq_some_iff {field : Field} {item : Option Item} {a : field.Value} :
    field.read? item = some a ↔
      item = none ∧ a = default.value field ∨ ∃ i, item = some i ∧ field.Denotes i a := by
  cases field with
  | timeoutSecs =>
    refine count?_eq_some_iff.trans (or_congr Iff.rfl ?_)
    simp [Denotes]
  | observerEnabled =>
    refine flag?_eq_some_iff.trans (or_congr Iff.rfl ?_)
    simp [Denotes]
  | _ =>
    refine text?_eq_some_iff.trans (or_congr Iff.rfl ?_)
    simp [Denotes]

/-- The members of a group are its parts. -/
lemma member?_eq_some_iff {item : Option Item} {member : String → Nat → Option Item} :
    member? item = some member ↔
      (∀ i ∈ item, IsGroup i) ∧ (fun key place => item.bind (part key place)) = member := by
  cases item with
  | none => simp [member?]
  | some i => cases i <;> simp [member?, IsGroup, part]

/-- The settings of the server are read one by one. -/
lemma server?_eq_some_iff {item : Option Item} {server : ServerConfig} :
    server? item = some server ↔ (∀ i ∈ item, IsGroup i) ∧
      text? ServerConfig.default.baseUrl (item.bind (part "base_url" 0)) = some server.baseUrl ∧
      text? ServerConfig.default.endpoint (item.bind (part "endpoint" 1)) = some server.endpoint ∧
      count? ServerConfig.default.timeoutSecs (item.bind (part "timeout_secs" 2)) =
        some server.timeoutSecs ∧
      text? ServerConfig.default.userAgent (item.bind (part "user_agent" 3)) =
        some server.userAgent := by
  constructor
  · intro h
    obtain ⟨member, hmember, h⟩ := Option.bind_eq_some_iff.mp h
    obtain ⟨hgroup, rfl⟩ := member?_eq_some_iff.mp hmember
    obtain ⟨_, hbase, h⟩ := Option.bind_eq_some_iff.mp h
    obtain ⟨_, hendpoint, h⟩ := Option.bind_eq_some_iff.mp h
    obtain ⟨_, htimeout, h⟩ := Option.bind_eq_some_iff.mp h
    obtain ⟨_, hagent, h⟩ := Option.bind_eq_some_iff.mp h
    obtain rfl := Option.some.inj h
    exact ⟨hgroup, hbase, hendpoint, htimeout, hagent⟩
  · rintro ⟨hgroup, hbase, hendpoint, htimeout, hagent⟩
    refine Option.bind_eq_some_iff.mpr ⟨_, member?_eq_some_iff.mpr ⟨hgroup, rfl⟩, ?_⟩
    refine Option.bind_eq_some_iff.mpr ⟨_, hbase, ?_⟩
    refine Option.bind_eq_some_iff.mpr ⟨_, hendpoint, ?_⟩
    refine Option.bind_eq_some_iff.mpr ⟨_, htimeout, ?_⟩
    exact Option.bind_eq_some_iff.mpr ⟨_, hagent, rfl⟩

/-- The settings of the observer are read. -/
lemma observer?_eq_some_iff {item : Option Item} {enabled : Bool} :
    observer? item = some enabled ↔ (∀ i ∈ item, IsGroup i) ∧
      flag? default.observerEnabled (item.bind (part "enabled" 0)) = some enabled := by
  constructor
  · intro h
    obtain ⟨member, hmember, h⟩ := Option.bind_eq_some_iff.mp h
    obtain ⟨hgroup, rfl⟩ := member?_eq_some_iff.mp hmember
    exact ⟨hgroup, h⟩
  · rintro ⟨hgroup, henabled⟩
    exact Option.bind_eq_some_iff.mpr ⟨_, member?_eq_some_iff.mpr ⟨hgroup, rfl⟩, henabled⟩

/-- **The keys of a file make the configuration whose fields are read from them**, if groups are
there for groups. -/
lemma ofEntries?_eq_some_iff {entries : Entries} {config : Config} :
    ofEntries? entries = some config ↔
      (∀ field : Field, ∀ item ∈ entries.find? field.group, IsGroup item) ∧
        ∀ field : Field, field.read? (field.item? entries) = some (config.value field) := by
  constructor
  · intro h
    obtain ⟨server, hserver, h⟩ := Option.bind_eq_some_iff.mp h
    obtain ⟨enabled, hobserver, h⟩ := Option.bind_eq_some_iff.mp h
    obtain rfl := Option.some.inj h
    obtain ⟨hgroup, hbase, hendpoint, htimeout, hagent⟩ := server?_eq_some_iff.mp hserver
    obtain ⟨hgroup', henabled⟩ := observer?_eq_some_iff.mp hobserver
    refine ⟨fun field => ?_, fun field => ?_⟩
    · cases field with
      | observerEnabled => exact hgroup'
      | _ => exact hgroup
    · cases field with
      | baseUrl => exact hbase
      | endpoint => exact hendpoint
      | timeoutSecs => exact htimeout
      | userAgent => exact hagent
      | observerEnabled => exact henabled
  · rintro ⟨hgroup, hread⟩
    refine Option.bind_eq_some_iff.mpr ⟨config.server, server?_eq_some_iff.mpr ⟨hgroup .baseUrl,
      hread .baseUrl, hread .endpoint, hread .timeoutSecs, hread .userAgent⟩, ?_⟩
    exact Option.bind_eq_some_iff.mpr ⟨config.observerEnabled,
      observer?_eq_some_iff.mpr ⟨hgroup .observerEnabled, hread .observerEnabled⟩, rfl⟩

/-- **The keys of a file make a configuration exactly if they fit.** -/
lemma exists_ofEntries?_iff {entries : Entries} :
    (∃ config, ofEntries? entries = some config) ↔ Fits entries := by
  constructor
  · rintro ⟨config, h⟩
    obtain ⟨hgroup, hread⟩ := ofEntries?_eq_some_iff.mp h
    refine ⟨hgroup, fun field item hitem => ?_⟩
    rcases Field.read?_eq_some_iff.mp (hread field) with ⟨hnone, -⟩ | ⟨i, hsome, hdenotes⟩
    · rw [hnone] at hitem
      cases hitem
    · obtain rfl := Option.some.inj (hsome.symm.trans hitem)
      exact ⟨_, hdenotes⟩
  · rintro ⟨hgroup, htyped⟩
    have hread : ∀ field : Field, ∃ a, field.read? (field.item? entries) = some a := by
      intro field
      cases hitem : field.item? entries with
      | none => exact ⟨_, Field.read?_eq_some_iff.mpr (.inl ⟨rfl, rfl⟩)⟩
      | some item =>
        obtain ⟨a, ha⟩ := htyped field item hitem
        exact ⟨a, Field.read?_eq_some_iff.mpr (.inr ⟨item, rfl, ha⟩)⟩
    obtain ⟨base, hbase⟩ := hread .baseUrl
    obtain ⟨endpoint, hendpoint⟩ := hread .endpoint
    obtain ⟨timeout, htimeout⟩ := hread .timeoutSecs
    obtain ⟨agent, hagent⟩ := hread .userAgent
    obtain ⟨enabled, henabled⟩ := hread .observerEnabled
    refine ⟨⟨⟨base, endpoint, timeout, agent⟩, enabled⟩,
      ofEntries?_eq_some_iff.mpr ⟨hgroup, fun field => ?_⟩⟩
    cases field with
    | baseUrl => exact hbase
    | endpoint => exact hendpoint
    | timeoutSecs => exact htimeout
    | userAgent => exact hagent
    | observerEnabled => exact henabled

/-! ### What the lines state -/

/-- An item that denotes something is a value. -/
lemma Field.Denotes.isValue {field : Field} {item : Item} {a : field.Value}
    (h : field.Denotes item a) : item.isValue = true := by
  cases field <;> obtain rfl : item = _ := h <;> rfl

/-- A path of two keys through a group is clear. -/
lemma clear_of_isGroup {entries : Entries} {group : String} (key : String)
    (h : ∀ item ∈ entries.find? group, IsGroup item) : entries.Clear [group, key] := by
  intro item hitem
  cases item with
  | table origin sub => exact fun _ _ => trivial
  | tables elements => exact h _ hitem
  | _ => trivial

/-- **The keys of a file hold for a field what the lines state for it**, if they fit.

**Proof sketch.** What the table of the file holds at a path is what the lines state under it
(`value?_eq_some_iff`). A group is a value as a whole, or a table that is made up, and then each of
its fields is a value. -/
lemma item?_eq_some_iff {cs : List Char} {ls : List Line} {entries : Entries}
    (hlines : lines cs = some ls) (h : ofLines ls = some entries) (hfits : Fits entries)
    {field : Field} {item : Item} : field.item? entries = some item ↔ field.Given ls item := by
  have hwhole : ∀ whole, entries.value? [field.group] = some whole ↔
      ([field.group], whole) ∈ statements ls := fun whole =>
    value?_eq_some_iff hlines h fun _ _ => trivial
  have hgiven : field.Given ls item ↔ entries.value? [field.group, field.key] = some item ∨
      ∃ whole, entries.value? [field.group] = some whole ∧
        part field.key field.place whole = some item := by
    simp only [value?_eq_some_iff hlines h (clear_of_isGroup field.key (hfits.grouped field)),
      hwhole]
    rfl
  rw [hgiven]
  cases hfind : entries.find? field.group with
  | none => simp [Field.item?, Entries.value?, hfind]
  | some whole =>
    have hitem : field.item? entries = part field.key field.place whole := by
      rw [Field.item?, hfind, Option.bind_some]
    have hpath : ∀ path, entries.value? (field.group :: path) = whole.value? path := by
      intro path
      rw [Entries.value?, hfind, Option.bind_some]
    rw [hpath, hpath, hitem]
    by_cases hvalue : whole.isValue = true
    · simp [value?_of_isValue hvalue]
    · -- The group is a table that is made up.
      have hgroup := hfits.grouped field whole hfind
      obtain ⟨origin, sub, rfl⟩ : ∃ origin sub, whole = .table origin sub := by
        cases whole with
        | table origin sub => exact ⟨origin, sub, rfl⟩
        | list elements => exact absurd rfl hvalue
        | dateTime => exact absurd rfl hvalue
        | _ => exact hgroup.elim
      have horigin : origin ≠ .inline := by simpa [Item.isValue] using hvalue
      have hpart : part field.key field.place (.table origin sub) =
          Entries.find? sub field.key := rfl
      rw [value?_table horigin, value?_table horigin, hpart]
      constructor
      · intro hfound
        obtain ⟨a, ha⟩ := hfits.typed field item (hitem.trans hfound)
        exact .inl (Option.bind_eq_some_iff.mpr ⟨item, hfound, if_pos ha.isValue⟩)
      · rintro (hfound | ⟨whole, hnone, -⟩)
        · obtain ⟨i, hi, hsame⟩ := Option.bind_eq_some_iff.mp hfound
          obtain ⟨-, heq⟩ := Option.ite_none_right_eq_some.mp hsame
          obtain rfl := Option.some.inj heq
          exact hi
        · cases hnone

end Consent.Config
