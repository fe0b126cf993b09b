import Consent.Proofs.Text.Scanning
import Consent.Toml.Document
import Mathlib.Data.List.ReduceOption

set_option autoImplicit false

/-!
# What the lines of a file state

A line with a key and a value states the value under the full path of its key: the path of the
header above it, and its own. The table that the lines describe holds at each path what is stated
under it, in whichever order the lines come, and nothing else. Only what lies behind a header in
double brackets has no path of its own.

## Main definitions

* `Consent.Toml.statements` — the values that some lines state, with their paths.
* `Consent.Toml.Entries.value?` — the value at the end of a path.
* `Consent.Toml.Entries.Clear` — a path that leads through no tables with one header.
* `Consent.Toml.Extends` — what is added to a table.

## Main results

* `Consent.Toml.descend_extends` — a change at the end of a path changes nothing else.
* `Consent.Toml.ofLines_extends` — the lines add what they state.
* `Consent.Toml.value?_eq_some_iff` — what the table holds is what the lines state.
-/

namespace Consent.Toml

open Text

/-! ### Statements -/

/-- An item that is a value, not a table that headers or dotted keys make up. -/
def Item.isValue : Item → Bool
  | .table origin _ => origin = .inline
  | .tables _ => false
  | _ => true

/-- The path and the value of an assignment below some path. -/
def Assignment.statement (above : List String) (a : Assignment) : List String × Item :=
  (above ++ a.1 ++ [a.2.1], a.2.2)

/-- The values that some lines state below a header, with their paths; none, if that is in double
brackets. -/
def statementsBelow : Option (List String) → List Line → List (List String × Item)
  | _, [] => []
  | above, .assignment a :: rest =>
    (above.map fun above => a.statement above).toList ++ statementsBelow above rest
  | _, .table path key :: rest => statementsBelow (some (path ++ [key])) rest
  | _, .element _ _ :: rest => statementsBelow none rest

/-- The values that the lines of a file state, with their paths. -/
def statements (lines : List Line) : List (List String × Item) := statementsBelow (some []) lines

/-- A dotted key and a header make up paths alike, and double brackets none. -/
example : statements [.assignment (["a"], "b", .flag true), .table ["c"] "d",
    .assignment ([], "e", .integer 1), .element [] "f", .assignment ([], "g", .float)] =
      [(["a", "b"], .flag true), (["c", "d", "e"], .integer 1)] := rfl

/-! ### Paths -/

/-- The value at the end of a path from an item. The path leads through tables that headers or
dotted keys make up. -/
def Item.value? : List String → Item → Option Item
  | [], item => if item.isValue then some item else none
  | key :: path, .table origin entries =>
    if origin = .inline then none else (Entries.find? entries key).bind (Item.value? path)
  | _ :: _, _ => none

/-- The value at the end of a path. -/
def Entries.value? (entries : Entries) : List String → Option Item
  | [] => none
  | key :: path => (entries.find? key).bind (Item.value? path)

/-- A path from an item leads through no tables with one header in double brackets. -/
def Item.Clear : List String → Item → Prop
  | [], _ => True
  | key :: path, .table _ entries => ∀ item ∈ Entries.find? entries key, Item.Clear path item
  | _ :: _, .tables _ => False
  | _ :: _, _ => True

/-- A path leads through no tables with one header in double brackets. -/
def Entries.Clear (entries : Entries) : List String → Prop
  | [] => True
  | key :: path => ∀ item ∈ entries.find? key, Item.Clear path item

variable {key : String} {path : List String} {entries entries' sub sub' : Entries} {item : Item}
  {origin : Origin} {new new' : List (List String × Item)}

/-- A value ends its path. -/
lemma value?_of_isValue (h : item.isValue = true) :
    item.value? path = if path = [] then some item else none := by
  cases path with
  | nil => exact if_pos h
  | cons key path =>
    cases item with
    | table origin entries => exact if_pos (of_decide_eq_true h)
    | _ => rfl

/-- A table that is made up holds what its keys stand for. -/
lemma value?_table (h : origin ≠ .inline) :
    (Item.table origin entries).value? path = entries.value? path := by
  cases path with
  | nil => exact if_neg (by simp [Item.isValue, h])
  | cons key path => exact if_neg h

/-- No path leads through tables with one header. -/
lemma value?_tables (elements : List Entries) : (Item.tables elements).value? path = none := by
  cases path <;> rfl

/-- A path through a table leads through what its keys stand for. -/
lemma clear_table : (Item.table origin entries).Clear path ↔ entries.Clear path := by
  cases path <;> rfl

/-- No path through tables with one header is clear. -/
lemma clear_tables {elements : List Entries} : (Item.tables elements).Clear path ↔ path = [] := by
  cases path <;> simp [Item.Clear]

/-- A key stands for what was put there. -/
lemma find?_put_self (entries : Entries) (key : String) (item : Item) :
    (entries.put key item).find? key = some item := by
  rw [Entries.find?]
  induction entries with
  | nil => simp [Entries.put]
  | cons entry entries ih =>
    rw [Entries.put]
    split
    · rename_i hkey
      simp [hkey]
    · rename_i hkey
      rw [List.lookup_cons, beq_false_of_ne (Ne.symm hkey)]
      exact ih

/-- The other keys stand for what they did before. -/
lemma find?_put_of_ne {other : String} (h : other ≠ key) :
    (entries.put key item).find? other = entries.find? other := by
  rw [Entries.find?, Entries.find?]
  induction entries with
  | nil => simp [Entries.put, List.lookup_cons, beq_false_of_ne h]
  | cons entry entries ih =>
    rw [Entries.put]
    split
    · rename_i hkey
      rw [List.lookup_cons, List.lookup_cons, hkey]
      simp [beq_false_of_ne h]
    · rw [List.lookup_cons, List.lookup_cons, ih]

/-! ### What is added to a table -/

/-- The same statements below a path. -/
def below (path : List String) (new : List (List String × Item)) : List (List String × Item) :=
  new.map fun s => (path ++ s.1, s.2)

/-- A table comes to hold some more values, and loses none. -/
structure Extends (entries entries' : Entries) (new : List (List String × Item)) : Prop where
  named : ∀ s ∈ new, s.1 ≠ []
  clear : ∀ path, entries'.Clear path → entries.Clear path
  value?_iff : ∀ path item, entries'.Clear path →
    (entries'.value? path = some item ↔ entries.value? path = some item ∨ (path, item) ∈ new)

/-- Nothing is added to a table that stays as it is. -/
lemma Extends.refl (entries : Entries) : Extends entries entries [] where
  named := List.forall_mem_nil _
  clear _ := id
  value?_iff _ _ _ := by simp

/-- What is added in two steps. -/
lemma Extends.trans {entries'' : Entries} (h : Extends entries entries' new)
    (h' : Extends entries' entries'' new') : Extends entries entries'' (new ++ new') where
  named s hs := (List.mem_append.mp hs).elim (h.named s) (h'.named s)
  clear path hclear := h.clear path (h'.clear path hclear)
  value?_iff path item hclear := by
    rw [h'.value?_iff path item hclear, h.value?_iff path item (h'.clear path hclear),
      List.mem_append, or_assoc]

/-- What is put under a key is added below it. -/
lemma Extends.put
    (hclear : ∀ path, item.Clear path → ∀ old ∈ entries.find? key, old.Clear path)
    (hvalue : ∀ path found, item.Clear path → (item.value? path = some found ↔
      (entries.find? key).bind (Item.value? path) = some found ∨ (path, found) ∈ new)) :
    Extends entries (entries.put key item) (below [key] new) where
  named s hs := by
    obtain ⟨s, -, rfl⟩ := List.mem_map.mp hs
    exact List.cons_ne_nil _ _
  clear path h := by
    cases path with
    | nil => trivial
    | cons other path =>
      by_cases hother : other = key
      · subst hother
        exact hclear path (h item (find?_put_self entries other item))
      · rwa [Entries.Clear, find?_put_of_ne hother] at h
  value?_iff path found h := by
    cases path with
    | nil => simp [Entries.value?, below]
    | cons other path =>
      by_cases hother : other = key
      · subst hother
        have hitem := h item (find?_put_self entries other item)
        rw [Entries.value?, find?_put_self, Option.bind_some, hvalue path found hitem]
        simp [Entries.value?, below]
      · rw [Entries.value?, find?_put_of_ne hother, ← Entries.value?]
        simp [below, Ne.symm hother]

/-- A value is added under a key that is free. -/
lemma Extends.put_value (hfree : entries.find? key = none) (hitem : item.isValue = true) :
    Extends entries (entries.put key item) [([key], item)] := by
  show Extends entries (entries.put key item) (below [key] [([], item)])
  refine Extends.put (fun path _ old hold => ?_) fun path found _ => ?_
  · rw [hfree] at hold
    cases hold
  · rw [hfree, value?_of_isValue hitem]
    by_cases hpath : path = [] <;> simp [hpath, eq_comm]

/-- What is added to a table that is made up is added below its key. The table may be missing, and
come about. -/
lemma Extends.put_table (hsub : Extends sub sub' new) (horigin : origin ≠ .inline)
    (hold : entries.find? key = none ∧ sub = [] ∨
      ∃ origin' ≠ .inline, entries.find? key = some (.table origin' sub)) :
    Extends entries (entries.put key (.table origin sub')) (below [key] new) := by
  refine Extends.put (fun path h old hfound => ?_) fun path found h => ?_
  · rcases hold with ⟨hfree, -⟩ | ⟨origin', -, hthere⟩
    · rw [hfree] at hfound
      cases hfound
    · obtain rfl := Option.some.inj (hthere.symm.trans hfound)
      exact clear_table.mpr (hsub.clear path (clear_table.mp h))
  · rw [value?_table horigin, hsub.value?_iff path found (clear_table.mp h)]
    rcases hold with ⟨hfree, rfl⟩ | ⟨origin', horigin', hthere⟩
    · have hnone : Entries.value? [] path = none := by cases path <;> rfl
      rw [hfree, hnone, Option.bind_none]
    · rw [hthere, Option.bind_some, value?_table horigin']

/-- What is added behind a header in double brackets has no clear path. -/
lemma Extends.put_tables {elements : List Entries} (hnamed : ∀ s ∈ new, s.1 ≠ [])
    (hold : ∀ old ∈ entries.find? key, ∃ elements, old = .tables elements) :
    Extends entries (entries.put key (.tables elements)) (below [key] new) := by
  have hnone : ∀ path, (entries.find? key).bind (Item.value? path) = none := by
    intro path
    rw [Option.bind_eq_none_iff]
    intro old hfound
    obtain ⟨_, rfl⟩ := hold old hfound
    exact value?_tables _
  refine Extends.put (fun path h old hfound => ?_) fun path found h => ?_
  · rw [clear_tables.mp h]
    trivial
  · obtain rfl := clear_tables.mp h
    rw [value?_tables, hnone]
    refine iff_of_false nofun ?_
    rintro (hfound | hnew)
    · cases hfound
    · exact hnamed _ hnew rfl

/-! ### Paths of headers and keys -/

/-- **A change at the end of a path changes nothing else**, and what it adds is added below the
path. -/
lemma descend_extends {made : Origin} {change : Origin → Entries → Option Entries}
    (hmade : made ≠ .inline)
    (hchange : ∀ {origin entries entries'}, change origin entries = some entries' →
      Extends entries entries' new) {path : List String} :
    ∀ {origin : Origin} {entries entries' : Entries},
      descend made change path origin entries = some entries' →
        Extends entries entries' (below path new) := by
  induction path with
  | nil =>
    intro origin entries entries' h
    have hsame : below [] new = new := List.map_id _
    rw [hsame]
    exact hchange h
  | cons key path ih =>
    intro origin entries entries' h
    have hbelow : below (key :: path) new = below [key] (below path new) := by
      simp [below]
    rw [hbelow]
    rw [descend] at h
    split at h
    · -- The table is missing, and comes about.
      rename_i hfree
      obtain ⟨sub, hsub, rfl⟩ := Option.map_eq_some_iff.mp h
      exact (ih hsub).put_table hmade (.inl ⟨hfree, rfl⟩)
    · cases h
    · rename_i origin' sub hinline hthere
      obtain ⟨-, h⟩ := Option.ite_none_left_eq_some.mp h
      obtain ⟨sub', hsub, rfl⟩ := Option.map_eq_some_iff.mp h
      exact (ih hsub).put_table hinline (.inr ⟨origin', hinline, hthere⟩)
    · rename_i elements hthere
      split at h
      · cases h
      · obtain ⟨last, hlast, rfl⟩ := Option.map_eq_some_iff.mp h
        refine Extends.put_tables (ih hlast).named fun old hold => ⟨elements, ?_⟩
        exact Option.some.inj (hold.symm.trans hthere)
    · cases h

/-- A value is added under its key. -/
lemma addValue_extends {path : List String} (hitem : item.isValue = true)
    (h : addValue path key item entries = some entries') :
    Extends entries entries' [(path ++ [key], item)] := by
  show Extends entries entries' (below path [([key], item)])
  refine descend_extends (by decide) (fun {origin e e'} hchange => ?_) h
  obtain ⟨-, hchange⟩ := Option.ite_none_left_eq_some.mp hchange
  obtain ⟨hfree, hput⟩ := Option.ite_none_left_eq_some.mp hchange
  obtain rfl := Option.some.inj hput
  exact Extends.put_value (Option.not_isSome_iff_eq_none.mp hfree) hitem

/-- The values of a section are added under their keys. -/
lemma addValues_extends {values : List Assignment} (hvalues : ∀ a ∈ values, a.2.2.isValue = true)
    (h : addValues values entries = some entries') :
    Extends entries entries' (values.map (·.statement [])) := by
  induction values generalizing entries with
  | nil =>
    obtain rfl := Option.some.inj h
    exact .refl entries
  | cons a values ih =>
    obtain ⟨e, hvalue, hrest⟩ := Option.bind_eq_some_iff.mp h
    have hfirst := addValue_extends (hvalues a List.mem_cons_self) hvalue
    exact hfirst.trans (ih (fun a ha => hvalues a (List.mem_cons_of_mem _ ha)) hrest)

/-- The statements below the path of a header. -/
lemma below_statement (path : List String) (key : String) (values : List Assignment) :
    below path (below [key] (values.map (·.statement []))) =
      values.map (·.statement (path ++ [key])) := by
  simp [below, Assignment.statement]

/-- The table under a header is added, with its values. -/
lemma addTable_extends {path : List String} {values : List Assignment}
    (hvalues : ∀ a ∈ values, a.2.2.isValue = true)
    (h : addTable path key values entries = some entries') :
    Extends entries entries' (values.map (·.statement (path ++ [key]))) := by
  rw [← below_statement]
  refine descend_extends (by decide) (fun {origin e e'} hchange => ?_) h
  split at hchange
  · rename_i hfree
    obtain ⟨sub, hsub, rfl⟩ := Option.map_eq_some_iff.mp hchange
    exact (addValues_extends hvalues hsub).put_table (by decide) (.inl ⟨hfree, rfl⟩)
  · rename_i sub hthere
    obtain ⟨sub', hsub, rfl⟩ := Option.map_eq_some_iff.mp hchange
    exact (addValues_extends hvalues hsub).put_table (by decide)
      (.inr ⟨.implied, by decide, hthere⟩)
  · cases hchange

/-- What stands under a header in double brackets is added to no table. -/
lemma addToTables_extends {path : List String} {values : List Assignment}
    (h : addToTables path key values entries = some entries') : Extends entries entries' [] := by
  show Extends entries entries' (below path [])
  refine descend_extends (by decide) (fun {origin e e'} hchange => ?_) h
  have hput : ∀ {elements : List Entries},
      (∀ old ∈ e.find? key, ∃ elements, old = .tables elements) →
        Extends e (e.put key (.tables elements)) [] := fun hold =>
    Extends.put_tables (List.forall_mem_nil _) hold
  split at hchange
  · rename_i hfree
    obtain ⟨sub, -, rfl⟩ := Option.map_eq_some_iff.mp hchange
    refine hput fun old hold => ?_
    rw [hfree] at hold
    cases hold
  · rename_i elements hthere
    obtain ⟨sub, -, rfl⟩ := Option.map_eq_some_iff.mp hchange
    exact hput fun old hold => ⟨elements, Option.some.inj (hold.symm.trans hthere)⟩
  · cases hchange

/-! ### Lines -/

/-- The values of a section, with their paths. -/
def Section.statements (s : Section) : List (List String × Item) :=
  if s.repeated then [] else s.values.map (·.statement (s.path ++ [s.key]))

/-- A section adds what it states. -/
lemma Section.add_extends {s : Section} (hvalues : ∀ a ∈ s.values, a.2.2.isValue = true)
    (h : s.add entries = some entries') : Extends entries entries' s.statements := by
  rw [Section.add] at h
  rw [Section.statements]
  split at h
  · rename_i hrepeated
    rw [if_pos hrepeated]
    exact addToTables_extends h
  · rename_i hsingle
    rw [if_neg hsingle]
    exact addTable_extends hvalues h

/-- What lines state, section by section. -/
lemma statementsBelow_eq (above : Option (List String)) (ls : List Line) :
    statementsBelow above ls =
      (sections ls).1.flatMap (fun a => (above.map a.statement).toList) ++
        (sections ls).2.flatMap Section.statements := by
  induction ls generalizing above with
  | nil => rfl
  | cons l ls ih =>
    cases l with
    | assignment a => rw [statementsBelow, ih, sections, List.flatMap_cons, List.append_assoc]
    | table path key =>
      rw [statementsBelow, ih, sections]
      simp [Section.statements, ← List.map_eq_flatMap]
    | element path key =>
      rw [statementsBelow, ih, sections]
      simp [Section.statements]

/-- The values of the sections of a file are those of its lines. -/
lemma mem_of_mem_sections {ls : List Line} {a : Assignment}
    (ha : a ∈ (sections ls).1 ∨ ∃ s ∈ (sections ls).2, a ∈ s.values) : .assignment a ∈ ls := by
  induction ls with
  | nil => simp [sections] at ha
  | cons l ls ih =>
    cases l with
    | assignment b =>
      rw [sections, List.mem_cons] at ha
      rcases ha with (rfl | ha) | ha
      · exact List.mem_cons_self
      · exact List.mem_cons_of_mem _ (ih (.inl ha))
      · exact List.mem_cons_of_mem _ (ih (.inr ha))
    | table path key =>
      refine List.mem_cons_of_mem _ (ih ?_)
      simpa [sections] using ha
    | element path key =>
      refine List.mem_cons_of_mem _ (ih ?_)
      simpa [sections] using ha

/-- Sections add what they state, one after the other. -/
lemma add_extends {sections : List Section}
    (hvalues : ∀ s ∈ sections, ∀ a ∈ s.values, a.2.2.isValue = true)
    (h : sections.foldlM (fun entries s => s.add entries) entries = some entries') :
    Extends entries entries' (sections.flatMap Section.statements) := by
  induction sections generalizing entries with
  | nil =>
    obtain rfl := Option.some.inj h
    exact .refl entries
  | cons s sections ih =>
    obtain ⟨e, hadd, hrest⟩ := Option.bind_eq_some_iff.mp h
    have hfirst := Section.add_extends (hvalues s List.mem_cons_self) hadd
    exact hfirst.trans (ih (fun s hs => hvalues s (List.mem_cons_of_mem _ hs)) hrest)

/-- **The lines of a file add what they state.** -/
lemma ofLines_extends {ls : List Line}
    (hvalues : ∀ a, Line.assignment a ∈ ls → a.2.2.isValue = true)
    (h : ofLines ls = some entries) : Extends [] entries (statements ls) := by
  obtain ⟨e, hfirst, hrest⟩ := Option.bind_eq_some_iff.mp h
  have hroot := addValues_extends (fun a ha => hvalues a (mem_of_mem_sections (.inl ha))) hfirst
  have hsections := add_extends
    (fun s hs a ha => hvalues a (mem_of_mem_sections (.inr ⟨s, hs, ha⟩))) hrest
  have hstated : statements ls = (sections ls).1.map (·.statement []) ++
      (sections ls).2.flatMap Section.statements := by
    rw [statements, statementsBelow_eq]
    simp [← List.map_eq_flatMap]
  rw [hstated]
  exact hroot.trans hsections

/-! ### Values -/

/-- What is read as a number is a value. -/
lemma yields_number : Scanner.Yields number (·.isValue = true) :=
  .orElse ((Scanner.yields_true _).map fun _ _ _ => rfl)
    (.orElse ((Scanner.yields_true _).map fun _ _ _ => rfl)
      ((Scanner.yields_true _).map fun _ _ _ => rfl))

/-- So is what holds no other values. -/
lemma yields_simple : Scanner.Yields value.simple (·.isValue = true) :=
  .orElse ((Scanner.yields_true _).map fun _ _ _ => rfl)
    (.orElse ((Scanner.yields_true _).map fun _ _ _ => rfl)
      (.orElse ((Scanner.yields_true _).map fun _ _ _ => rfl) yields_number))

/-- What is read as a value is one. -/
lemma yields_value (depth : Nat) : Scanner.Yields (value depth) (·.isValue = true) := by
  intro cs item rest h
  unfold value at h
  split at h
  · cases h
  · exact yields_simple _ _ _ h
  · split at h
    · obtain ⟨_, -, h⟩ := Option.bind_eq_some_iff.mp h
      obtain ⟨_, -, h⟩ := Option.bind_eq_some_iff.mp h
      obtain ⟨rfl, -⟩ := Prod.mk.inj (Option.some.inj h)
      rfl
    · split at h
      · obtain ⟨_, -, h⟩ := Option.bind_eq_some_iff.mp h
        obtain ⟨_, -, h⟩ := Option.bind_eq_some_iff.mp h
        obtain ⟨rfl, -⟩ := Prod.mk.inj (Option.some.inj h)
        rfl
      · exact yields_simple _ _ _ h

/-- A line states a value, if it states anything. -/
def Line.StatesValue (l : Line) : Prop := ∀ a, l = .assignment a → a.2.2.isValue = true

/-- The line of a key and a value states the value. -/
lemma yields_assignmentLine : Scanner.Yields assignmentLine Line.StatesValue := by
  have hkey : Scanner.Yields (keyValue (value (depthLimit - 1))) (·.2.2.isValue = true) := by
    intro cs a rest h
    obtain ⟨_, -, h⟩ := Option.bind_eq_some_iff.mp h
    obtain ⟨_, -, h⟩ := Option.bind_eq_some_iff.mp h
    obtain ⟨_, -, h⟩ := Option.bind_eq_some_iff.mp h
    obtain ⟨_, hvalue, h⟩ := Option.bind_eq_some_iff.mp h
    obtain ⟨rfl, -⟩ := Prod.mk.inj (Option.some.inj h)
    exact yields_value _ _ _ _ hvalue
  refine hkey.map fun a rest ha b hb => ?_
  obtain rfl := Line.assignment.inj hb
  exact ha

/-- A header states nothing. -/
lemma yields_header :
    Scanner.Yields (Scanner.orElse tableHeader elementHeader) Line.StatesValue := by
  refine .orElse (fun cs l rest h => ?_) fun cs l rest h => ?_
  · obtain ⟨_, -, h⟩ := Option.bind_eq_some_iff.mp h
    obtain ⟨_, -, h⟩ := Option.bind_eq_some_iff.mp h
    obtain ⟨_, -, h⟩ := Option.bind_eq_some_iff.mp h
    obtain ⟨rfl, -⟩ := Prod.mk.inj (Option.some.inj h)
    exact nofun
  · obtain ⟨_, -, h⟩ := Option.bind_eq_some_iff.mp h
    obtain ⟨_, -, h⟩ := Option.bind_eq_some_iff.mp h
    obtain ⟨_, -, h⟩ := Option.bind_eq_some_iff.mp h
    obtain ⟨rfl, -⟩ := Prod.mk.inj (Option.some.inj h)
    exact nofun

/-- The lines of a file state values. -/
lemma statesValue_of_lines {cs : List Char} {ls : List Line} (h : lines cs = some ls) :
    ∀ l ∈ ls, l.StatesValue := by
  have hcontent : Scanner.Yields lineContent fun content => ∀ l ∈ content, l.StatesValue :=
    .orElse ((yields_assignmentLine.orElse yields_header).map fun l _ hl l' hl' =>
      Option.some.inj hl' ▸ hl) fun cs content rest h => by
        obtain ⟨rfl, -⟩ := Prod.mk.inj (Option.some.inj h)
        exact nofun
  have hline : Scanner.Yields line fun content => ∀ l ∈ content, l.StatesValue := by
    intro cs content rest h
    obtain ⟨-, h⟩ := Option.ite_none_left_eq_some.mp h
    obtain ⟨_, -, h⟩ := Option.bind_eq_some_iff.mp h
    obtain ⟨_, hread, h⟩ := Option.bind_eq_some_iff.mp h
    obtain ⟨_, -, h⟩ := Option.bind_eq_some_iff.mp h
    obtain ⟨rfl, -⟩ := Prod.mk.inj (Option.some.inj h)
    exact hcontent _ _ _ hread
  obtain ⟨⟨contents, rest⟩, hmany, h⟩ := Option.bind_eq_some_iff.mp h
  obtain ⟨-, h⟩ := Option.ite_none_right_eq_some.mp h
  obtain rfl := Option.some.inj h
  intro l hl
  exact hline.many hmany _ (List.reduceOption_mem_iff.mp hl) l rfl

/-- **The table that the lines of a file describe holds what they state**, at each path that leads
through no tables with one header, and nothing else. -/
lemma value?_eq_some_iff {cs : List Char} {ls : List Line} (hlines : lines cs = some ls)
    (h : ofLines ls = some entries) (hclear : entries.Clear path) :
    entries.value? path = some item ↔ (path, item) ∈ statements ls := by
  have hextends := ofLines_extends (fun a ha => statesValue_of_lines hlines _ ha a rfl) h
  have hnone : Entries.value? [] path = none := by cases path <;> rfl
  rw [hextends.value?_iff path item hclear, hnone]
  simp

end Consent.Toml
