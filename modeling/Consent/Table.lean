set_option autoImplicit false

/-!
# Tables of named things

A table holds at most one thing under each name. Putting a thing under a name that is taken drops
the old one.

## Main definitions

* `Consent.Table` — names with what they stand for.
* `Consent.Table.find?`, `Consent.Table.put`, `Consent.Table.erase`.
* `Consent.Table.Distinct` — no two entries share their name.

## Main results

* `Consent.Table.find?_put_self`, `Consent.Table.find?_put_of_ne` — what is found after a put.
* `Consent.Table.mem_put`, `Consent.Table.mem_erase_iff` — what a table holds afterwards.
* `Consent.Table.Distinct.length_put`, `Consent.Table.Distinct.length_erase` — how much it holds.
-/

namespace Consent

/-- Names with what they stand for. -/
abbrev Table (α : Type) := List (String × α)

namespace Table

variable {α : Type}

/-- What a name stands for. -/
def find? (t : Table α) (name : String) : Option α := List.lookup name t

/-- The table without a name. -/
def erase (t : Table α) (name : String) : Table α := t.filter fun entry => entry.1 ≠ name

/-- The table in which a name stands for a thing. -/
def put (t : Table α) (name : String) (a : α) : Table α := (name, a) :: t.erase name

/-- Whether a name stands for something. -/
def has (t : Table α) (name : String) : Bool := (t.find? name).isSome

/-- What was put under a name is found there. -/
@[simp] theorem find?_put_self (t : Table α) (name : String) (a : α) :
    (t.put name a).find? name = some a := by
  simp [find?, put]

/-- An erased name is not found. -/
@[simp] theorem find?_erase_self (t : Table α) (name : String) :
    (t.erase name).find? name = none := by
  simp only [find?, erase, List.lookup_eq_none_iff]
  intro entry h
  simp only [List.mem_filter, decide_eq_true_eq] at h
  simpa using Ne.symm h.2

/-- Erasing a name does not change what the others stand for. -/
theorem find?_erase_of_ne (t : Table α) {name other : String} (h : other ≠ name) :
    (t.erase name).find? other = t.find? other := by
  simp only [find?, erase]
  induction t with
  | nil => rfl
  | cons entry t ih =>
    obtain ⟨n, a⟩ := entry
    by_cases hn : n = name
    · have : (other == n) = false := by simpa [hn] using h
      rw [List.filter_cons_of_neg (by simpa using hn), ih, List.lookup_cons, this]
    · rw [List.filter_cons_of_pos (by simpa using hn), List.lookup_cons, List.lookup_cons, ih]

/-- Putting a thing under a name does not change what the others stand for. -/
theorem find?_put_of_ne (t : Table α) {name other : String} (a : α) (h : other ≠ name) :
    (t.put name a).find? other = t.find? other := by
  have : (other == name) = false := by simpa using h
  rw [put, ← find?_erase_of_ne t h, find?, List.lookup_cons, this]
  rfl

/-- A table holds what it finds. -/
theorem mem_of_find? {t : Table α} {name : String} {a : α} (h : t.find? name = some a) :
    (name, a) ∈ t := by
  obtain ⟨before, after, rfl, -⟩ := List.lookup_eq_some_iff.mp h
  simp

/-- What a table holds without a name. -/
theorem mem_erase_iff {t : Table α} {name : String} {entry : String × α} :
    entry ∈ t.erase name ↔ entry ∈ t ∧ entry.1 ≠ name := by
  simp [erase]

/-- A table holds what is put there, and what it held under other names. -/
theorem mem_put {t : Table α} {name : String} {a : α} {entry : String × α} :
    entry ∈ t.put name a ↔ entry = (name, a) ∨ entry ∈ t ∧ entry.1 ≠ name := by
  rw [put, List.mem_cons, mem_erase_iff]

/-- Erasing a name twice is erasing it once. -/
@[simp] theorem erase_erase_self (t : Table α) (name : String) :
    (t.erase name).erase name = t.erase name := by
  simp [erase]

/-- Erasing a name takes back what was put there. -/
@[simp] theorem erase_put_self (t : Table α) (name : String) (a : α) :
    (t.put name a).erase name = t.erase name := by
  simp [put, erase]

/-- What a name stood for does not matter once another thing is put there. -/
@[simp] theorem put_erase_self (t : Table α) (name : String) (a : α) :
    (t.erase name).put name a = t.put name a := by
  rw [put, erase_erase_self, put]

/-! ### Names that are in use once -/

/-- Whether no two entries of a table share their name. -/
def Distinct (t : Table α) : Prop := (t.map (·.1)).Nodup

/-- A name stands for something if the table has an entry under it. -/
theorem has_eq_true_iff {t : Table α} {name : String} :
    t.has name = true ↔ ∃ a, (name, a) ∈ t := by
  constructor
  · intro h
    obtain ⟨a, ha⟩ := Option.isSome_iff_exists.mp h
    exact ⟨a, mem_of_find? ha⟩
  · rintro ⟨a, ha⟩
    rw [has, Option.isSome_iff_ne_none, find?, Ne, List.lookup_eq_none_iff]
    intro h
    simpa using h (name, a) ha

/-- A table without a name is what it was if the name is not in it. -/
theorem erase_of_not_has {t : Table α} {name : String} (h : t.has name = false) :
    t.erase name = t := by
  refine List.filter_eq_self.mpr fun entry hentry => ?_
  rw [decide_eq_true_eq]
  rintro rfl
  rw [has_eq_true_iff.mpr ⟨entry.2, hentry⟩] at h
  exact absurd h (by simp)

/-- Names stay distinct without one of them. -/
theorem Distinct.erase {t : Table α} (h : t.Distinct) (name : String) :
    (t.erase name).Distinct :=
  List.Nodup.sublist (List.filter_sublist.map _) h

/-- Names stay distinct when a thing is put under one of them, or under another one. -/
theorem Distinct.put {t : Table α} (h : t.Distinct) (name : String) (a : α) :
    (t.put name a).Distinct := by
  refine List.nodup_cons.mpr ⟨?_, h.erase name⟩
  intro hmem
  obtain ⟨entry, hentry, hname⟩ := List.mem_map.mp hmem
  exact (mem_erase_iff.mp hentry).2 hname

/-- Erasing a name that stands for something takes one entry away. -/
theorem Distinct.length_erase {t : Table α} (h : t.Distinct) {name : String}
    (hhas : t.has name = true) : (t.erase name).length + 1 = t.length := by
  induction t with
  | nil => exact absurd hhas (by simp [has, find?])
  | cons entry t ih =>
    obtain ⟨hfirst, hrest⟩ := List.nodup_cons.mp h
    by_cases hname : entry.1 = name
    · -- The rest of the table has no entry under this name, and stays as it is.
      have hnot : has t name = false := by
        rw [← Bool.not_eq_true, has_eq_true_iff]
        rintro ⟨a, ha⟩
        exact hfirst (List.mem_map.mpr ⟨(name, a), ha, hname.symm⟩)
      have herase : Table.erase (entry :: t) name = t := by
        rw [Table.erase, List.filter_cons_of_neg (by simpa using hname)]
        exact erase_of_not_has hnot
      rw [herase, List.length_cons]
    · have hin : has t name = true := by
        have hne : (name == entry.1) = false := by simpa using Ne.symm hname
        rwa [has, find?, List.lookup_cons, hne] at hhas
      have herase : Table.erase (entry :: t) name = entry :: Table.erase t name := by
        rw [Table.erase, List.filter_cons_of_pos (by simpa using hname)]
        rfl
      rw [herase, List.length_cons, List.length_cons, ih hrest hin]

/-- Putting a thing under a name adds an entry if there is none. -/
theorem Distinct.length_put {t : Table α} (h : t.Distinct) (name : String) (a : α) :
    (t.put name a).length = if t.has name then t.length else t.length + 1 := by
  rw [Table.put, List.length_cons]
  split
  case isTrue hhas => exact h.length_erase hhas
  case isFalse hnot => rw [erase_of_not_has (by simpa using hnot)]

end Table

end Consent
