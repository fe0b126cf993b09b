import Consent.Proofs.Session.Moves
import Mathlib.Logic.ExistsUnique

set_option autoImplicit false

/-!
# Who settles next

The latest operation belongs to at most one future, and while it does, the client shows that it
loads. As long as no future is dropped before it has completed, the converse holds too: a client
that loads has a future that will settle its state, so it never loads for good.

## Main definitions

* `Consent.Session.Owns` — a named future has the latest generation.
* `Consent.Session.Orderly` — at most one future does, and only while the client loads.
* `Consent.Session.Attended` — a client that loads has such a future.

## Main results

* `Consent.Session.Orderly.run` — every session is orderly.
* `Consent.Session.Attended.run` — a session in which no future is dropped is attended.
* `Consent.Session.loading_iff_existsUnique_owner` — the client loads exactly while one future has
  the latest generation.
-/

namespace Consent

open Observer

namespace Session

/-- A named future has the latest generation. -/
def Owns (s : Session) (name : String) : Prop :=
  ∃ f, s.futures.find? name = some f ∧ f.generation = s.client.generation

/-- Whether a step drops a future that has not completed. -/
def drops (s : Session) : SessionStep → Bool
  | .dropFuture name => s.futures.has name
  | _ => false

/-- Whether no future is dropped in a run before it has completed. -/
def keepsAll (s : Session) : List SessionStep → Bool
  | [] => true
  | x :: xs => !s.drops x && (s.step x).1.keepsAll xs

/-! ### The invariant -/

/-- No future has a generation that is yet to come, no two futures share one, and a future has the
latest one only while the client loads. -/
structure Orderly (s : Session) : Prop where
  recent : ∀ e ∈ s.futures, e.2.generation ≤ s.client.generation
  distinct : ∀ e ∈ s.futures, ∀ e' ∈ s.futures, e.2.generation = e'.2.generation → e = e'
  loading : ∀ e ∈ s.futures, e.2.generation = s.client.generation → s.client.state = .loading

/-- A client that loads has a future with the latest generation. -/
def Attended (s : Session) : Prop := s.client.state = .loading → ∃ name, s.Owns name

variable {offered : Nat → Reply → Prop} {s t : Session} {es : List Event}

/-- The latest generation belongs to one name only. -/
lemma Orderly.eq_of_owns (hs : s.Orderly) {name other : String} (h : s.Owns name)
    (h' : s.Owns other) : name = other := by
  obtain ⟨f, hf, hgen⟩ := h
  obtain ⟨g, hg, hgen'⟩ := h'
  have := hs.distinct _ (Table.mem_of_find? hf) _ (Table.mem_of_find? hg) (hgen.trans hgen'.symm)
  exact congrArg Prod.fst this

/-- A session without futures in which nothing has begun is orderly. -/
lemma orderly_fresh (endpoint : String) (surface : Surface) (bridge : Bridge)
    (scripted : List (Option Reply)) : (fresh endpoint surface bridge scripted).Orderly :=
  ⟨nofun, nofun, nofun⟩

/-- A session without futures in which nothing has begun is attended. -/
lemma attended_fresh (endpoint : String) (surface : Surface) (bridge : Bridge)
    (scripted : List (Option Reply)) : (fresh endpoint surface bridge scripted).Attended :=
  nofun

/-! ### One change -/

/-- A table without some futures is orderly. -/
lemma Orderly.erase (hs : s.Orderly) {name : String} (hclient : t.client = s.client)
    (hfutures : t.futures = s.futures.erase name) : t.Orderly := by
  have hmem : ∀ e ∈ t.futures, e ∈ s.futures := fun e he =>
    (Table.mem_erase_iff.mp (hfutures ▸ he)).1
  refine ⟨fun e he => ?_, fun e he e' he' h => ?_, fun e he h => ?_⟩
  · rw [hclient]
    exact hs.recent e (hmem e he)
  · exact hs.distinct e (hmem e he) e' (hmem e' he') h
  · rw [hclient] at h ⊢
    exact hs.loading e (hmem e he) h

/-- A future that takes the place of one with the same generation keeps a session orderly. -/
lemma Orderly.goesOn (hs : s.Orderly) {name : String} {f g : Future}
    (hf : s.futures.find? name = some f) (hg : g.generation = f.generation)
    (hclient : t.client = s.client) (hfutures : t.futures = s.futures.put name g) : t.Orderly := by
  have hold : (name, f) ∈ s.futures := Table.mem_of_find? hf
  have hmem : ∀ e ∈ t.futures, e = (name, g) ∨ e ∈ s.futures ∧ e.1 ≠ name := fun e he =>
    Table.mem_put.mp (hfutures ▸ he)
  -- an entry that shares its generation with the old future is the old future
  have hclash : ∀ e ∈ s.futures, e.1 ≠ name → e.2.generation ≠ g.generation := by
    intro e he hne h
    exact hne (congrArg Prod.fst (hs.distinct e he _ hold (h.trans hg)))
  refine ⟨fun e he => ?_, fun e he e' he' h => ?_, fun e he h => ?_⟩
  · rw [hclient]
    rcases hmem e he with rfl | ⟨he, -⟩
    · exact hg ▸ hs.recent _ hold
    · exact hs.recent e he
  · rcases hmem e he with rfl | ⟨he, hne⟩
    · rcases hmem e' he' with rfl | ⟨he', hne'⟩
      · rfl
      · exact absurd h.symm (hclash e' he' hne')
    · rcases hmem e' he' with rfl | ⟨he', hne'⟩
      · exact absurd h (hclash e he hne)
      · exact hs.distinct e he e' he' h
  · rw [hclient] at h ⊢
    rcases hmem e he with rfl | ⟨he, -⟩
    · exact hs.loading _ hold (hg ▸ h)
    · exact hs.loading e he h

/-- A future with a new generation keeps a session orderly. -/
lemma Orderly.begins (hs : s.Orderly) {name : String} {g : Future}
    (hg : g.generation = s.client.generation + 1) (hclient : t.client = s.client.begin)
    (hfutures : t.futures = s.futures.put name g) : t.Orderly := by
  obtain ⟨hstate, -, hgeneration⟩ := Client.begin_state s.client
  have hmem : ∀ e ∈ t.futures, e = (name, g) ∨ e ∈ s.futures ∧ e.1 ≠ name := fun e he =>
    Table.mem_put.mp (hfutures ▸ he)
  have hlt : ∀ e ∈ s.futures, e.2.generation < g.generation := fun e he =>
    hg ▸ Nat.lt_succ_of_le (hs.recent e he)
  refine ⟨fun e he => ?_, fun e he e' he' h => ?_, fun e he h => ?_⟩
  · rw [hclient, hgeneration, ← hg]
    rcases hmem e he with rfl | ⟨he, -⟩
    · exact Nat.le_refl _
    · exact Nat.le_of_lt (hlt e he)
  · rcases hmem e he with rfl | ⟨he, -⟩
    · rcases hmem e' he' with rfl | ⟨he', -⟩
      · rfl
      · exact absurd h.symm (Nat.ne_of_lt (hlt e' he'))
    · rcases hmem e' he' with rfl | ⟨he', -⟩
      · exact absurd h (Nat.ne_of_lt (hlt e he))
      · exact hs.distinct e he e' he' h
  · rw [hclient]
    exact hstate

/-- Without its future, the latest generation belongs to nobody. -/
lemma Orderly.generation_ne (hs : s.Orderly) {name : String} {f : Future}
    (hf : s.futures.find? name = some f) (hlatest : s.client.generation = f.generation) :
    ∀ e ∈ s.futures.erase name, e.2.generation ≠ s.client.generation := by
  intro e he h
  obtain ⟨he, hne⟩ := Table.mem_erase_iff.mp he
  have := hs.distinct e he _ (Table.mem_of_find? hf) (h.trans hlatest)
  exact hne (congrArg Prod.fst this)

/-- **A change keeps a session orderly.**

**Proof sketch.** A new generation belongs to the future that begins it. A future that goes on
keeps its own. When the latest operation settles, its future is the only one that had the latest
generation, and it is gone. -/
lemma Orderly.change (hs : s.Orderly) (h : Change s t es) : t.Orderly := by
  cases h with
  | same hclient _ hfutures =>
    refine ⟨?_, ?_, ?_⟩
    · rw [hclient, hfutures]
      exact hs.recent
    · rw [hfutures]
      exact hs.distinct
    · rw [hclient, hfutures]
      exact hs.loading
  | goesOn hf hg hclient _ hfutures => exact hs.goesOn hf hg hclient hfutures
  | lapses _ _ hclient _ hfutures => exact hs.erase hclient hfutures
  | begins _ hg hclient _ hfutures => exact hs.begins hg hclient hfutures
  | @settles name f next hf hlatest _ hclient _ hfutures =>
    have hnobody := hs.generation_ne hf hlatest
    have hgeneration : t.client.generation = s.client.generation := congrArg (·.generation) hclient
    have hmem : ∀ e ∈ t.futures, e ∈ s.futures := fun e he =>
      (Table.mem_erase_iff.mp (hfutures ▸ he)).1
    refine ⟨fun e he => ?_, fun e he e' he' h => ?_, fun e he h => ?_⟩
    · rw [hgeneration]
      exact hs.recent e (hmem e he)
    · exact hs.distinct e (hmem e he) e' (hmem e' he') h
    · rw [hgeneration] at h
      exact absurd h (hnobody e (hfutures ▸ he))

/-- **A change keeps a session attended.** -/
lemma Attended.change (hs : s.Attended) (h : Change s t es) : t.Attended := by
  intro hload
  cases h with
  | same hclient _ hfutures =>
    rw [hclient] at hload
    obtain ⟨name, f, hf, hgen⟩ := hs hload
    exact ⟨name, f, hfutures ▸ hf, hclient ▸ hgen⟩
  | @goesOn name f g hf hg hclient _ hfutures =>
    rw [hclient] at hload
    obtain ⟨owner, f', hf', hgen⟩ := hs hload
    by_cases hname : owner = name
    · subst hname
      obtain rfl := Option.some.inj (hf.symm.trans hf')
      exact ⟨owner, g, by rw [hfutures, Table.find?_put_self], by rw [hg, hgen, hclient]⟩
    · exact ⟨owner, f', by rw [hfutures, Table.find?_put_of_ne _ _ hname, hf'], hclient ▸ hgen⟩
  | @lapses name f hf hold hclient _ hfutures =>
    rw [hclient] at hload
    obtain ⟨owner, f', hf', hgen⟩ := hs hload
    have hname : owner ≠ name := by
      rintro rfl
      obtain rfl := Option.some.inj (hf.symm.trans hf')
      exact hold hgen.symm
    exact ⟨owner, f', by rw [hfutures, Table.find?_erase_of_ne _ hname, hf'], hclient ▸ hgen⟩
  | @begins name g _ _ hg hclient _ hfutures =>
    refine ⟨name, g, by rw [hfutures, Table.find?_put_self], ?_⟩
    rw [hclient, hg, (Client.begin_state s.client).2.2]
  | settles _ _ hnext hclient _ _ =>
    rw [hclient] at hload
    simp only [Client.transition] at hload
    simp [hload, LoadState.isSettled] at hnext

/-! ### Steps and runs -/

/-- Moves keep a session orderly. -/
lemma Orderly.moves (hs : s.Orderly) (h : Moves offered s es t) : t.Orderly := by
  induction h with
  | nil _ => exact hs
  | cons h _ ih => exact ih (hs.change h.change)

/-- Moves keep a session attended. -/
lemma Attended.moves (hs : s.Attended) (h : Moves offered s es t) : t.Attended := by
  induction h with
  | nil _ => exact hs
  | cons h _ ih => exact ih (hs.change h.change)

/-- Every step keeps a session orderly. -/
lemma Orderly.step (hs : s.Orderly) (x : SessionStep) : (s.step x).1.Orderly := by
  rcases s.step_cases_moves x with ⟨name, rfl⟩ | h
  · exact hs.erase rfl rfl
  · exact hs.moves h

/-- A step that drops no future keeps a session attended. -/
lemma Attended.step (hs : s.Attended) {x : SessionStep} (hx : s.drops x = false) :
    (s.step x).1.Attended := by
  rcases s.step_cases_moves x with ⟨name, rfl⟩ | h
  · -- there is no future of this name to drop
    have habsent : s.futures.find? name = none := by simpa [drops, Table.has] using hx
    intro hload
    obtain ⟨owner, f, hf, hgen⟩ := hs hload
    have hname : owner ≠ name := by
      rintro rfl
      simp [habsent] at hf
    exact ⟨owner, f, (Table.find?_erase_of_ne _ hname).trans hf, hgen⟩
  · exact hs.moves h

/-- Every session is orderly. -/
lemma Orderly.run (hs : s.Orderly) (steps : List SessionStep) : (s.run steps).Orderly := by
  induction steps generalizing s with
  | nil => exact hs
  | cons x xs ih => exact ih (hs.step x)

/-- A session in which no future is dropped is attended. -/
lemma Attended.run (hs : s.Attended) {steps : List SessionStep} (hsteps : s.keepsAll steps = true) :
    (s.run steps).Attended := by
  induction steps generalizing s with
  | nil => exact hs
  | cons x xs ih =>
    simp only [keepsAll, Bool.and_eq_true, Bool.not_eq_true'] at hsteps
    exact ih (hs.step hsteps.1) hsteps.2

/-- **Loading is never orphaned.** In every session in which no future is dropped before it has
completed, whatever is called, polled and answered in whatever order, with loads that observers
call for: after each step, the client loads if and only if there is exactly one future that has the
latest generation; in any other state no future has it. So a client without futures never loads.

**Proof sketch.** A change either gives the latest generation to one future, or leaves it where it
is, or takes it away when the client settles (`Orderly.change`, `Attended.change`). A step is a
sequence of such changes, and so is a run. A future whose name is taken by a new one has been
superseded at that moment, so that it does not matter. -/
theorem loading_iff_existsUnique_owner (endpoint : String) (surface : Surface) (bridge : Bridge)
    (scripted : List (Option Reply)) (steps : List SessionStep)
    (hsteps : (fresh endpoint surface bridge scripted).keepsAll steps = true) :
    let s := (fresh endpoint surface bridge scripted).run steps
    (s.client.state = .loading ↔ ∃! name, s.Owns name) ∧
    (s.client.state ≠ .loading → ∀ name, ¬ s.Owns name) ∧
    (s.futures = [] → s.client.state ≠ .loading) := by
  intro s
  have horderly : s.Orderly := (orderly_fresh endpoint surface bridge scripted).run steps
  have hattended : s.Attended := (attended_fresh endpoint surface bridge scripted).run hsteps
  have hloading : ∀ name, s.Owns name → s.client.state = .loading := by
    rintro name ⟨f, hf, hgen⟩
    exact horderly.loading _ (Table.mem_of_find? hf) hgen
  refine ⟨⟨fun hload => ?_, fun ⟨name, hname, _⟩ => hloading name hname⟩, fun hstate name hname =>
    hstate (hloading name hname), fun hempty hload => ?_⟩
  · obtain ⟨name, hname⟩ := hattended hload
    exact ⟨name, hname, fun other hother => horderly.eq_of_owns hother hname⟩
  · obtain ⟨name, f, hf, -⟩ := hattended hload
    simp [hempty, Table.find?] at hf

/-- A load is superseded by a submission, which is accepted and waits for its own load. -/
def acceptedSubmission : List SessionStep :=
  [.load "a", .poll "a", .submit "b" .acceptAll, .poll "b", .respond 1 (.ok (.empty 204)),
    .poll "b"]

/-- While an accepted submission waits for its own load, it is the one future that will settle; the
load that it has superseded is not. -/
theorem reloading_submission_owns :
    let s := (fresh gdprEndpoint .lines .watching []).run acceptedSubmission
    (fresh gdprEndpoint .lines .watching []).keepsAll acceptedSubmission = true ∧
    s.client.state = .loading ∧ s.futures.has "a" = true ∧ s.Owns "b" ∧
    (∃! name, s.Owns name) ∧ ¬ s.Owns "a" := by
  intro s
  have hkept : (fresh gdprEndpoint .lines .watching []).keepsAll acceptedSubmission = true := by
    decide
  have hload : s.client.state = .loading := by decide
  have howns : s.Owns "b" := ⟨.reload 3 2, by decide, by decide⟩
  have hone := (loading_iff_existsUnique_owner gdprEndpoint .lines .watching []
    acceptedSubmission hkept).1.mp hload
  exact ⟨hkept, hload, by decide, howns, hone, fun ha => absurd (hone.unique ha howns) (by decide)⟩

end Session

end Consent
