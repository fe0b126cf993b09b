import Consent.Proofs.Session.Forwarding
import Consent.Proofs.Session.Moves

set_option autoImplicit false

/-!
# Where futures come from

A step makes a future by a call, or because an observer calls for a load inside it. From then on the
future has its name, until a step drops it or makes another one under this name, or a poll completes
it; and it changes in polls only. So each future of a session goes back to the last step that made
one of its name, and the future that a step makes can be followed through a run.

## Main definitions

* `Consent.Future.Becomes` — how a future goes on.
* `Consent.Session.Makes` — the futures that a step makes.
* `Consent.Session.Visited` — what observers may do to the table of futures.
* `Consent.Session.Own` — what a step itself does to a name.
* `Consent.Session.Spares` — a run in which no future of a name is made or dropped.

## Main results

* `Consent.Session.step_find?` — what a name stands for after a step.
* `Consent.Session.exists_origin` — every future of a session goes back to a step.
* `Consent.Session.Spares.find?` — what becomes of a future.
-/

namespace Consent

open Observer

namespace Future

/-- Only an accepted submission or revocation settles nothing. -/
lemma result_eq_none_iff {f : Future} {reply : Reply} :
    f.result reply = none ↔ ∃ generation request sent response,
      f = .mutation generation request sent ∧ reply = .ok response ∧
      response.status = request.operation.successStatus := by
  constructor
  · intro h
    cases f with
    | load _ _ => simp [result] at h
    | reload _ _ => simp [result] at h
    | mutation generation request sent =>
      cases reply with
      | error e => simp [result, Except.bind] at h
      | ok response =>
        refine ⟨generation, request, sent, response, rfl, rfl, ?_⟩
        by_contra hstatus
        simp [result, Except.bind, Operation.check, hstatus] at h
  · rintro ⟨generation, request, sent, response, rfl, rfl, hstatus⟩
    simp [result, Except.bind, Operation.check, hstatus]

/-- How a future goes on: its request is sent, and a submission or a revocation goes on with a
load. -/
inductive Becomes : Future → Future → Prop where
  | same (f : Future) : Becomes f f
  | waits (f : Future) (number : Nat) : Becomes f (f.waitingFor number)
  | reloads (generation : Nat) (request : Request) (sent : Option Nat) (next number : Nat) :
      Becomes (.mutation generation request sent) (.reload next number)

/-- A future that goes on twice goes on. -/
lemma Becomes.trans {f g h : Future} (hfg : f.Becomes g) (hgh : g.Becomes h) : f.Becomes h := by
  cases hfg with
  | same => exact hgh
  | waits f number =>
    cases f with
    | load generation sent =>
      cases hgh with
      | same => exact .waits (.load generation sent) number
      | waits _ n => exact .waits (.load generation sent) n
    | mutation generation request sent =>
      cases hgh with
      | same => exact .waits (.mutation generation request sent) number
      | waits _ n => exact .waits (.mutation generation request sent) n
      | reloads => exact .reloads _ _ _ _ _
    | reload generation sent =>
      cases hgh with
      | same => exact .waits (.reload generation sent) number
      | waits _ n => exact .waits (.reload generation sent) n
  | reloads =>
    cases hgh with
    | same => exact .reloads _ _ _ _ _
    | waits _ n => exact .reloads _ _ _ _ _

/-- A future that goes on as a submission or a revocation has always been this one. -/
lemma Becomes.eq_mutation {f : Future} {generation : Nat} {request : Request} {sent : Option Nat}
    (h : f.Becomes (.mutation generation request sent)) :
    ∃ before, f = .mutation generation request before := by
  generalize hg : Future.mutation generation request sent = g at h
  cases h with
  | same => exact ⟨sent, hg.symm⟩
  | waits _ number =>
    cases f with
    | mutation generation' request' before =>
      obtain ⟨rfl, rfl, -⟩ := mutation.inj hg
      exact ⟨before, rfl⟩
    | load _ _ => simp [waitingFor] at hg
    | reload _ _ => simp [waitingFor] at hg
  | reloads => simp at hg

end Future

namespace Session

/-! ### The futures that a step makes -/

/-- The futures that a step makes: the one it calls, and the load that an observer calls for. -/
inductive Makes (s : Session) (x : SessionStep) : String → Future → Prop where
  | called {name : String} {f : Future} (h : s.called x = some (name, f)) : Makes s x name f
  | reentered (h : (s.step x).1.reentered = s.reentered + 1) :
      Makes s x s.reentryName (.load (s.step x).1.client.generation none)

variable {s t : Session} {name : String} {f g : Future}

/-- A future that a step makes has sent nothing. -/
lemma Makes.sent {x : SessionStep} (h : s.Makes x name f) : f.sent = none := by
  cases h with
  | called h => exact (called_generation h).2
  | reentered _ => rfl

/-- A future that a step makes belongs to the latest generation. -/
lemma Makes.generation {x : SessionStep} (h : s.Makes x name f) :
    f.generation = (s.step x).1.client.generation := by
  cases h with
  | called h =>
    rw [(called_generation h).1, (called_beside h).client]
    rfl
  | reentered _ => rfl

/-- What is called for is a load, a submission or a revocation. -/
lemma Makes.request {x : SessionStep} (h : s.Makes x name f) :
    f = .load f.generation none ∨ f = .mutation f.generation (.revoke s.endpoint) none ∨
      ∃ draft, s.called x = some (name, .mutation f.generation (.submit s.endpoint draft) none) ∧
        f = .mutation f.generation (.submit s.endpoint draft) none := by
  cases h with
  | reentered _ => exact .inl rfl
  | called h =>
    cases x with
    | load _ => obtain ⟨rfl, rfl⟩ := Prod.mk.inj (Option.some.inj h); exact .inl rfl
    | start _ => obtain ⟨rfl, rfl⟩ := Prod.mk.inj (Option.some.inj h); exact .inl rfl
    | revoke _ => obtain ⟨rfl, rfl⟩ := Prod.mk.inj (Option.some.inj h); exact .inr (.inl rfl)
    | submit _ draft =>
      obtain ⟨rfl, rfl⟩ := Prod.mk.inj (Option.some.inj h)
      exact .inr (.inr ⟨draft, h, rfl⟩)
    | resubmit _ =>
      obtain ⟨r, -, hr⟩ := Option.map_eq_some_iff.mp h
      obtain ⟨rfl, rfl⟩ := Prod.mk.inj hr
      exact .inr (.inr ⟨r.draft, h, rfl⟩)
    | host _ => simp [Session.called] at h
    | poll _ => simp [Session.called] at h
    | dropFuture _ => simp [Session.called] at h
    | respond _ _ => simp [Session.called] at h

/-- A submission or a revocation that has gone on from a step belongs to the operation called
there, and has one status that means success. -/
lemma Makes.mutation {x : SessionStep} {generation : Nat} {request : Request} {sent : Option Nat}
    (h : s.Makes x name f) (hf : f.Becomes (.mutation generation request sent)) :
    generation = (s.step x).1.client.generation ∧ request.operation.successStatus = 204 := by
  obtain ⟨before, rfl⟩ := hf.eq_mutation
  refine ⟨h.generation, ?_⟩
  rcases h.request with h | h | ⟨draft, -, h⟩
  · simp at h
  · obtain ⟨-, rfl, -⟩ := Future.mutation.inj h
    rfl
  · obtain ⟨-, rfl, -⟩ := Future.mutation.inj h
    rfl

/-! ### What a step does to the futures -/

/-- A poll without a future does nothing. -/
lemma poll_of_absent (s : Session) {name : String} (h : s.futures.find? name = none) :
    (s.poll name).1 = s := by
  simp only [poll, h]

/-- The table of futures, once observers have been called: one may have called for a load. -/
def Visited (s : Session) (futures : Table Future) (t : Session) : Prop :=
  t.reentered = s.reentered ∧ t.futures = futures ∨
    t.reentered = s.reentered + 1 ∧
      t.futures = futures.put s.reentryName (.load t.client.generation none)

/-- What a name stands for, once observers have been called. -/
lemma Visited.find? {futures : Table Future} (h : s.Visited futures t) (name : String) :
    t.futures.find? name =
      if t.reentered = s.reentered + 1 ∧ name = s.reentryName then
        some (.load t.client.generation none)
      else futures.find? name := by
  rcases h with ⟨hcount, hfutures⟩ | ⟨hcount, hfutures⟩
  · rw [hfutures, if_neg (fun h => by omega)]
  · rw [hfutures]
    by_cases hname : name = s.reentryName
    · rw [hname, Table.find?_put_self, if_pos ⟨hcount, rfl⟩]
    · rw [Table.find?_put_of_ne _ _ hname, if_neg fun h => hname h.2]

/-- Noting a call of an observer. -/
lemma noting_visited (s : Session) (call : Option Call) : s.Visited s.futures (s.noting call) := by
  cases call with
  | none => exact .inl ⟨rfl, rfl⟩
  | some call =>
    simp only [noting]
    cases call.reaction with
    | nothing => exact .inl ⟨rfl, rfl⟩
    | state => exact .inl ⟨rfl, rfl⟩
    | load => exact .inr ⟨rfl, rfl⟩

/-- Settling a state. -/
lemma settle_visited (s : Session) (generation : Nat) (next : LoadState) :
    s.Visited s.futures (s.settle generation next) := by
  by_cases hgen : s.client.generation = generation
  · simp only [settle, Client.settle?, if_pos hgen]
    cases next.record? with
    | none => exact .inl ⟨rfl, rfl⟩
    | some r =>
      exact noting_visited
        { s.takeTicket.1.showing (s.client.transition next) with host := _ } _
  · rw [settle_of_superseded hgen]
    exact .inl ⟨rfl, rfl⟩

/-- Using a reply: the future completes, or goes on with a load. -/
lemma consume_visited (s : Session) (f : Future) (reply : Reply) (name : String) :
    s.Visited s.futures (keep name (s.consume f reply)).1 ∨
      ∃ g, f.Becomes g ∧ g.sent.isSome ∧
        s.Visited (s.futures.put name g) (keep name (s.consume f reply)).1 := by
  cases hresult : f.result reply with
  | some next =>
    rw [keep_consume_of_result hresult]
    exact .inl (s.settle_visited _ _)
  | none =>
    by_cases hlatest : s.client.generation = f.generation
    · obtain ⟨generation, request, sent, response, rfl, -, -⟩ :=
        Future.result_eq_none_iff.mp hresult
      rw [consume_of_accepted hresult s hlatest, reload_eq]
      cases s.wire.scripted[s.wire.sent.length]?.join with
      | none => exact .inr ⟨_, .reloads _ _ _ _ _, rfl, .inl ⟨rfl, rfl⟩⟩
      | some reply => exact .inl (s.refetching.settle_visited _ _)
    · rw [consume_of_superseded (Ne.symm hlatest), keep_lapse]
      exact .inl (.inl ⟨rfl, rfl⟩)

/-- Polling a future: it completes, or goes on. -/
lemma poll_visited (s : Session) (hf : s.futures.find? name = some f) :
    s.Visited (s.futures.erase name) (s.poll name).1 ∨
      ∃ g, f.Becomes g ∧ g.sent.isSome ∧
        s.Visited (s.futures.put name g) (s.poll name).1 := by
  simp only [poll, hf, pollFuture]
  rcases hx : (s.without name).receive f with ⟨t, number, reply⟩
  have ht := receive_eq hx
  have hreentered : t.reentered = s.reentered := congrArg (·.reentered) ht
  have hfutures : t.futures = s.futures.erase name := congrArg (·.futures) ht
  cases reply with
  | none =>
    refine .inr ⟨f.waitingFor number, .waits f number, by simp, .inl ⟨hreentered, ?_⟩⟩
    simp only [keep, hfutures, Table.put_erase_self]
  | some reply =>
    have hvisited := t.consume_visited f reply name
    simp only [Visited, hreentered, hfutures, Table.put_erase_self, reentryName] at hvisited ⊢
    exact hvisited

/-- What a name stands for after a step, but for what observers do. -/
inductive Own (s : Session) (x : SessionStep) (name : String) : Option Future → Prop where
  | called {f : Future} (hcall : s.called x = some (name, f)) : Own s x name (some f)
  | dropped (hx : x = .dropFuture name) : Own s x name none
  | completed (hx : x = .poll name) : Own s x name none
  | goesOn {f g : Future} (hx : x = .poll name) (hf : s.futures.find? name = some f)
      (hbecomes : f.Becomes g) (hsent : g.sent.isSome) : Own s x name (some g)
  | kept (hdrop : x ≠ .dropFuture name) (hpoll : x ≠ .poll name)
      (hcall : ∀ f, s.called x ≠ some (name, f)) : Own s x name (s.futures.find? name)

/-- A call puts its future under its name. -/
lemma called_own {x : SessionStep} {other : String} (hcall : s.called x = some (other, f))
    (name : String) : s.Own x name ((s.futures.put other f).find? name) := by
  by_cases hname : name = other
  · subst hname
    rw [Table.find?_put_self]
    exact .called hcall
  · rw [Table.find?_put_of_ne _ _ hname]
    refine .kept ?_ ?_ fun g h => ?_
    · rintro rfl
      simp [called] at hcall
    · rintro rfl
      simp [called] at hcall
    · exact hname (congrArg Prod.fst (Option.some.inj (hcall.symm.trans h))).symm

/-- A poll completes its future, or keeps it under its name. -/
lemma poll_own (s : Session) (other name : String) :
    ∃ futures, s.Visited futures (s.poll other).1 ∧
      s.Own (.poll other) name (futures.find? name) := by
  have hkept : name ≠ other → s.Own (.poll other) name (s.futures.find? name) := fun hname =>
    .kept (by simp) (by simpa using Ne.symm hname) (by simp [called])
  cases hf : s.futures.find? other with
  | none =>
    refine ⟨s.futures, .inl (by simp [poll_of_absent s hf]), ?_⟩
    by_cases hname : name = other
    · subst hname
      rw [hf]
      exact .completed rfl
    · exact hkept hname
  | some f =>
    rcases s.poll_visited hf with hdone | ⟨g, hbecomes, hsent, hgoes⟩
    · refine ⟨_, hdone, ?_⟩
      by_cases hname : name = other
      · subst hname
        rw [Table.find?_erase_self]
        exact .completed rfl
      · rw [Table.find?_erase_of_ne _ hname]
        exact hkept hname
    · refine ⟨_, hgoes, ?_⟩
      by_cases hname : name = other
      · subst hname
        rw [Table.find?_put_self]
        exact .goesOn rfl hf hbecomes hsent
      · rw [Table.find?_put_of_ne _ _ hname]
        exact hkept hname

/-- A step acts on the futures, and then observers may. -/
lemma step_own (s : Session) (x : SessionStep) (name : String) :
    ∃ futures, s.Visited futures (s.step x).1 ∧ s.Own x name (futures.find? name) := by
  cases hcall : s.called x with
  | some entry =>
    have hbeside := called_beside hcall
    exact ⟨s.futures.put entry.1 entry.2, .inl ⟨hbeside.reentered, hbeside.futures⟩,
      called_own hcall name⟩
  | none =>
    have hkept : x ≠ .dropFuture name → x ≠ .poll name → s.Own x name (s.futures.find? name) :=
      fun hdrop hpoll => .kept hdrop hpoll (by simp [hcall])
    cases x with
    | load _ => simp [called] at hcall
    | start _ => simp [called] at hcall
    | submit _ _ => simp [called] at hcall
    | revoke _ => simp [called] at hcall
    | poll other => exact s.poll_own other name
    | resubmit other =>
      have hlast : s.client.lastReady = none := Option.map_eq_none_iff.mp hcall
      refine ⟨s.futures, .inl ?_, hkept (by simp) (by simp)⟩
      simp only [step, hlast, and_self]
    | host step =>
      exact ⟨s.futures, noting_visited { s with host := (s.host.step step).1 } _,
        hkept (by simp) (by simp)⟩
    | respond number reply =>
      refine ⟨s.futures, .inl ?_, hkept (by simp) (by simp)⟩
      simp only [step]
      split <;> exact ⟨rfl, rfl⟩
    | dropFuture other =>
      refine ⟨s.futures.erase other, .inl ⟨rfl, rfl⟩, ?_⟩
      by_cases hname : name = other
      · subst hname
        rw [Table.find?_erase_self]
        exact .dropped rfl
      · rw [Table.find?_erase_of_ne _ hname]
        exact hkept (by simpa using Ne.symm hname) (by simp)

/-- A future that a step makes stands under its name after the step. -/
lemma Makes.find? {x : SessionStep} (h : s.Makes x name f) :
    (s.step x).1.futures.find? name = some f := by
  cases h with
  | called hcall =>
    rw [(called_beside hcall).futures]
    exact Table.find?_put_self _ _ _
  | reentered hcount =>
    obtain ⟨futures, hvisited, -⟩ := s.step_own x s.reentryName
    rw [hvisited.find?, if_pos ⟨hcount, rfl⟩]

/-- **What a name stands for after a step** that makes no future of this name: what the step has
left under it. -/
lemma step_find? {x : SessionStep} (h : ∀ f, ¬ s.Makes x name f) :
    s.Own x name ((s.step x).1.futures.find? name) := by
  obtain ⟨futures, hvisited, hown⟩ := s.step_own x name
  rw [hvisited.find?, if_neg]
  · exact hown
  · rintro ⟨hcount, rfl⟩
    exact h _ (.reentered hcount)

/-! ### Futures in a run -/

/-- A run in which no future of a name is made or dropped. -/
def Spares (s : Session) (name : String) : List SessionStep → Prop
  | [] => True
  | x :: xs =>
    x ≠ .dropFuture name ∧ (∀ f, ¬ s.Makes x name f) ∧ (s.step x).1.Spares name xs

/-- One more step that makes and drops no future of a name. -/
lemma spares_concat {steps : List SessionStep} {x : SessionStep} :
    s.Spares name (steps ++ [x]) ↔
      s.Spares name steps ∧ x ≠ .dropFuture name ∧ ∀ f, ¬ (s.run steps).Makes x name f := by
  induction steps generalizing s with
  | nil => simp [Spares, run]
  | cons y ys ih =>
    rw [List.cons_append, Spares, ih, Spares]
    constructor
    · rintro ⟨hy, hmakes, hys, hx⟩
      exact ⟨⟨hy, hmakes, hys⟩, hx⟩
    · rintro ⟨⟨hy, hmakes, hys⟩, hx⟩
      exact ⟨hy, hmakes, hys, hx⟩

/-- **Every future of a session goes back to a step** that made a future of its name; no later step
has made or dropped one.

**Proof sketch.** By induction on the steps from the end: the last step made the future, or it left
it under its name, or it polled one. -/
lemma exists_origin {start : Session} (hstart : start.futures = []) (steps : List SessionStep)
    (h : (start.run steps).futures.find? name = some f) :
    ∃ before x since f₀, steps = before ++ x :: since ∧ (start.run before).Makes x name f₀ ∧
      (start.run (before ++ [x])).Spares name since := by
  induction steps using List.reverseRecOn generalizing f with
  | nil =>
    rw [show (start.run []).futures = [] from hstart] at h
    simp [Table.find?] at h
  | append_singleton steps x ih =>
    rw [run_concat] at h
    by_cases hmade : ∃ g, (start.run steps).Makes x name g
    · obtain ⟨g, hmakes⟩ := hmade
      exact ⟨steps, x, [], g, rfl, hmakes, trivial⟩
    · have hnone := not_exists.mp hmade
      have hown := step_find? hnone
      have hextend : x ≠ .dropFuture name → (∃ g, (start.run steps).futures.find? name = some g) →
          ∃ before y since f₀, steps ++ [x] = before ++ y :: since ∧
            (start.run before).Makes y name f₀ ∧ (start.run (before ++ [y])).Spares name since := by
        rintro hx ⟨g, hg⟩
        obtain ⟨before, y, since, f₀, hsteps, hmakes, hspares⟩ := ih hg
        refine ⟨before, y, since ++ [x], f₀, by simp [hsteps], hmakes, ?_⟩
        rw [spares_concat, ← run_append, List.append_assoc, List.singleton_append, ← hsteps]
        exact ⟨hspares, hx, hnone⟩
      rw [h] at hown
      generalize hc : some f = c at hown
      cases hown with
      | called hcall => exact absurd (.called hcall) (hnone _)
      | dropped _ => simp at hc
      | completed _ => simp at hc
      | goesOn hx hf _ _ => exact hextend (by simp [hx]) ⟨_, hf⟩
      | kept hdrop _ _ => exact hextend hdrop ⟨f, hc.symm⟩

/-- **What becomes of a future** in a run that makes and drops none of its name: it stays as it is
until it is polled; after that, if it has not completed, it has gone on and has sent its request.

**Proof sketch.** By induction on the steps from the end. -/
lemma Spares.find? {f₀ : Future} (hf : s.futures.find? name = some f₀) {since : List SessionStep}
    (h : s.Spares name since) :
    (.poll name ∉ since → (s.run since).futures.find? name = some f₀) ∧
      (.poll name ∈ since → ∀ f, (s.run since).futures.find? name = some f →
        f₀.Becomes f ∧ f.sent.isSome) := by
  induction since using List.reverseRecOn with
  | nil => exact ⟨fun _ => hf, by simp⟩
  | append_singleton since x ih =>
    obtain ⟨hspares, hdrop, hmakes⟩ := spares_concat.mp h
    obtain ⟨hunpolled, hpolled⟩ := ih hspares
    rw [run_concat]
    have hown := step_find? hmakes
    generalize ((s.run since).step x).1.futures.find? name = c at hown ⊢
    cases hown with
    | called hcall => exact absurd (.called hcall) (hmakes _)
    | dropped hx => exact absurd hx hdrop
    | completed hx => simp [hx]
    | kept _ hx _ => simpa [hx.symm] using ⟨hunpolled, hpolled⟩
    | @goesOn f g hx hg hbecomes hsent =>
      refine ⟨by simp [hx], fun _ g' hg' => ?_⟩
      obtain rfl := Option.some.inj hg'
      refine ⟨?_, hsent⟩
      by_cases hmem : .poll name ∈ since
      · exact (hpolled hmem f hg).1.trans hbecomes
      · obtain rfl := Option.some.inj ((hunpolled hmem).symm.trans hg)
        exact hbecomes

end Session

end Consent
