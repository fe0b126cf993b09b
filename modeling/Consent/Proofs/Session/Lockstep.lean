import Consent.Proofs.Session.Dispatches
import Mathlib.Data.List.Forall2

set_option autoImplicit false

/-!
# Sessions in lockstep

Two sessions go *in lockstep* under a relation if whatever the client does with a state, a future or
a reply keeps them related, and they find the same replies. Then all that is called and polled comes
to the same in both. The futures are the same but for what a submission or a revocation asks for:
this may differ as another relation says for its generation, as long as the operation is the same.

The relation between the sessions is a parameter. What is to be shown of it concerns the parts of
which calls and polls are made, and this module puts them together.

## Main definitions

* `Consent.Future.Matches`, `Consent.Poll.Matches` — futures and polls, up to what is asked for.
* `Consent.Session.CallLockstep`, `Consent.Session.Lockstep` — sessions go in lockstep under a
  relation, as far as calls are concerned and altogether.

## Main results

* `Consent.Session.Lockstep.poll` — a poll comes to the same.
* `Consent.Session.Lockstep.step` — a step of the client comes to the same.
* `Consent.Session.Lockstep.dispatches` — the same operations send the requests.
-/

namespace Consent

open Observer

/-- Futures that are the same, but for what submissions and revocations ask for. -/
inductive Future.Matches (Q : Nat → Request → Request → Prop) : Future → Future → Prop where
  | same (f : Future) : Matches Q f f
  | mutation {generation : Nat} {request request' : Request} (h : Q generation request request')
      (sent : Option Nat) :
      Matches Q (.mutation generation request sent) (.mutation generation request' sent)

/-- Polls that come to the same, but for what a future asks for that is not done. -/
inductive Poll.Matches (Q : Nat → Request → Request → Prop) : Poll → Poll → Prop where
  | same (p : Poll) : Matches Q p p
  | pending {f f' : Future} (h : f.Matches Q f') : Matches Q (.pending f) (.pending f')

/-- Whether a step is one of the host. -/
def SessionStep.isHost : SessionStep → Bool
  | .host _ => true
  | _ => false

namespace Session

/-- Calls keep sessions related: the clients are the same, and may both move on and have another
future called. -/
structure CallLockstep (Q : Nat → Request → Request → Prop) (R : Session → Session → Prop) :
    Prop where
  client : ∀ {s t}, R s t → t.client = s.client
  showing : ∀ {s t}, R s t → ∀ c, R (s.showing c) (t.showing c)
  put : ∀ {s t f f'}, R s t → f.Matches Q f' → ∀ name,
    R { s with futures := s.futures.put name f } { t with futures := t.futures.put name f' }

/-- Sessions that are related go in lockstep: each part of a call or a poll keeps them related, and
comes to the same. -/
structure Lockstep (Q : Nat → Request → Request → Prop) (R : Session → Session → Prop) : Prop
    extends CallLockstep Q R where
  /-- What is asked for may differ, but not by which operation. -/
  operation : ∀ {generation q q'}, Q generation q q' → q'.operation = q.operation
  endpoint : ∀ {s t}, R s t → t.endpoint = s.endpoint
  /-- The same names stand for futures, which match. -/
  find? : ∀ {s t}, R s t → ∀ name,
    Option.Rel (Future.Matches Q) (s.futures.find? name) (t.futures.find? name)
  without : ∀ {s t}, R s t → ∀ name, R (s.without name) (t.without name)
  settle : ∀ {s t}, R s t → ∀ generation next,
    R (s.settle generation next) (t.settle generation next)
  /-- Futures that match find the same reply. -/
  receive : ∀ {s t f f'}, R s t → f.Matches Q f' →
    R (s.receive f).1 (t.receive f').1 ∧ (t.receive f').2 = (s.receive f).2
  arm : ∀ {s t}, R s t →
    R { s with host := (s.host.arm false).1 } { t with host := (t.host.arm false).1 }
  respond : ∀ {s t}, R s t → ∀ number reply,
    R (s.step (.respond number reply)).1 (t.step (.respond number reply)).1 ∧
      (t.step (.respond number reply)).2 = (s.step (.respond number reply)).2

section Lockstep

variable {Q : Nat → Request → Request → Prop} {R : Session → Session → Prop} {s t : Session}
  {f f' : Future}

/-! ### Calls -/

/-- An operation begins in both sessions, with the same generation. -/
lemma CallLockstep.begin (L : CallLockstep Q R) (h : R s t) :
    R s.begin.1 t.begin.1 ∧ t.begin.2 = s.begin.2 := by
  have hclient := L.client h
  refine ⟨?_, congrArg (·.begin.generation) hclient⟩
  rw [Session.begin, Session.begin, hclient]
  exact L.showing h s.client.begin

/-- A load is called in both sessions. -/
lemma CallLockstep.callLoad (L : CallLockstep Q R) (h : R s t) (name : String) :
    R (s.callLoad name) (t.callLoad name) := by
  obtain ⟨hbegin, hgeneration⟩ := L.begin h
  simp only [Session.callLoad, hgeneration]
  exact L.put hbegin (.same _) name

/-- Submissions or revocations that match are called. -/
lemma CallLockstep.callMutation (L : CallLockstep Q R) (h : R s t) {q q' : Request}
    (hq : Future.Matches Q (.mutation s.begin.2 q none) (.mutation s.begin.2 q' none))
    (name : String) : R (s.callMutation name q) (t.callMutation name q') := by
  obtain ⟨hbegin, hgeneration⟩ := L.begin h
  simp only [Session.callMutation, hgeneration]
  exact L.put hbegin hq name

namespace Lockstep

/-! ### Polls -/

/-- Futures that match are of the same operation, wait for the same number, and settle the same. -/
lemma future (L : Lockstep Q R) (hf : f.Matches Q f') :
    f'.generation = f.generation ∧ f'.sent = f.sent ∧ f'.result = f.result := by
  cases hf with
  | same => exact ⟨rfl, rfl, rfl⟩
  | mutation hq sent =>
    refine ⟨rfl, rfl, ?_⟩
    funext reply
    simp only [Future.result, L.operation hq]

/-- A name stands for no future in either session, or for futures that match. -/
lemma find?_cases (L : Lockstep Q R) (h : R s t) (name : String) :
    (s.futures.find? name = none ∧ t.futures.find? name = none) ∨
      ∃ f f', s.futures.find? name = some f ∧ t.futures.find? name = some f' ∧ f.Matches Q f' := by
  have hfind := L.find? h name
  cases hs : s.futures.find? name <;> cases ht : t.futures.find? name <;> rw [hs, ht] at hfind
  case none.none => exact .inl ⟨rfl, rfl⟩
  case some.some f f' =>
    cases hfind with
    | some hf => exact .inr ⟨f, f', rfl, rfl, hf⟩
  all_goals cases hfind

/-- Futures that match find the same reply, or none. -/
lemma receive_of_eq (L : Lockstep Q R) (h : R s t) (hf : f.Matches Q f') {s' : Session}
    {number : Nat} {reply : Option Reply} (hs : s.receive f = (s', number, reply)) :
    ∃ t', t.receive f' = (t', number, reply) ∧ R s' t' := by
  obtain ⟨hx, hreply⟩ := L.receive h hf
  rw [hs] at hx hreply
  exact ⟨(t.receive f').1, Prod.ext rfl hreply, hx⟩

/-- The load that follows a submission or a revocation comes to the same. -/
lemma reload (L : Lockstep Q R) (h : R s t) :
    R s.reload.1 t.reload.1 ∧ t.reload.2 = s.reload.2 := by
  obtain ⟨hbegin, hgeneration⟩ := L.begin h
  -- The request is looked for as that of a load would be.
  have hreload : ∀ u : Session, u.begin.1.exchange (.fetch u.endpoint) none =
      u.begin.1.receive (.load s.begin.2 none) := fun _ => rfl
  rcases hs : s.begin.1.receive (.load s.begin.2 none) with ⟨s', number, reply⟩
  obtain ⟨t', ht, hx⟩ := L.receive_of_eq hbegin (.same _) hs
  cases reply with
  | none =>
    rw [reload_of_waiting ((hreload s).trans hs), reload_of_waiting ((hreload t).trans ht),
      hgeneration]
    exact ⟨hx, rfl⟩
  | some reply =>
    rw [reload_of_reply ((hreload s).trans hs), reload_of_reply ((hreload t).trans ht),
      hgeneration]
    exact ⟨L.settle hx _ _, rfl⟩

/-- Using a reply comes to the same. -/
lemma consume (L : Lockstep Q R) (h : R s t) (hf : f.Matches Q f') (reply : Reply) :
    R (s.consume f reply).1 (t.consume f' reply).1 ∧
      (t.consume f' reply).2 = (s.consume f reply).2 := by
  have hmutation : ∀ {generation q q' sent}, q'.operation = q.operation →
      R (s.consume (.mutation generation q sent) reply).1
          (t.consume (.mutation generation q' sent) reply).1 ∧
        (t.consume (.mutation generation q' sent) reply).2 =
          (s.consume (.mutation generation q sent) reply).2 := by
    intro generation q q' sent hoperation
    simp only [Session.consume, hoperation, L.client h]
    split
    · exact ⟨L.settle h _ _, rfl⟩
    · split
      · exact L.reload h
      · exact ⟨h, rfl⟩
  cases hf with
  | mutation hq sent => exact hmutation (L.operation hq)
  | same f =>
    cases f with
    | load generation _ =>
      have hsettle := L.settle h generation (settled reply)
      exact ⟨hsettle, congrArg (fun c : Client => Poll.loaded c.state) (L.client hsettle)⟩
    | reload generation _ => exact ⟨L.settle h generation _, rfl⟩
    | mutation generation q sent => exact hmutation rfl

/-- Polling futures that match comes to the same, but for what they ask for. -/
lemma pollFuture (L : Lockstep Q R) (h : R s t) (hf : f.Matches Q f') :
    R (s.pollFuture f).1 (t.pollFuture f').1 ∧
      (s.pollFuture f).2.Matches Q (t.pollFuture f').2 := by
  rcases hs : s.receive f with ⟨s', number, reply⟩
  obtain ⟨t', ht, hx⟩ := L.receive_of_eq h hf hs
  simp only [Session.pollFuture, hs, ht]
  cases reply with
  | none =>
    refine ⟨hx, .pending ?_⟩
    cases hf with
    | same => exact .same _
    | mutation hq sent => exact .mutation hq (some number)
  | some reply =>
    obtain ⟨hconsume, hpoll⟩ := L.consume hx hf reply
    exact ⟨hconsume, hpoll ▸ .same _⟩

/-- Keeping futures that match and are not done comes to the same. -/
lemma keep (L : Lockstep Q R) {p p' : Session × Poll} (h : R p.1 p'.1) (hp : p.2.Matches Q p'.2)
    (name : String) :
    R (Session.keep name p).1 (Session.keep name p').1 ∧
      (Session.keep name p').2 = (Session.keep name p).2 := by
  obtain ⟨s, p⟩ := p
  obtain ⟨t, p'⟩ := p'
  cases hp with
  | pending hf => exact ⟨L.put h hf name, rfl⟩
  | same p =>
    cases p with
    | pending f => exact ⟨L.put h (.same f) name, rfl⟩
    | loaded state => exact ⟨h, rfl⟩
    | done => exact ⟨h, rfl⟩

/-- **A poll comes to the same.** -/
lemma poll (L : Lockstep Q R) (h : R s t) (name : String) :
    R (s.poll name).1 (t.poll name).1 ∧ (t.poll name).2 = (s.poll name).2 := by
  rcases L.find?_cases h name with ⟨hs, ht⟩ | ⟨f, f', hs, ht, hf⟩
  · simp only [Session.poll, hs, ht]
    exact ⟨h, trivial⟩
  · obtain ⟨hpoll, hmatches⟩ := L.pollFuture (L.without h name) hf
    simp only [Session.poll, hs, ht]
    exact L.keep hpoll hmatches name

/-! ### Steps -/

/-- **A step of the client comes to the same**, and keeps the sessions related. -/
lemma step (L : Lockstep Q R) (h : R s t) {x : SessionStep} (hx : x.isHost = false) :
    R (s.step x).1 (t.step x).1 ∧ (t.step x).2 = (s.step x).2 := by
  cases x with
  | host step => simp [SessionStep.isHost] at hx
  | load name => exact ⟨L.callLoad h name, rfl⟩
  | start name => exact ⟨L.callLoad (L.arm h) name, rfl⟩
  | submit name draft =>
    refine ⟨?_, rfl⟩
    simp only [Session.step, L.endpoint h]
    exact L.callMutation h (.same _) name
  | revoke name =>
    refine ⟨?_, rfl⟩
    simp only [Session.step, L.endpoint h]
    exact L.callMutation h (.same _) name
  | resubmit name =>
    simp only [Session.step, L.endpoint h, L.client h]
    split
    · exact ⟨h, rfl⟩
    · exact ⟨L.callMutation h (.same _) name, rfl⟩
  | poll name => exact L.poll h name
  | dropFuture name =>
    refine ⟨L.without h name, ?_⟩
    have hhas : t.futures.has name = s.futures.has name := by
      rcases L.find?_cases h name with ⟨hs, ht⟩ | ⟨f, f', hs, ht, -⟩ <;>
        rw [Table.has, Table.has, hs, ht]
      rfl
    exact congrArg SessionOutcome.flag hhas
  | respond number reply => exact L.respond h number reply

/-! ### Requests -/

/-- The entries of two ledgers are of the same operation, and ask for the same, unless what is asked
for may differ. -/
def Entry (Q : Nat → Request → Request → Prop) (a b : Nat × Request) : Prop :=
  b.1 = a.1 ∧ (b.2 = a.2 ∨ Q a.1 a.2 b.2)

/-- **The same operations send the requests** of a poll. -/
lemma dispatches (L : Lockstep Q R) (h : R s t) (name : String) :
    List.Forall₂ (Entry Q) (s.dispatches (.poll name)) (t.dispatches (.poll name)) := by
  rcases L.find?_cases h name with ⟨hs, ht⟩ | ⟨f, f', hs, ht, hf⟩
  · simp [Session.dispatches, hs, ht]
  · obtain ⟨hgeneration, hsent, hresult⟩ := L.future hf
    rcases hs' : (s.without name).receive f with ⟨s', number, reply⟩
    obtain ⟨t', ht', hx⟩ := L.receive_of_eq (L.without h name) hf hs'
    rw [dispatches_poll hs hs', dispatches_poll ht ht']
    refine List.rel_append ?_ ?_
    · rw [firstDispatch, firstDispatch, hsent, hgeneration]
      split
      · refine .cons ⟨rfl, ?_⟩ .nil
        cases hf with
        | same => exact .inl (by rw [L.endpoint h])
        | mutation hq _ => exact .inr hq
      · exact .nil
    · cases reply with
      | none => exact .nil
      | some reply =>
        rw [Option.elim_some, Option.elim_some, nextDispatch, nextDispatch, hgeneration, hresult,
          L.client hx, L.endpoint hx]
        split
        · exact .cons ⟨rfl, .inl rfl⟩ .nil
        · exact .nil

end Lockstep

end Lockstep

end Session

end Consent
