import Consent.Proofs.Session.Requests

set_option autoImplicit false

/-!
# When a reply is used

A reply is used in a poll, by the future that waits for it. If it accepts a submission or a
revocation, the same poll goes on with a load, whose reply may be there at once and is then used
too. This module names the moment just before a reply is used, so that what comes of it can be
compared with that moment.

## Main definitions

* `Consent.Session.Uses` — a poll comes to a moment at which a future uses a reply.

## Main results

* `Consent.Session.Uses.poll` — the rest of the poll is what the future does with the reply.
* `Consent.Session.exists_uses_of_settled` — whatever settles in a step uses a reply.
* `Consent.Session.arrived_step` — where the replies come from that are there after a step.
-/

namespace Consent

open Observer

namespace Session

/-- A poll of a name comes to a moment at which a future uses a reply: the session is then the given
one. The future is the one of this name, or the load that it goes on with. It has sent its request,
and is no longer in the table. -/
inductive Uses (s : Session) (name : String) : Session → Future → Reply → Prop where
  /-- The future of this name uses its reply. -/
  | own {f : Future} {t : Session} {number : Nat} {reply : Reply}
      (hf : s.futures.find? name = some f)
      (hreceive : (s.without name).receive f = (t, number, some reply)) :
      Uses s name t (f.waitingFor number) reply
  /-- The load that follows a submission or a revocation uses its reply. -/
  | reload {f : Future} {t u : Session} {number : Nat} {accepted reply : Reply}
      (haccept : Uses s name t f accepted) (hlatest : t.client.generation = f.generation)
      (hresult : f.result accepted = none)
      (hfetch : t.begin.1.exchange (.fetch t.endpoint) none = (u, number, some reply)) :
      Uses s name u (.reload u.client.generation number) reply

variable {s t : Session} {name : String} {f : Future} {reply : Reply}

/-- **The rest of the poll** is what the future does with the reply. -/
lemma Uses.poll (h : s.Uses name t f reply) : s.poll name = keep name (t.consume f reply) := by
  induction h with
  | own hf hreceive => rw [poll_of_reply hf hreceive, consume_waitingFor]
  | @reload f t u number accepted reply _ hlatest hresult hfetch ih =>
    have hgeneration : t.begin.2 = u.client.generation := by
      have hframe := exchange_eq t.begin.1 (.fetch t.endpoint) none
      rw [hfetch] at hframe
      rw [show u = t.begin.1.withWire u.wire from hframe]
      rfl
    rw [ih, consume_of_accepted hresult t hlatest, reload_of_reply hfetch, hgeneration]
    rfl

/-- A future that uses a reply has sent a request, for which the session offers this reply. -/
lemma Uses.offers (h : s.Uses name t f reply) :
    ∃ number, f.sent = some number ∧ s.Offers number reply := by
  have hscripted : t.wire.scripted = s.wire.scripted ∧
      ∃ number, f.sent = some number ∧ s.Offers number reply := by
    induction h with
    | @own f t number reply hf hreceive =>
      rw [receive] at hreceive
      refine ⟨?_, number, Future.sent_waitingFor f number, ?_⟩
      · have hwire := congrArg (·.1.wire.scripted) hreceive
        cases hsent : f.sent <;> rw [hsent] at hwire <;> exact hwire.symm
      · cases hsent : f.sent with
        | none =>
          rw [hsent] at hreceive
          obtain ⟨-, hnumber⟩ := Prod.mk.inj hreceive
          obtain ⟨rfl, hreply⟩ := Prod.mk.inj hnumber
          exact .inr hreply
        | some n =>
          rw [hsent] at hreceive
          obtain ⟨-, hnumber⟩ := Prod.mk.inj hreceive
          obtain ⟨rfl, hreply⟩ := Prod.mk.inj hnumber
          exact .inl hreply
    | @reload f t u number accepted reply _ _ _ hfetch ih =>
      obtain ⟨hu, hnumber⟩ := Prod.mk.inj hfetch
      obtain ⟨-, hreply⟩ := Prod.mk.inj hnumber
      refine ⟨?_, number, rfl, .inr ?_⟩
      · rw [← hu]
        exact ih.1
      · rw [← ih.1, ← hreply]
        obtain ⟨rfl, -⟩ := Prod.mk.inj hnumber
        rfl
  exact hscripted.2

/-- **Whatever settles in a step uses a reply**, as the latest operation, in a poll. -/
lemma exists_uses_of_settled {x : SessionStep} {generation : Nat} {next : LoadState}
    (h : .settled generation next ∈ s.events x) :
    ∃ name t f reply, x = .poll name ∧ s.Uses name t f reply ∧
      t.client.generation = f.generation ∧ f.generation = generation ∧
      f.result reply = some next := by
  have hown : .settled generation next ∈ s.ownEvents x := by
    rcases List.mem_append.mp h with h | h
    · exact h
    · exact absurd (List.eq_of_mem_replicate h) (by simp)
  cases x with
  | poll name =>
    refine ⟨name, ?_⟩
    simp only [ownEvents, pollEvents] at hown
    cases hf : s.futures.find? name with
    | none => simp [hf] at hown
    | some f =>
      rcases hx : (s.without name).receive f with ⟨t, number, reply⟩
      simp only [hf, hx] at hown
      cases reply with
      | none => simp at hown
      | some reply =>
        have huses := Uses.own hf hx
        simp only [consumeEvents] at hown
        by_cases hlatest : t.client.generation = f.generation
        · rw [if_pos hlatest] at hown
          cases hresult : f.result reply with
          | some other =>
            simp only [hresult, List.mem_singleton] at hown
            obtain ⟨rfl, rfl⟩ := Event.settled.inj hown
            exact ⟨t, _, reply, rfl, huses, by simpa using hlatest, by simp, by simpa using hresult⟩
          | none =>
            simp only [hresult, reloadEvents, List.mem_cons] at hown
            rcases hown with hown | hown
            · simp at hown
            · cases hr : t.wire.scripted[t.wire.sent.length]?.join with
              | none => simp [hr] at hown
              | some again =>
                simp only [hr, List.mem_singleton] at hown
                obtain ⟨rfl, rfl⟩ := Event.settled.inj hown
                have hfetch : t.begin.1.exchange (.fetch t.endpoint) none =
                    (t.refetching, t.wire.sent.length, some again) := hr ▸ rfl
                exact ⟨t.refetching, _, again, rfl,
                  .reload huses (by simpa using hlatest) (by simpa using hresult) hfetch, rfl, rfl,
                  rfl⟩
        · simp [hlatest] at hown
  | _ =>
    simp only [ownEvents] at hown
    split at hown <;> simp at hown

/-! ### Where replies come from -/

/-- Looking for a reply brings none. -/
lemma receive_arrived (s : Session) (f : Future) :
    ∀ entry ∈ (s.receive f).1.wire.arrived, entry ∈ s.wire.arrived := by
  intro entry hentry
  rw [receive] at hentry
  cases hsent : f.sent with
  | none =>
    rw [hsent] at hentry
    exact hentry
  | some number =>
    rw [hsent] at hentry
    exact (List.mem_filter.mp hentry).1

/-- A poll brings no reply. -/
lemma poll_arrived (s : Session) (name : String) :
    ∀ entry ∈ (s.poll name).1.wire.arrived, entry ∈ s.wire.arrived := by
  intro entry hentry
  cases hf : s.futures.find? name with
  | none => rwa [poll_of_absent s hf] at hentry
  | some f =>
    simp only [poll, hf, pollFuture] at hentry
    have hreceive := (s.without name).receive_arrived f entry
    rcases hx : (s.without name).receive f with ⟨t, number, reply⟩
    rw [hx] at hentry hreceive
    cases reply with
    | none => exact hreceive hentry
    | some reply =>
      simp only [consume_wire] at hentry
      split at hentry <;> exact hreceive hentry

/-- The replies that are there after a step were there before, or have come in. -/
lemma arrived_step (s : Session) (x : SessionStep) :
    ∀ entry ∈ (s.step x).1.wire.arrived,
      entry ∈ s.wire.arrived ∨ x = .respond entry.1 entry.2 := by
  intro entry hentry
  cases x with
  | poll name => exact .inl (s.poll_arrived name entry hentry)
  | host step =>
    simp only [Session.step, noting_wire] at hentry
    exact .inl hentry
  | resubmit _ =>
    simp only [Session.step] at hentry
    split at hentry <;> exact .inl hentry
  | respond number reply =>
    simp only [Session.step] at hentry
    split at hentry
    · exact .inl hentry
    · rename_i w hw
      rw [Wire.arrive?_eq_some hw, List.mem_cons] at hentry
      rcases hentry with rfl | hentry
      · exact .inr rfl
      · exact .inl (List.mem_filter.mp hentry).1
  | _ => exact .inl hentry

end Session

end Consent
