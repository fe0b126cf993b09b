import Consent.Proofs.Session.Replies

set_option autoImplicit false

/-!
# Who sent which request

Requests are numbered in the order in which they are sent, and a reply belongs to a number. This
module keeps a ledger of the operations that sent them, each under its generation. A future waits
for a number under which the ledger has its own operation, so the reply that it uses answers a
request that this very operation sent.

## Main definitions

* `Consent.Session.dispatches`, `Consent.Session.dispatchesIn` — the requests sent in a step and in
  a run, with the generations of the operations that send them.
* `Consent.Session.Logged` — a ledger agrees with a session.

## Main results

* `Consent.Session.sent_run` — the ledger lists the requests of a run.
* `Consent.Session.Logged.run` — it agrees with every session.
* `Consent.Session.Uses.dispatched` — a reply that is used answers a request of this operation.
-/

namespace Consent

open Observer

namespace Session

/-- The requests that a step sends, each with the generation of the operation that sends it. -/
def dispatches (s : Session) : SessionStep → List (Nat × Request)
  | .poll name =>
    match s.futures.find? name with
    | none => []
    | some f =>
      (if f.sent.isNone then [(f.generation, f.request s.endpoint)] else []) ++
        if s.goesOn f then [(s.client.generation + 1, .fetch s.endpoint)] else []
  | _ => []

/-- The requests that are sent in a run, each with the generation of the operation that sends it. -/
def dispatchesIn (s : Session) : List SessionStep → List (Nat × Request)
  | [] => []
  | x :: xs => s.dispatches x ++ (s.step x).1.dispatchesIn xs

/-- A ledger tells for each request which operation sent it, and a future that waits for a reply
waits for the one to a request of its own operation. -/
structure Logged (ledger : List (Nat × Request)) (s : Session) : Prop where
  sent : s.wire.sent = ledger.map (·.2)
  waiting : ∀ name f number, s.futures.find? name = some f → f.sent = some number →
    ledger[number]? = some (f.generation, f.request s.endpoint)

variable {s t : Session} {name : String} {f : Future} {reply : Reply}
  {ledger : List (Nat × Request)}

/-! ### What a step sends -/

/-- The request that a poll sends first, if the future has not sent it. -/
def firstDispatch (s : Session) (f : Future) : List (Nat × Request) :=
  if f.sent.isNone then [(f.generation, f.request s.endpoint)] else []

/-- The request that a future sends after it has used a reply. -/
def nextDispatch (s : Session) (f : Future) (reply : Reply) : List (Nat × Request) :=
  if s.client.generation = f.generation ∧ (f.result reply).isNone then
    [(s.client.generation + 1, .fetch s.endpoint)]
  else []

/-- What a poll sends, by the reply that it finds. -/
lemma dispatches_poll {number : Nat} {reply : Option Reply} (hf : s.futures.find? name = some f)
    (hx : (s.without name).receive f = (t, number, reply)) :
    s.dispatches (.poll name) = s.firstDispatch f ++ reply.elim [] (t.nextDispatch f) := by
  have hreply : s.replyTo f = reply := by
    rw [← show ((s.without name).receive f).2.2 = reply from congrArg (·.2.2) hx]
    simp only [replyTo, receive]
    cases f.sent <;> rfl
  have hclient : t.client = s.client := congrArg (·.client) (receive_eq hx)
  have hendpoint : t.endpoint = s.endpoint := congrArg (·.endpoint) (receive_eq hx)
  simp only [dispatches, hf, goesOn, hreply, firstDispatch]
  cases reply with
  | none => simp
  | some reply => simp [nextDispatch, hclient, hendpoint]

/-- The ledger of a step lists the requests that it sends. -/
lemma sent_step (s : Session) (x : SessionStep) :
    (s.step x).1.wire.sent = s.wire.sent ++ (s.dispatches x).map (·.2) := by
  cases x with
  | poll name =>
    cases hf : s.futures.find? name with
    | none => simp [step, poll_of_absent s hf, dispatches, hf]
    | some f =>
      rw [step, poll_sent s hf]
      simp only [dispatches, hf, List.map_append]
      split <;> split <;> rfl
  | _ => simp [step_sent_of_not_poll, dispatches]

/-- **The ledger of a run lists the requests that it sends.** -/
lemma sent_run (s : Session) (steps : List SessionStep) :
    (s.run steps).wire.sent = s.wire.sent ++ (s.dispatchesIn steps).map (·.2) := by
  induction steps generalizing s with
  | nil => simp [run, dispatchesIn]
  | cons x xs ih =>
    rw [dispatchesIn, List.map_append, ← List.append_assoc, ← sent_step, ← ih]
    rfl

/-! ### The ledger is kept -/

/-- Settling keeps the endpoint. -/
lemma settle_endpoint (s : Session) (generation : Nat) (next : LoadState) :
    (s.settle generation next).endpoint = s.endpoint := by
  by_cases hgeneration : s.client.generation = generation
  · obtain ⟨k, hk⟩ := settle_moves (fun _ _ => True) s next
    rw [← hgeneration]
    exact hk.endpoint
  · rw [settle_of_superseded hgeneration]

/-- Settling sends nothing, and a load that an observer calls for has sent nothing. -/
lemma Logged.settle (hs : Logged ledger s) (generation : Nat) (next : LoadState) :
    Logged ledger (s.settle generation next) := by
  refine ⟨by rw [settle_wire]; exact hs.sent, fun name f number hf hsent => ?_⟩
  rw [(s.settle_visited generation next).find?] at hf
  split at hf
  · rw [← Option.some.inj hf] at hsent
    simp [Future.sent] at hsent
  · rw [settle_endpoint]
    exact hs.waiting name f number hf hsent

/-- An entry of a ledger stays where it is when others are added. -/
lemma getElem?_append_of_eq_some {number : Nat} {entry : Nat × Request}
    (h : ledger[number]? = some entry) (more : List (Nat × Request)) :
    (ledger ++ more)[number]? = some entry := by
  obtain ⟨hlt, -⟩ := List.getElem?_eq_some_iff.mp h
  rw [List.getElem?_append_left hlt, h]

/-- The next number is that of the next entry. -/
lemma Logged.length (hs : Logged ledger s) : s.wire.sent.length = ledger.length := by
  rw [hs.sent, List.length_map]

/-- A load that has begun after a submission or a revocation sends its request. -/
lemma Logged.refetching (hs : Logged ledger s) :
    Logged (ledger ++ [(s.client.generation + 1, .fetch s.endpoint)]) s.refetching := by
  constructor
  · show s.wire.sent ++ [.fetch s.endpoint] = _
    rw [hs.sent, List.map_append]
    rfl
  · intro name f number hf hsent
    exact getElem?_append_of_eq_some (hs.waiting name f number hf hsent) _

/-- A future that is put under a name waits for a request that its operation has sent. -/
lemma Logged.put (hs : Logged ledger s) (name : String)
    (hf : ∀ number, f.sent = some number →
      ledger[number]? = some (f.generation, f.request s.endpoint)) :
    Logged ledger { s with futures := s.futures.put name f } := by
  refine ⟨hs.sent, fun other g number hg hsent => ?_⟩
  by_cases hother : other = name
  · rw [hother, Table.find?_put_self] at hg
    obtain rfl := Option.some.inj hg
    exact hf number hsent
  · rw [Table.find?_put_of_ne _ _ hother] at hg
    exact hs.waiting other g number hg hsent

/-- Using a reply keeps the ledger, in which the load that follows is entered. -/
lemma Logged.consume (ht : Logged ledger t) (f : Future) (reply : Reply) (name : String) :
    Logged (ledger ++ t.nextDispatch f reply) (keep name (t.consume f reply)).1 := by
  rw [nextDispatch]
  cases hresult : f.result reply with
  | some next =>
    rw [keep_consume_of_result hresult, if_neg (by simp), List.append_nil]
    exact ht.settle _ _
  | none =>
    by_cases hlatest : t.client.generation = f.generation
    · rw [if_pos ⟨hlatest, rfl⟩, consume_of_accepted hresult t hlatest, reload_eq]
      cases t.wire.scripted[t.wire.sent.length]?.join with
      | some again => exact ht.refetching.settle _ _
      | none =>
        refine ht.refetching.put name fun number hnumber => ?_
        obtain rfl := Option.some.inj hnumber
        rw [ht.length, List.getElem?_concat_length]
        rfl
    · rw [if_neg (fun h => hlatest h.1), List.append_nil, consume_of_superseded (Ne.symm hlatest),
        keep_lapse]
      exact ht

/-- Looking for the reply of a future enters its request, unless it has been sent before. -/
lemma Logged.receive {number : Nat} {reply : Option Reply} (hs : Logged ledger s)
    (hf : s.futures.find? name = some f)
    (hx : (s.without name).receive f = (t, number, reply)) :
    Logged (ledger ++ s.firstDispatch f) t ∧
      (ledger ++ s.firstDispatch f)[number]? = some (f.generation, f.request s.endpoint) := by
  have hframe := receive_eq hx
  have hfutures : t.futures = s.futures.erase name := congrArg (·.futures) hframe
  have hendpoint : t.endpoint = s.endpoint := congrArg (·.endpoint) hframe
  have hsent : t.wire.sent = (ledger ++ s.firstDispatch f).map (·.2) := by
    rw [receive_sent hx, firstDispatch, List.map_append, ← hs.sent]
    cases f.sent with
    | none => rfl
    | some _ => simp [without]
  refine ⟨⟨hsent, fun other g n hg hn => ?_⟩, ?_⟩
  · rw [hfutures] at hg
    have hother : other ≠ name := by
      rintro rfl
      simp at hg
    rw [Table.find?_erase_of_ne _ hother] at hg
    rw [hendpoint]
    exact getElem?_append_of_eq_some (hs.waiting other g n hg hn) _
  · have hnumber : number = f.sent.getD s.wire.sent.length := by
      rw [← show ((s.without name).receive f).2.1 = number from congrArg (·.2.1) hx]
      simp only [Session.receive]
      cases f.sent <;> rfl
    rw [hnumber, firstDispatch]
    cases hwaits : f.sent with
    | none =>
      rw [Option.getD_none, hs.length]
      exact List.getElem?_concat_length
    | some n => exact getElem?_append_of_eq_some (hs.waiting name f n hf hwaits) _

/-- A poll enters what it sends. -/
lemma Logged.poll (hs : Logged ledger s) (name : String) :
    Logged (ledger ++ s.dispatches (.poll name)) (s.poll name).1 := by
  cases hf : s.futures.find? name with
  | none =>
    rw [poll_of_absent s hf, dispatches, hf, List.append_nil]
    exact hs
  | some f =>
    rcases hx : (s.without name).receive f with ⟨t, number, reply⟩
    obtain ⟨ht, hnumber⟩ := hs.receive hf hx
    have hendpoint : t.endpoint = s.endpoint := congrArg (·.endpoint) (receive_eq hx)
    rw [dispatches_poll hf hx]
    cases reply with
    | none =>
      rw [Option.elim_none, List.append_nil]
      simp only [Session.poll, hf, pollFuture, hx, keep]
      refine ht.put name fun n hn => ?_
      rw [Future.sent_waitingFor] at hn
      obtain rfl := Option.some.inj hn
      rw [hnumber, hendpoint, Future.generation_waitingFor, Future.request_waitingFor]
    | some reply =>
      rw [Option.elim_some, ← List.append_assoc, poll_of_reply hf hx]
      exact ht.consume f reply name

/-- A step enters what it sends. -/
lemma Logged.step (hs : Logged ledger s) (x : SessionStep) :
    Logged (ledger ++ s.dispatches x) (s.step x).1 := by
  by_cases hx : ∃ name, x = .poll name
  · obtain ⟨name, rfl⟩ := hx
    exact hs.poll name
  · have hpoll := not_exists.mp hx
    have hnone : s.dispatches x = [] := by
      cases x with
      | poll name => exact absurd rfl (hpoll name)
      | _ => rfl
    have hendpoint : (s.step x).1.endpoint = s.endpoint := s.endpoint_run [x]
    rw [hnone, List.append_nil]
    refine ⟨by rw [step_sent_of_not_poll s hpoll]; exact hs.sent, fun name f number hf hsent => ?_⟩
    by_cases hmade : ∃ g, s.Makes x name g
    · obtain ⟨g, hmakes⟩ := hmade
      obtain rfl := Option.some.inj (hmakes.find?.symm.trans hf)
      simp [hmakes.sent] at hsent
    · have hown := step_find? (not_exists.mp hmade)
      rw [hf] at hown
      rw [hendpoint]
      generalize hc : some f = c at hown
      cases hown with
      | called hcall => exact absurd ⟨_, .called hcall⟩ hmade
      | dropped _ => simp at hc
      | completed hx => exact absurd hx (hpoll name)
      | goesOn hx _ _ _ => exact absurd hx (hpoll name)
      | kept _ _ _ => exact hs.waiting name f number hc.symm hsent

/-- **The ledger of a run agrees with the session after it.** -/
lemma Logged.run (hs : Logged ledger s) (steps : List SessionStep) :
    Logged (ledger ++ s.dispatchesIn steps) (s.run steps) := by
  induction steps generalizing s ledger with
  | nil =>
    rw [dispatchesIn, List.append_nil]
    exact hs
  | cons x xs ih =>
    rw [dispatchesIn, ← List.append_assoc]
    exact ih (hs.step x)

/-- The ledger of a session in which nothing has happened is empty. -/
lemma logged_fresh (endpoint : String) (surface : Surface) (bridge : Bridge)
    (scripted : List (Option Reply)) : Logged [] (fresh endpoint surface bridge scripted) :=
  ⟨rfl, nofun⟩

/-! ### Replies that are used -/

/-- **A reply that is used answers a request of the operation that uses it.**

**Proof sketch.** A future uses the reply to the number that it waits for. The load that follows a
submission or a revocation has sent its request in the same poll. -/
lemma Uses.dispatched (hs : Logged ledger s) (h : s.Uses name t f reply) :
    ∃ number, f.sent = some number ∧ s.Offers number reply ∧
      (ledger ++ s.dispatches (.poll name))[number]? =
        some (f.generation, f.request s.endpoint) := by
  obtain ⟨number, hsent, hoffers⟩ := h.offers
  refine ⟨number, hsent, hoffers, ?_⟩
  cases h with
  | @own g _ n _ hf hx =>
    rw [Future.sent_waitingFor] at hsent
    obtain rfl := Option.some.inj hsent
    rw [dispatches_poll hf hx, ← List.append_assoc, Future.generation_waitingFor,
      Future.request_waitingFor]
    exact getElem?_append_of_eq_some (hs.receive hf hx).2 _
  | @reload g u _ n accepted _ haccept hlatest hresult hfetch =>
    obtain rfl := Option.some.inj hsent
    cases haccept with
    | reload _ _ _ _ => simp [Future.result] at hresult
    | @own g _ m _ hf hx =>
      rw [Future.generation_waitingFor] at hlatest
      rw [Future.result_waitingFor] at hresult
      obtain ⟨hu, -⟩ := hs.receive hf hx
      obtain ⟨rfl, hnumber⟩ := Prod.mk.inj hfetch
      obtain ⟨rfl, -⟩ := Prod.mk.inj hnumber
      have hendpoint : u.endpoint = s.endpoint := congrArg (·.endpoint) (receive_eq hx)
      rw [dispatches_poll hf hx, ← List.append_assoc, Option.elim_some, nextDispatch,
        if_pos ⟨hlatest, Option.isNone_iff_eq_none.mpr hresult⟩]
      show (_ ++ _)[u.wire.sent.length]? = _
      rw [hu.length, List.getElem?_concat_length, hendpoint]
      rfl

end Session

end Consent
