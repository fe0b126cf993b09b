import Consent.Proofs.Session.History
import Consent.Proofs.Session.Replies

set_option autoImplicit false

/-!
# Failed operations

An operation fails when no response arrives, when the response has another status than the one that
means success, or when the body of a fetched record is not one. The load that follows a submission
or a revocation is a fetch of its own.

A failure of the latest operation is shown, and that is all: what is known, what the host has been
told and what it will be told, and the requests stay as they are at the moment before the reply is
used.

## Main definitions

* `Consent.Operation.Fails` — how an operation fails with a reply.

## Main results

* `Consent.Future.result_eq_failed_iff` — the replies with which a future settles a failure.
* `Consent.Session.failed_operation_changes_only_state` — what comes of a failure in every session.
-/

namespace Consent

open Observer

/-- How an operation fails with a reply. -/
inductive Operation.Fails (operation : Operation) : Reply → SyncError → Prop where
  /-- No response arrives, and the failure is what the transport reports. -/
  | transport (e : SyncError) : Fails operation (.error e) e
  /-- The response has another status than the one that means success. -/
  | status {response : Response} (hstatus : response.status ≠ operation.successStatus) :
      Fails operation (.ok response)
        (.unexpectedStatus operation response.status (SyncError.snippet response.body))
  /-- A fetch succeeds, and the body of the response is not a valid record. -/
  | body {response : Response} {error : Record.Error} (hfetch : operation = .fetch)
      (hstatus : response.status = operation.successStatus)
      (hbody : Record.ofJson response.body = .error error) :
      Fails operation (.ok response) (.malformedResponse operation error.message)

/-! ### Outcomes that are failures -/

/-- A reply passes the check of its status unless it fails before its body matters. -/
lemma Operation.bind_check_eq_error_iff {operation : Operation} {reply : Reply} {e : SyncError} :
    reply.bind operation.check = .error e ↔
      reply = .error e ∨ ∃ response, reply = .ok response ∧
        response.status ≠ operation.successStatus ∧
        e = .unexpectedStatus operation response.status (SyncError.snippet response.body) := by
  cases reply with
  | error e' => simp [Except.bind]
  | ok response =>
    by_cases hstatus : response.status = operation.successStatus
    · simp [Except.bind, Operation.check, hstatus]
    · simp [Except.bind, Operation.check, hstatus, SyncError.ofStatus, eq_comm]

/-- What a response to a fetch comes to: its status is checked first, and then its body. -/
lemma settled_ok (response : Response) :
    Session.settled (.ok response) =
      if response.status = Operation.fetch.successStatus then
        match Record.ofJson response.body with
        | .error e => .failed (.malformedResponse .fetch e.message)
        | .ok r => .ready r
      else
        .failed (.unexpectedStatus .fetch response.status (SyncError.snippet response.body)) := by
  simp only [Session.settled, Except.bind, decodeRecord, Operation.check, SyncError.ofStatus]
  by_cases hstatus : response.status = Operation.fetch.successStatus
  · simp only [if_pos hstatus]
    cases Record.ofJson response.body <;> rfl
  · simp only [if_neg hstatus]

/-- The replies with which a fetch settles a failure. -/
lemma settled_eq_failed_iff {reply : Reply} {e : SyncError} :
    Session.settled reply = .failed e ↔ Operation.fetch.Fails reply e := by
  constructor
  · intro h
    cases reply with
    | error e' =>
      obtain rfl := LoadState.failed.inj h
      exact .transport e'
    | ok response =>
      rw [settled_ok] at h
      split at h
      · rename_i hstatus
        cases hbody : Record.ofJson response.body with
        | error error =>
          rw [hbody] at h
          obtain rfl := LoadState.failed.inj h
          exact .body rfl hstatus hbody
        | ok r =>
          rw [hbody] at h
          simp at h
      · rename_i hstatus
        obtain rfl := LoadState.failed.inj h
        exact .status hstatus
  · intro h
    cases h with
    | transport e => rfl
    | status hstatus => rw [settled_ok, if_neg hstatus]
    | body _ hstatus hbody => rw [settled_ok, if_pos hstatus, hbody]

/-- **The replies with which a future settles a failure** are those with which the operation of its
request fails. What a submission or a revocation gets back is not decoded. -/
lemma Future.result_eq_failed_iff {f : Future} {reply : Reply} {e : SyncError} (endpoint : String)
    (hf : ∀ generation request sent, f = .mutation generation request sent →
      request.operation ≠ .fetch) :
    f.result reply = some (.failed e) ↔ (f.request endpoint).operation.Fails reply e := by
  cases f with
  | load generation sent =>
    show some (Session.settled reply) = some (.failed e) ↔ Operation.fetch.Fails reply e
    rw [Option.some_inj, settled_eq_failed_iff]
  | reload generation sent =>
    show some (Session.settled reply) = some (.failed e) ↔ Operation.fetch.Fails reply e
    rw [Option.some_inj, settled_eq_failed_iff]
  | mutation generation request sent =>
    have hcheck : (Future.mutation generation request sent).result reply = some (.failed e) ↔
        reply.bind request.operation.check = .error e := by
      simp only [Future.result]
      cases reply.bind request.operation.check <;> simp
    rw [hcheck, Operation.bind_check_eq_error_iff]
    constructor
    · rintro (rfl | ⟨response, rfl, hstatus, rfl⟩)
      · exact .transport e
      · exact .status hstatus
    · intro h
      cases h with
      | transport e => exact .inl rfl
      | status hstatus => exact .inr ⟨_, rfl, hstatus, rfl⟩
      | body hfetch _ _ => exact absurd hfetch (hf generation request sent rfl)

namespace Session

/-- In every session, a submission or a revocation is no fetch. -/
lemma operation_ne_fetch {start : Session} (hstart : start.futures = []) (steps : List SessionStep)
    {name : String} {generation : Nat} {request : Request} {sent : Option Nat}
    (hf : (start.run steps).futures.find? name = some (.mutation generation request sent)) :
    request.operation ≠ .fetch := by
  obtain ⟨before, x, since, f₀, rfl, hmakes, hspares⟩ := exists_origin hstart steps hf
  have hfind := hmakes.find?
  rw [← run_concat] at hfind
  obtain ⟨hunpolled, hpolled⟩ := hspares.find? hfind
  rw [← run_append, List.append_assoc, List.singleton_append] at hunpolled hpolled
  have hbecomes : f₀.Becomes (.mutation generation request sent) := by
    by_cases hmem : .poll name ∈ since
    · exact (hpolled hmem _ hf).1
    · rw [Option.some.inj ((hunpolled hmem).symm.trans hf)]
      exact .same _
  intro hfetch
  have hsuccess := (hmakes.mutation hbecomes).2
  rw [hfetch] at hsuccess
  exact absurd hsuccess (by decide)

/-- In every session, a submission or a revocation that uses its reply is no fetch. -/
lemma Uses.operation_ne_fetch {start : Session} (hstart : start.futures = [])
    {steps : List SessionStep} {t : Session} {name : String} {f : Future} {reply : Reply}
    (h : (start.run steps).Uses name t f reply) (generation : Nat) (request : Request)
    (sent : Option Nat) (hf : f = .mutation generation request sent) :
    request.operation ≠ .fetch := by
  cases h with
  | @own g _ number _ hfind _ =>
    cases g with
    | load _ _ => simp [Future.waitingFor] at hf
    | reload _ _ => simp [Future.waitingFor] at hf
    | mutation _ _ _ =>
      obtain ⟨-, rfl, -⟩ := Future.mutation.inj hf
      exact Session.operation_ne_fetch hstart steps hfind
  | reload _ _ _ _ => simp at hf

/-- A failure that the latest operation settles is shown, and nothing else happens. -/
lemma consume_of_failure {t : Session} {f : Future} {reply : Reply} {e : SyncError}
    (hlatest : t.client.generation = f.generation) (hresult : f.result reply = some (.failed e))
    (name : String) :
    (keep name (t.consume f reply)).1 = t.showing (t.client.transition (.failed e)) := by
  rw [keep_consume_of_result hresult, settle, Client.settle?, if_pos hlatest]
  rfl

/-- **A failed operation changes nothing but the state shown**, in every session. Whenever the
latest operation uses a reply with which it fails, be it a load, a submission, a revocation or the
load that follows one of these, the state becomes this failure and is shown once; and the rest of
the session is what it was just before: the record last known, the host with its bridge (the tickets
given out, what is held, the counts, the observer attached), the calls of observers, and the
requests sent. Conversely, a failure is shown only by such an operation.

**Proof sketch.** The operation settles a failure (`Future.result_eq_failed_iff`), which is a state
without a record, so no ticket is taken and nothing is forwarded. Whatever settles in a step uses a
reply (`exists_uses_of_settled`). -/
theorem failed_operation_changes_only_state (endpoint : String) (surface : Surface)
    (bridge : Bridge) (scripted : List (Option Reply)) (steps : List SessionStep) :
    let s := (fresh endpoint surface bridge scripted).run steps
    (∀ name t f reply e, s.Uses name t f reply → t.client.generation = f.generation →
      (f.request endpoint).operation.Fails reply e →
      let u := (s.step (.poll name)).1
      u.client.state = .failed e ∧ u.rendered = t.rendered ++ [.failed e] ∧
      u.client.lastReady = t.client.lastReady ∧ u.client.generation = t.client.generation ∧
      u.host = t.host ∧ u.notes = t.notes ∧ u.wire = t.wire ∧ u.futures = t.futures) ∧
    (∀ x e, .failed e ∈ (s.step x).1.rendered.drop s.rendered.length →
      ∃ name t f reply, x = .poll name ∧ s.Uses name t f reply ∧
        t.client.generation = f.generation ∧ (f.request endpoint).operation.Fails reply e) := by
  intro s
  have hstart : (fresh endpoint surface bridge scripted).futures = [] := rfl
  have hresult : ∀ {name t f reply e}, s.Uses name t f reply →
      (f.result reply = some (.failed e) ↔ (f.request endpoint).operation.Fails reply e) :=
    fun huses => Future.result_eq_failed_iff endpoint (huses.operation_ne_fetch hstart)
  refine ⟨fun name t f reply e huses hlatest hfails => ?_, fun x e h => ?_⟩
  · have hafter : (s.step (.poll name)).1 = t.showing (t.client.transition (.failed e)) := by
      rw [step, huses.poll, consume_of_failure hlatest ((hresult huses).mpr hfails)]
    simp only [hafter]
    exact ⟨rfl, rfl, rfl, rfl, rfl, notes_showing _ _, rfl, rfl⟩
  · have horderly := (orderly_fresh endpoint surface bridge scripted).run steps
    have hs : Recorded ((fresh endpoint surface bridge scripted).eventsIn steps) s :=
      (recorded_fresh endpoint surface bridge scripted).run
        (orderly_fresh endpoint surface bridge scripted) steps
    rw [(hs.step horderly x).rendered, hs.rendered, List.map_append, List.length_map,
      List.drop_left' (List.length_map _), List.mem_map] at h
    obtain ⟨event, hevent, hshown⟩ := h
    cases event with
    | settled generation next =>
      obtain rfl : next = .failed e := hshown
      obtain ⟨name, t, f, reply, rfl, huses, hlatest, -, hfailed⟩ := exists_uses_of_settled hevent
      exact ⟨name, t, f, reply, rfl, huses, hlatest, (hresult huses).mp hfailed⟩
    | called => simp [Event.shown] at hshown
    | reloaded => simp [Event.shown] at hshown
    | reentered => simp [Event.shown] at hshown

/-- The replies to a load, which grants access, to a submission, and to the load that follows it. -/
def grantedThenDown : List (Option Reply) :=
  [some (.ok ⟨200, Utf8.ofString "\x7b\"testbed_access\":true,\"until\":\"2030-01-01\"\x7d"⟩),
    some (.ok (.empty 204)), some (.ok ⟨500, Utf8.ofString "down"⟩)]

/-- A submission after a first load. -/
def submissionAfterLoad : List SessionStep := [.load "a", .poll "a", .submit "b" .acceptAll]

/-- The poll that accepts the submission goes on with a load, which fails; the record of the first
load is still known, and still held for the host. -/
theorem failed_reload_keeps_record :
    let s := (fresh gdprEndpoint .lines .watching grantedThenDown).run submissionAfterLoad
    let u := (s.step (.poll "b")).1
    let granted : Record := ⟨"", false, false, true, "2030-01-01"⟩
    (∃ t f reply, s.Uses "b" t f reply ∧ t.client.generation = f.generation ∧
      (f.request gdprEndpoint).operation.Fails reply (.unexpectedStatus .fetch 500 "down")) ∧
    u.client.state = .failed (.unexpectedStatus .fetch 500 "down") ∧
    u.rendered = [.loading, .ready granted, .loading, .loading,
      .failed (.unexpectedStatus .fetch 500 "down")] ∧
    u.client.lastReady = some granted ∧ u.host.bridge.pendingRecord = some granted ∧
    u.host.bridge.notified = 1 ∧ u.wire.sent.length = 3 := by
  intro s u granted
  let t := ((s.without "b").receive (.mutation 2 (.submit gdprEndpoint .acceptAll) none)).1
  have haccept : s.Uses "b" t (.mutation 2 (.submit gdprEndpoint .acceptAll) (some 1))
      (.ok (.empty 204)) :=
    .own (f := .mutation 2 (.submit gdprEndpoint .acceptAll) none) (by decide +kernel)
      (Prod.ext rfl (by decide +kernel))
  have huses : s.Uses "b" t.refetching (.reload t.refetching.client.generation 2)
      (.ok ⟨500, Utf8.ofString "down"⟩) :=
    .reload haccept (by decide +kernel) (by decide +kernel) (Prod.ext rfl (by decide +kernel))
  have hfails : (Request.fetch gdprEndpoint).operation.Fails
      (.ok ⟨500, Utf8.ofString "down"⟩) (.unexpectedStatus .fetch 500 "down") := by
    have hdown : SyncError.snippet (Utf8.ofString "down") = "down" := by decide +kernel
    exact hdown ▸ .status (by decide)
  obtain ⟨hstate, hrendered, hlast, -, hhost, -, hwire, -⟩ :=
    (failed_operation_changes_only_state gdprEndpoint .lines .watching grantedThenDown
      submissionAfterLoad).1 "b" _ _ _ _ huses rfl hfails
  refine ⟨⟨_, _, _, huses, rfl, hfails⟩, hstate, hrendered.trans ?_, hlast.trans ?_, ?_, ?_, ?_⟩
  · decide +kernel
  · decide +kernel
  · rw [hhost]
    decide +kernel
  · rw [hhost]
    decide +kernel
  · rw [hwire]
    decide +kernel

end Session

end Consent
