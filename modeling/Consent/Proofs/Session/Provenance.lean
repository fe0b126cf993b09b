import Consent.Proofs.Record.Decoding
import Consent.Proofs.Session.Dispatches
import Consent.Proofs.Session.Failure

set_option autoImplicit false

/-!
# Where records come from

A record comes into a session in one way only, unless the host brings it: an operation fetches it.
The operation sends the request, uses the reply to it while it is the latest operation, decodes the
body of the response, and settles the record. From there it goes to the state and the memory of the
client, and on to the bridge, which holds it or tells the observer what follows from it.

## Main definitions

* `Consent.Session.Replied` — a reply has come in, or is known in advance.
* `Consent.Session.Fetched` — an operation has fetched a record.

## Main results

* `Consent.Future.result_eq_ready_iff` — the replies with which a future settles a record.
* `Consent.Session.fetched_of_settled` — every record that is settled has been fetched.
* `Consent.Session.known_of_notes` — observers are told about records that the client knew.
* `Consent.Session.records_come_from_fetches` — the records of every session.
-/

namespace Consent

open Observer

/-! ### Records and bodies -/

/-- A valid record that grants access has an expiry that can be read, and this is what an observer
is told. -/
lemma Record.expiry_of_approve {r : Record} (hvalid : r.validate = .ok ()) {expiry : String}
    (h : r.verdict = .approve expiry) :
    r.testbedAccess = true ∧ r.validUntil = expiry ∧ expiry ≠ "" ∧
      (Expiry.parse expiry).isSome = true := by
  rw [Record.verdict] at h
  split at h
  · rename_i haccess
    obtain rfl := Verdict.approve.inj h
    rcases (Record.validate_eq_ok_iff r).mp hvalid with ⟨-, hno⟩ | ⟨hsome, hparse⟩
    · simp [haccess] at hno
    · exact ⟨haccess, rfl, hsome, hparse⟩
  · simp at h

/-- The replies with which a fetch settles a record. -/
lemma settled_eq_ready_iff {reply : Reply} {r : Record} :
    Session.settled reply = .ready r ↔
      ∃ body, reply = .ok ⟨200, body⟩ ∧ Record.ofJson body = .ok r := by
  cases reply with
  | error e => simp [Session.settled, Except.bind]
  | ok response =>
    obtain ⟨status, body⟩ := response
    rw [settled_ok]
    by_cases hstatus : status = Operation.fetch.successStatus
    · cases hbody : Record.ofJson body <;> simp [hstatus, Operation.successStatus, hbody]
    · have hother : status ≠ 200 := hstatus
      simp [Operation.successStatus, hother]

/-- **Only the response to a fetch becomes a record.** What a submission or a revocation gets back
does not, whatever it holds. -/
lemma Future.result_eq_ready_iff {f : Future} {reply : Reply} {r : Record} (endpoint : String)
    (hf : ∀ generation request sent, f = .mutation generation request sent →
      request.operation ≠ .fetch) :
    f.result reply = some (.ready r) ↔ f.request endpoint = .fetch endpoint ∧
      ∃ body, reply = .ok ⟨200, body⟩ ∧ Record.ofJson body = .ok r := by
  cases f with
  | load _ _ => simp [result, request, settled_eq_ready_iff]
  | reload _ _ => simp [result, request, settled_eq_ready_iff]
  | mutation generation request sent =>
    have hrequest : request ≠ .fetch endpoint := by
      rintro rfl
      exact hf generation _ sent rfl rfl
    have hready : (mutation generation request sent).result reply ≠ some (.ready r) := by
      simp only [result]
      split <;> simp
    exact iff_of_false hready fun h => hrequest h.1

namespace Session

/-- A reply has come in for a request, or is known in advance. -/
def Replied (start : Session) (steps : List SessionStep) (number : Nat) (reply : Reply) : Prop :=
  start.wire.scripted[number]?.join = some reply ∨ .respond number reply ∈ steps

/-- An operation has fetched a record: it is the body of a response with the status 200, and valid,
and the response is the reply to a fetch that this operation sent. The reply was used in a poll in
which this was the latest operation. -/
structure Fetched (start : Session) (steps : List SessionStep) (generation : Nat) (body : Bytes)
    (r : Record) : Prop where
  /-- The body of the response is the record. -/
  decodes : Record.ofJson body = .ok r
  valid : r.validate = .ok ()
  /-- The response replies to a fetch of the operation, and was used when it was the latest. -/
  used : ∃ before name since t f number, steps = before ++ .poll name :: since ∧
    (start.run before).Uses name t f (.ok ⟨200, body⟩) ∧
    f.generation = generation ∧ t.client.generation = generation ∧ f.sent = some number ∧
    (start.dispatchesIn (before ++ [.poll name]))[number]? =
      some (generation, .fetch start.endpoint) ∧
    start.Replied before number (.ok ⟨200, body⟩)

variable {s t start : Session} {steps : List SessionStep} {generation : Nat} {body : Bytes}
  {r : Record}

/-! ### Settled records have been fetched -/

/-- What has been fetched in a run has been fetched in a longer one. -/
lemma Fetched.append (h : start.Fetched steps generation body r) (more : List SessionStep) :
    start.Fetched (steps ++ more) generation body r := by
  obtain ⟨before, name, since, t, f, number, rfl, hused⟩ := h.used
  exact ⟨h.decodes, h.valid, before, name, since ++ more, t, f, number, by simp, hused⟩

/-- An event of a run is one of a step. -/
lemma exists_step_of_mem_eventsIn {e : Event} (h : e ∈ start.eventsIn steps) :
    ∃ before x since, steps = before ++ x :: since ∧ e ∈ (start.run before).events x := by
  induction steps generalizing start with
  | nil => simp [eventsIn] at h
  | cons x xs ih =>
    rcases List.mem_append.mp h with h | h
    · exact ⟨[], x, xs, rfl, h⟩
    · obtain ⟨before, y, since, rfl, hevent⟩ := ih h
      exact ⟨x :: before, y, since, rfl, hevent⟩

/-- The ledger of a run and of one more step. -/
lemma dispatchesIn_concat (start : Session) (steps : List SessionStep) (x : SessionStep) :
    start.dispatchesIn (steps ++ [x]) =
      start.dispatchesIn steps ++ (start.run steps).dispatches x := by
  induction steps generalizing start with
  | nil => simp [dispatchesIn, run]
  | cons y ys ih =>
    rw [List.cons_append, dispatchesIn, ih, dispatchesIn, List.append_assoc]
    rfl

/-- Moves keep the replies that are known in advance. -/
lemma Moves.scripted {offered : Nat → Reply → Prop} {es : List Event} (h : Moves offered s es t) :
    t.wire.scripted = s.wire.scripted := by
  induction h with
  | nil _ => rfl
  | cons h _ ih =>
    rw [ih]
    cases h with
    | beside h => exact h.scripted
    | _ => rfl

/-- A session keeps the replies that are known in advance. -/
lemma scripted_run (s : Session) (steps : List SessionStep) :
    (s.run steps).wire.scripted = s.wire.scripted := by
  induction steps generalizing s with
  | nil => rfl
  | cons x xs ih =>
    refine (ih (s.step x).1).trans ?_
    rcases s.step_cases_moves x with ⟨name, rfl⟩ | h
    · rfl
    · exact h.scripted

/-- The replies that are there after a run have come in. -/
lemma responded_of_arrived (hstart : start.wire.arrived = []) {number : Nat} {reply : Reply}
    (h : (number, reply) ∈ (start.run steps).wire.arrived) : .respond number reply ∈ steps := by
  induction steps using List.reverseRecOn with
  | nil =>
    rw [show (start.run []).wire.arrived = [] from hstart] at h
    simp at h
  | append_singleton steps x ih =>
    rw [run_concat] at h
    rcases (start.run steps).arrived_step x _ h with h | rfl
    · exact List.mem_append_left _ (ih h)
    · simp

/-- The replies that a session offers after a run have come in, or were known in advance. -/
lemma replied_of_offers (hstart : start.wire.arrived = []) {number : Nat} {reply : Reply}
    (h : (start.run steps).Offers number reply) : start.Replied steps number reply := by
  rcases h with h | h
  · obtain ⟨before, since, hsplit, -⟩ := List.lookup_eq_some_iff.mp h
    exact .inr (responded_of_arrived hstart (by simp [hsplit]))
  · rw [scripted_run] at h
    exact .inl h

/-- **Every record that is settled has been fetched.**

**Proof sketch.** Whatever settles uses a reply as the latest operation
(`exists_uses_of_settled`), which answers a request that it sent (`Uses.dispatched`). A record is
settled only with a response to a fetch (`Future.result_eq_ready_iff`). -/
lemma fetched_of_settled (hfutures : start.futures = []) (harrived : start.wire.arrived = [])
    (hledger : Logged [] start) (h : .settled generation (.ready r) ∈ start.eventsIn steps) :
    ∃ body, start.Fetched steps generation body r := by
  obtain ⟨before, x, since, rfl, hevent⟩ := exists_step_of_mem_eventsIn h
  obtain ⟨name, t, f, reply, rfl, huses, hlatest, rfl, hresult⟩ := exists_uses_of_settled hevent
  obtain ⟨number, hsent, hoffers, hentry⟩ := huses.dispatched (hledger.run before)
  obtain ⟨hfetch, body, rfl, hbody⟩ := (Future.result_eq_ready_iff (start.run before).endpoint
    (huses.operation_ne_fetch hfutures)).mp hresult
  rw [hfetch, List.nil_append, ← dispatchesIn_concat, endpoint_run] at hentry
  exact ⟨body, hbody, (Record.ofJson_eq_ok_iff.mp hbody).2, before, name, since, t, f, number, rfl,
    huses, rfl, hlatest, hsent, hentry, replied_of_offers harrived hoffers⟩

/-! ### What observers are told -/

/-- A call that comes about in a step is about the record that the client knows after it, unless
the host brings a record itself. -/
lemma known_of_notes_step (hs : Holding s ∨ ∃ h, Serving h s) {x : SessionStep}
    (hx : x.brings = false) {n : Note} (hn : n ∈ (s.step x).1.notes) :
    n ∈ s.notes ∨ ∃ r, n.verdict = r.verdict ∧ (s.step x).1.client.lastReady = some r := by
  rcases s.step_cases hx with hquiet | ⟨t, hst, ⟨h, hattach⟩ | ⟨r, htell⟩⟩
  · rw [hquiet.notes] at hn
    exact .inl hn
  · rw [hattach] at hn ⊢
    rcases hs with hs | ⟨k, hs⟩
    · -- The held record is delivered, and it is the one that the client knows.
      have ht := hs.quiet hst.toQuiet
      obtain ⟨-, -, hlast, hcall⟩ := t.carry_frame (t.host.bridge.attachPhase h)
      rw [← attach_eq] at hlast hcall
      rw [← hst.notes]
      rcases hcall with hsame | ⟨m, d, hone, hd, hverdict, -⟩
      · exact .inl (hsame ▸ hn)
      · rw [hone, List.mem_append, List.mem_singleton] at hn
        refine hn.imp_right fun hm => ⟨d.record, (congrArg Note.verdict hm).trans hverdict, ?_⟩
        rw [Bridge.attachPhase_of_unattached ht.observer] at hd
        obtain ⟨p, hp, rfl⟩ := Option.map_eq_some_iff.mp hd
        rw [hlast, ← ht.pending, Bridge.pendingRecord, hp]
        rfl
    · rw [Serving.attach (hs.quiet hst.toQuiet) h, hst.notes] at hn
      exact .inl hn
  · obtain ⟨-, hlast, -, hnotes⟩ := t.shownReady_frame r
    obtain ⟨-, -, hlast', hcall⟩ := (t.shownReady r).carry_frame
      (t.host.bridge.takeTicket.1.notifyPhase ⟨t.host.bridge.issued + 1⟩ r)
    rw [← tell_eq, hnotes, hst.notes] at hcall
    rw [← tell_eq, hlast, ← htell.lastReady] at hlast'
    rw [htell.notes] at hn
    rcases hcall with hsame | ⟨m, d, hone, hd, hverdict, -⟩
    · exact .inl (hsame ▸ hn)
    · rw [hone, List.mem_append, List.mem_singleton] at hn
      exact hn.imp_right fun hm =>
        ⟨r, by rw [hm, hverdict, Bridge.record_of_notifyPhase hd], hlast'⟩

/-- **Observers are told about records that the client knew**, unless the host brings a record
itself.

**Proof sketch.** By induction on the steps from the end. -/
lemma known_of_notes (hstart : Holding start) (hsteps : ∀ x ∈ steps, x.brings = false) {n : Note}
    (hn : n ∈ (start.run steps).notes) :
    ∃ before since r, steps = before ++ since ∧ n.verdict = r.verdict ∧
      (start.run before).client.lastReady = some r := by
  induction steps using List.reverseRecOn with
  | nil =>
    rw [show (start.run []).notes = [] from hstart.notes] at hn
    simp at hn
  | append_singleton steps x ih =>
    have hbefore : ∀ y ∈ steps, y.brings = false := fun y hy => hsteps y (by simp [hy])
    have hstage : Holding (start.run steps) ∨ ∃ h, Serving h (start.run steps) := by
      rcases hstart.run hbefore with hs | ⟨_, _, _, h, -, -, -, hs⟩
      · exact .inl hs
      · exact .inr ⟨h, hs⟩
    rw [run_concat] at hn
    rcases known_of_notes_step hstage (hsteps x (by simp)) hn with hn | ⟨r, hverdict, hlast⟩
    · obtain ⟨before, since, r, rfl, hr⟩ := ih hbefore hn
      exact ⟨before, since ++ [x], r, by simp, hr⟩
    · rw [← run_concat] at hlast
      exact ⟨steps ++ [x], [], r, by simp, hverdict, hlast⟩

/-! ### The records of a session -/

/-- A record that has been shown as ready has been settled. -/
lemma Recorded.settled_of_ready {log : List Event} (hs : Recorded log s)
    (h : .ready r ∈ s.rendered) : ∃ generation, .settled generation (.ready r) ∈ log := by
  rw [hs.rendered] at h
  obtain ⟨e, he, hshown⟩ := List.mem_map.mp h
  cases e with
  | settled generation state =>
    obtain rfl : state = .ready r := hshown
    exact ⟨generation, he⟩
  | called => simp [Event.shown] at hshown
  | reloaded => simp [Event.shown] at hshown
  | reentered => simp [Event.shown] at hshown

/-- The record that the client shows, or knows, has been shown as ready. -/
lemma Recorded.ready_of_known {log : List Event} (hs : Recorded log s)
    (h : s.client.state = .ready r ∨ s.client.lastReady = some r) : .ready r ∈ s.rendered := by
  rcases h with h | h
  · rw [hs.state] at h
    cases hlast : s.rendered.getLast? with
    | none => simp [hlast] at h
    | some state =>
      rw [hlast, Option.getD_some] at h
      exact h ▸ List.mem_of_getLast? hlast
  · rw [hs.lastReady] at h
    obtain ⟨state, hstate, hr⟩ := List.mem_filterMap.mp (List.mem_of_getLast? h)
    cases state with
    | ready r' =>
      obtain rfl := Option.some.inj hr
      exact hstate
    | _ => simp [LoadState.record?] at hr

/-- **Records come from fetches**, in every session. Whatever an operation settles as a record has
been fetched by this operation: the record is valid, and it is the body of a response with the
status 200 to a fetch that this operation itself sent, used when it was the latest one. Every record
that has ever been shown as ready, and the one that the client shows or knows, was settled in this
way. If the host brings no record to the bridge itself, so was the one that is held for the host,
and every call of an observer is about one of them; an observer that is told of access is told the
expiry of such a record, which is not empty and can be read. What a submission or a revocation gets
back never becomes a record: it settles none, and once its status means success, its body does not
matter.

**Proof sketch.** Every state shown belongs to an event (`Recorded`), and a record that is settled
has been fetched (`fetched_of_settled`). The bridge holds the record that the client knows, and
observers are told about records that it knew (`known_of_notes`). -/
theorem records_come_from_fetches {bridge : Bridge}
    (hbridge : bridge = .detached ∨ bridge = .watching) (endpoint : String) (surface : Surface)
    (scripted : List (Option Reply)) (steps : List SessionStep) :
    let start := fresh endpoint surface bridge scripted
    let s := start.run steps
    s.wire.sent = (start.dispatchesIn steps).map (·.2) ∧
    (∀ generation r, .settled generation (.ready r) ∈ start.eventsIn steps →
      ∃ body, start.Fetched steps generation body r) ∧
    (∀ r, .ready r ∈ s.rendered ∨ s.client.state = .ready r ∨ s.client.lastReady = some r →
      ∃ generation body, start.Fetched steps generation body r) ∧
    ((∀ x ∈ steps, x.brings = false) →
      (∀ r, s.host.bridge.pendingRecord = some r →
        ∃ generation body, start.Fetched steps generation body r) ∧
      (∀ n ∈ s.notes, ∃ generation body r,
        start.Fetched steps generation body r ∧ n.verdict = r.verdict ∧
        ∀ expiry, n.verdict = .approve expiry →
          r.testbedAccess = true ∧ r.validUntil = expiry ∧ expiry ≠ "" ∧
          (Expiry.parse expiry).isSome = true)) ∧
    (∀ name t f reply, s.Uses name t f reply → (f.request endpoint).method ≠ .get →
      (∀ r, f.result reply ≠ some (.ready r)) ∧
      ∀ body body', t.consume f (.ok ⟨204, body⟩) = t.consume f (.ok ⟨204, body'⟩)) := by
  intro start s
  have hrecorded : ∀ steps, Recorded (start.eventsIn steps) (start.run steps) :=
    (recorded_fresh endpoint surface bridge scripted).run
      (orderly_fresh endpoint surface bridge scripted)
  have hsettled : ∀ steps generation r, .settled generation (.ready r) ∈ start.eventsIn steps →
      ∃ body, start.Fetched steps generation body r := fun steps generation r =>
    fetched_of_settled rfl rfl (logged_fresh endpoint surface bridge scripted)
  have hready : ∀ steps r, .ready r ∈ (start.run steps).rendered →
      ∃ generation body, start.Fetched steps generation body r := by
    intro steps r h
    obtain ⟨generation, hevent⟩ := (hrecorded steps).settled_of_ready h
    exact ⟨generation, hsettled steps generation r hevent⟩
  have hknown : ∀ steps r, (start.run steps).client.lastReady = some r →
      ∃ generation body, start.Fetched steps generation body r := fun steps r h =>
    hready steps r ((hrecorded steps).ready_of_known (.inr h))
  refine ⟨?_, hsettled steps, fun r h => ?_, fun hsteps => ⟨fun r h => ?_, fun n hn => ?_⟩, ?_⟩
  · have hsent := start.sent_run steps
    rwa [show start.wire.sent = [] from rfl, List.nil_append] at hsent
  · exact hready steps r (h.elim id (hrecorded steps).ready_of_known)
  · have hholding := holding_fresh hbridge endpoint surface scripted
    rcases hholding.run hsteps with hs | ⟨_, _, _, _, -, -, -, hs⟩
    · exact hknown steps r (hs.pending.symm.trans h)
    · have hnone : s.host.bridge.pending = none := hs.pending
      simp [Bridge.pendingRecord, hnone] at h
  · obtain ⟨before, since, r, rfl, hverdict, hlast⟩ :=
      known_of_notes (holding_fresh hbridge endpoint surface scripted) hsteps hn
    obtain ⟨generation, body, hfetched⟩ := hknown before r hlast
    exact ⟨generation, body, r, hfetched.append since, hverdict, fun expiry hexpiry =>
      Record.expiry_of_approve hfetched.valid (hverdict.symm.trans hexpiry)⟩
  · intro name t f reply huses hmethod
    have hstart : start.futures = [] := rfl
    have hfetch := huses.operation_ne_fetch hstart
    refine ⟨fun r h => ?_, fun body body' => ?_⟩
    · rw [((Future.result_eq_ready_iff endpoint hfetch).mp h).1] at hmethod
      exact hmethod rfl
    · cases f with
      | load _ _ => exact absurd rfl hmethod
      | reload _ _ => exact absurd rfl hmethod
      | mutation generation request sent =>
        have hsuccess : request.operation.successStatus = 204 := by
          have hoperation := hfetch generation request sent rfl
          cases hrequest : request.operation with
          | fetch => exact absurd hrequest hoperation
          | submit => rfl
          | revoke => rfl
        simp [consume, Except.bind, Operation.check, hsuccess]

/-- The replies to a submission and to the load that follows it. Both bodies hold a record that
grants access. -/
def grantedTwice : List (Option Reply) :=
  [some (.ok ⟨204, Utf8.ofString "\x7b\"testbed_access\":true,\"until\":\"2031-01-01\"\x7d"⟩),
    some (.ok ⟨200, Utf8.ofString "\x7b\"testbed_access\":true,\"until\":\"2030-01-01\"\x7d"⟩)]

/-- A submission, after which an observer is attached. -/
def observedSubmission : List SessionStep :=
  [.submit "b" .acceptAll, .poll "b", .host (.makeObserver "o" .nothing),
    .host (.attachObserver "o")]

/-- The submission is accepted with a body that would be a record. The one that the client knows,
and that is replayed to the observer, has been fetched by the load that followed. -/
theorem replayed_record_is_fetched :
    let start := fresh gdprEndpoint .lines .watching grantedTwice
    let s := start.run observedSubmission
    let granted : Record := ⟨"", false, false, true, "2030-01-01"⟩
    (∀ x ∈ observedSubmission, x.brings = false) ∧
    s.client.lastReady = some granted ∧
    (∃ generation body, start.Fetched observedSubmission generation body granted) ∧
    s.notes.map (·.verdict) = [.approve "2030-01-01"] ∧
    ∃ generation body r, start.Fetched observedSubmission generation body r ∧
      r.validUntil = "2030-01-01" ∧ (Expiry.parse "2030-01-01").isSome = true := by
  intro start s granted
  have hbrings : ∀ x ∈ observedSubmission, x.brings = false := by
    simp [observedSubmission, SessionStep.brings, HostStep.brings]
  have hlast : s.client.lastReady = some granted := by decide +kernel
  have hnotes : s.notes.map (·.verdict) = [.approve "2030-01-01"] := by decide +kernel
  obtain ⟨-, -, hknown, hbridge, -⟩ := records_come_from_fetches (.inr rfl) gdprEndpoint .lines
    grantedTwice observedSubmission
  have happrove : .approve "2030-01-01" ∈ s.notes.map (·.verdict) := by
    rw [hnotes]
    exact List.mem_singleton_self _
  obtain ⟨n, hn, hverdict⟩ := List.mem_map.mp happrove
  obtain ⟨generation, body, r, hfetched, -, htold⟩ := (hbridge hbrings).2 n hn
  obtain ⟨-, huntil, -, hparse⟩ := htold "2030-01-01" hverdict
  exact ⟨hbrings, hlast, hknown granted (.inr (.inr hlast)), hnotes,
    generation, body, r, hfetched, huntil, hparse⟩

end Session

end Consent
