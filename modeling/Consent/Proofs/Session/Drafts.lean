import Consent.Proofs.Session.Lockstep

set_option autoImplicit false

/-!
# Drafts go to the server only

Whatever is proposed to the server, the client shows what the server says. Two runs with the same
steps and replies, which differ only in the drafts that are submitted, cannot be told apart: not by
what the client shows and remembers, nor by the bridge, the calls of observers or what comes of a
poll. The drafts are in the bodies of the requests that were made for them, and nowhere else; the
answers of the last known record, which the client may submit itself, are not among them.

## Main definitions

* `Consent.SessionStep.Redrafted` — steps that differ in the drafts that are submitted.
* `Consent.Session.proposals` — the drafts of a run, each with the generation of its submission.
* `Consent.Session.undrafted` — what there is to a session without the requests that are under way
  or were sent.
* `Consent.Session.Redrafted` — sessions that differ in what submissions ask for.

## Main results

* `Consent.Session.redrafted_lockstep` — sessions that differ in drafts go in lockstep.
* `Consent.Session.Redrafted.step`, `Consent.Session.Redrafted.run` — a step and a run look the
  same, and send requests that differ in drafts.
* `Consent.Session.drafts_do_not_leak` — the same for sessions from their beginning.
-/

namespace Consent

open Observer

/-- Steps that are the same, or submit under the same name. -/
inductive SessionStep.Redrafted : SessionStep → SessionStep → Prop where
  | same (step : SessionStep) : Redrafted step step
  | submit (name : String) (draft draft' : Draft) :
      Redrafted (.submit name draft) (.submit name draft')

/-- The draft that a step submits. -/
def SessionStep.draft? : SessionStep → Option Draft
  | .submit _ draft => some draft
  | _ => none

namespace Session

/-- What there is to a session without its requests, those that were sent and those that futures
will send. -/
def undrafted (s : Session) : Session :=
  { s with futures := [], wire := { s.wire with sent := [] } }

/-- The drafts that are submitted in a run, each with the generation of its submission. -/
def proposals (s : Session) : List SessionStep → List (Nat × Draft)
  | [] => []
  | x :: xs =>
    (x.draft?.map fun draft => (s.client.generation + 1, draft)).toList ++
      (s.step x).1.proposals xs

/-- The drafts of a run are those of its first step, and those of the others. -/
lemma proposals_cons_subset {s : Session} {x : SessionStep} {xs : List SessionStep}
    {drafts : List (Nat × Draft)} (h : s.proposals (x :: xs) ⊆ drafts) :
    s.proposals [x] ⊆ drafts ∧ (s.step x).1.proposals xs ⊆ drafts := by
  have hfirst : s.proposals (x :: xs) = s.proposals [x] ++ (s.step x).1.proposals xs := by
    simp [proposals]
  exact List.append_subset.mp (hfirst ▸ h)

/-- A report without the requests that are under way or were sent. -/
def Report.undrafted (r : Report) : Report := { r with session := r.session.undrafted, sent := [] }

/-- Requests that submit drafts of two runs, proposed under the same generation. -/
def Proposed (endpoint : String) (drafts drafts' : List (Nat × Draft)) (generation : Nat)
    (request request' : Request) : Prop :=
  ∃ draft draft', (generation, draft) ∈ drafts ∧ (generation, draft') ∈ drafts' ∧
    request = .submit endpoint draft ∧ request' = .submit endpoint draft'

/-- Requests that submit drafts are of the same operation. -/
lemma Proposed.operation {endpoint : String} {drafts drafts' : List (Nat × Draft)}
    {generation : Nat} {q q' : Request} (h : Proposed endpoint drafts drafts' generation q q') :
    q'.operation = q.operation := by
  obtain ⟨draft, draft', -, -, rfl, rfl⟩ := h
  rfl

variable {Q : Nat → Request → Request → Prop} {s t : Session}

/-- Sessions that differ in nothing but the requests of submissions, where these may differ. -/
structure Redrafted (Q : Nat → Request → Request → Prop) (s t : Session) : Prop where
  undrafted : t.undrafted = s.undrafted
  futures : ∀ name, Option.Rel (Future.Matches Q) (s.futures.find? name) (t.futures.find? name)
  /-- As many requests were sent, so that the next ones have the same number. -/
  sent : t.wire.sent.length = s.wire.sent.length

namespace Redrafted

/-- The clients are the same. -/
lemma client (h : Redrafted Q s t) : t.client = s.client := congrArg (·.client) h.undrafted

/-- The hosts are the same. -/
lemma host (h : Redrafted Q s t) : t.host = s.host := congrArg (·.host) h.undrafted

/-- The endpoints are the same. -/
lemma endpoint (h : Redrafted Q s t) : t.endpoint = s.endpoint :=
  congrArg (·.endpoint) h.undrafted

/-- The hosts may move on. -/
lemma withHost (h : Redrafted Q s t) (host : Host) :
    Redrafted Q { s with host := host } { t with host := host } :=
  ⟨congrArg (fun u => { u with host := host }) h.undrafted, h.futures, h.sent⟩

end Redrafted

/-! ### Calls -/

/-- Calls keep sessions related that differ in drafts. -/
lemma redrafted_calls : CallLockstep Q (Redrafted Q) where
  client h := h.client
  showing h c := ⟨congrArg (·.showing c) h.undrafted, h.futures, h.sent⟩
  put := by
    intro s t f f' h hf name
    refine ⟨h.undrafted, fun other => ?_, h.sent⟩
    by_cases hother : other = name
    · rw [hother, Table.find?_put_self, Table.find?_put_self]
      exact .some hf
    · rw [Table.find?_put_of_ne _ _ hother, Table.find?_put_of_ne _ _ hother]
      exact h.futures other

namespace Redrafted

/-- A call of an observer comes to the same, also if it has the client load. -/
lemma noting (h : Redrafted Q s t) (call : Option Call) :
    Redrafted Q (s.noting call) (t.noting call) := by
  cases call with
  | none => exact h
  | some call =>
    have hnoted : Redrafted Q (s.noted (s.note call)) (t.noted (t.note call)) :=
      ⟨congrArg (fun u => u.noted (u.note call)) h.undrafted, h.futures, h.sent⟩
    simp only [Session.noting]
    cases call.reaction with
    | nothing => exact hnoted
    | state => exact hnoted
    | load =>
      have hname : t.reentryName = s.reentryName := congrArg (·.reentryName) h.undrafted
      have hcall := redrafted_calls.callLoad hnoted s.reentryName
      simp only [Session.react]
      exact ⟨congrArg (fun u => { u with reentered := u.reentered + 1 }) hcall.undrafted,
        hname ▸ hcall.futures, hcall.sent⟩

/-- Forwarding a record comes to the same. -/
lemma forward (h : Redrafted Q s t) (ticket : Ticket) (r : Record) :
    Redrafted Q (s.forward ticket r) (t.forward ticket r) := by
  simp only [Session.forward, h.host]
  exact (h.withHost _).noting _

/-- Settling comes to the same. -/
lemma settle (h : Redrafted Q s t) (generation : Nat) (next : LoadState) :
    Redrafted Q (s.settle generation next) (t.settle generation next) := by
  simp only [Session.settle, h.client]
  cases s.client.settle? generation next with
  | none => exact h
  | some client =>
    cases next.record? with
    | none => exact redrafted_calls.showing h client
    | some r =>
      simp only [takeTicket, h.host]
      exact (redrafted_calls.showing (h.withHost _) client).forward _ r

/-- Looking for the replies to requests comes to the same, whatever the requests are. -/
lemma exchange (h : Redrafted Q s t) (request request' : Request) (sent : Option Nat) :
    Redrafted Q (s.exchange request sent).1 (t.exchange request' sent).1 ∧
      (t.exchange request' sent).2 = (s.exchange request sent).2 := by
  have hscripted : t.wire.scripted = s.wire.scripted := congrArg (·.wire.scripted) h.undrafted
  have harrived : t.wire.arrived = s.wire.arrived := congrArg (·.wire.arrived) h.undrafted
  cases sent with
  | none =>
    refine ⟨⟨h.undrafted, h.futures, ?_⟩, ?_⟩
    · show (t.wire.sent ++ [request']).length = (s.wire.sent ++ [request]).length
      rw [List.length_append, List.length_append, h.sent]
      rfl
    · simp only [Session.exchange, Wire.send, h.sent, hscripted]
  | some number =>
    refine ⟨⟨?_, h.futures, h.sent⟩, ?_⟩
    · exact congrArg (fun u => (u.exchange request (some number)).1) h.undrafted
    · simp only [Session.exchange, Wire.take, harrived]

end Redrafted

/-- **Sessions that differ in drafts go in lockstep.** -/
lemma redrafted_lockstep
    (hQ : ∀ {generation q q'}, Q generation q q' → q'.operation = q.operation) :
    Lockstep Q (Redrafted Q) where
  toCallLockstep := redrafted_calls
  operation := hQ
  endpoint h := h.endpoint
  find? h := h.futures
  without := by
    intro s t h name
    refine ⟨h.undrafted, fun other => ?_, h.sent⟩
    simp only [without]
    by_cases hother : other = name
    · rw [hother, Table.find?_erase_self, Table.find?_erase_self]
      exact .none
    · rw [Table.find?_erase_of_ne _ hother, Table.find?_erase_of_ne _ hother]
      exact h.futures other
  settle h := h.settle
  receive := by
    rintro s t f f' h (- | ⟨hq, sent⟩)
    · exact h.exchange _ _ f.sent
    · exact h.exchange _ _ sent
  arm h := h.host ▸ h.withHost _
  respond := by
    intro s t h number reply
    by_cases hsent : number < s.wire.sent.length
    · have hsent' : number < t.wire.sent.length := h.sent ▸ hsent
      simp only [step, Wire.arrive?, if_pos hsent, if_pos hsent']
      refine ⟨⟨?_, h.futures, h.sent⟩, trivial⟩
      exact congrArg (fun u => { u with wire := { u.wire with
        arrived := (number, reply) :: u.wire.arrived.filter fun entry => entry.1 ≠ number } })
        h.undrafted
    · have hsent' : ¬ number < t.wire.sent.length := h.sent ▸ hsent
      simp only [step, Wire.arrive?, if_neg hsent, if_neg hsent']
      exact ⟨h, trivial⟩

/-! ### Steps -/

namespace Redrafted

/-- A step of the host comes to the same. -/
lemma hostStep (h : Redrafted Q s t) (step : HostStep) :
    Redrafted Q (s.step (.host step)).1 (t.step (.host step)).1 ∧
      (t.step (.host step)).2 = (s.step (.host step)).2 := by
  simp only [Session.step, h.host]
  exact ⟨(h.withHost _).noting _, trivial⟩

variable {endpoint : String} {drafts drafts' : List (Nat × Draft)} {xs ys : List SessionStep}
  {x y : SessionStep}

/-- **Steps that differ in drafts come to the same.** -/
lemma step (h : Redrafted (Proposed endpoint drafts drafts') s t)
    (hendpoint : s.endpoint = endpoint) (hxy : x.Redrafted y) (hx : s.proposals [x] ⊆ drafts) (hy : t.proposals [y] ⊆ drafts') :
    Redrafted (Proposed endpoint drafts drafts') (s.step x).1 (t.step y).1 ∧
      (t.step y).2 = (s.step x).2 := by
  cases hxy with
  | submit name draft draft' =>
    have hdraft : (s.client.generation + 1, draft) ∈ drafts :=
      hx (by simp [proposals, SessionStep.draft?])
    have hdraft' : (s.client.generation + 1, draft') ∈ drafts' :=
      hy (by simp [proposals, SessionStep.draft?, h.client])
    refine ⟨?_, rfl⟩
    simp only [Session.step, h.endpoint, hendpoint]
    exact redrafted_calls.callMutation h
      (.mutation ⟨draft, draft', hdraft, hdraft', rfl, rfl⟩ none) name
  | same =>
    cases hhost : x.isHost with
    | true =>
      cases x with
      | host step => exact h.hostStep step
      | _ => simp [SessionStep.isHost] at hhost
    | false => exact (redrafted_lockstep Proposed.operation).step h hhost

/-- Steps that differ in drafts send requests that differ in drafts. -/
lemma dispatches (h : Redrafted (Proposed endpoint drafts drafts') s t) (hxy : x.Redrafted y) :
    List.Forall₂ (Lockstep.Entry (Proposed endpoint drafts drafts')) (s.dispatches x)
      (t.dispatches y) := by
  cases hxy with
  | submit name draft draft' => exact .nil
  | same =>
    cases x with
    | poll name => exact (redrafted_lockstep Proposed.operation).dispatches h name
    | _ => exact .nil

/-! ### Whole runs -/

/-- **Steps that differ in drafts look the same.** -/
lemma reportStep (h : Redrafted (Proposed endpoint drafts drafts') s t)
    (hendpoint : s.endpoint = endpoint) (hxy : x.Redrafted y) (hx : s.proposals [x] ⊆ drafts)
    (hy : t.proposals [y] ⊆ drafts') :
    (t.reportStep y).undrafted = (s.reportStep x).undrafted := by
  obtain ⟨hstep, houtcome⟩ := h.step hendpoint hxy hx hy
  have hshown : t.shown = s.shown := congrArg (·.shown) h.undrafted
  have hshown' : (t.step y).1.shown = (s.step x).1.shown := congrArg (·.shown) hstep.undrafted
  have hnotes : t.notes = s.notes := congrArg (·.notes) h.undrafted
  have hnotes' : (t.step y).1.notes = (s.step x).1.notes := congrArg (·.notes) hstep.undrafted
  simp only [Session.reportStep, Report.undrafted, houtcome, hstep.undrafted, hshown, hshown',
    hnotes, hnotes']

/-- **Runs that differ in drafts look the same**, and send requests that differ in drafts.

**Proof sketch.** By induction on the steps, which go in lockstep. -/
lemma run (h : Redrafted (Proposed endpoint drafts drafts') s t) (hendpoint : s.endpoint = endpoint)
    (hsteps : List.Forall₂ SessionStep.Redrafted xs ys) (hxs : s.proposals xs ⊆ drafts)
    (hys : t.proposals ys ⊆ drafts') :
    (t.reports ys).map Report.undrafted = (s.reports xs).map Report.undrafted ∧
      List.Forall₂ (Lockstep.Entry (Proposed endpoint drafts drafts')) (s.dispatchesIn xs)
        (t.dispatchesIn ys) := by
  induction hsteps generalizing s t with
  | nil => exact ⟨rfl, .nil⟩
  | @cons x y xs ys hxy _ ih =>
    obtain ⟨hx, hxs⟩ := proposals_cons_subset hxs
    obtain ⟨hy, hys⟩ := proposals_cons_subset hys
    have hendpoint' : (s.step x).1.endpoint = endpoint := (s.endpoint_run [x]).trans hendpoint
    have hreport := h.reportStep hendpoint hxy hx hy
    obtain ⟨hreports, hdispatches⟩ := ih (h.step hendpoint hxy hx hy).1 hendpoint' hxs hys
    refine ⟨?_, List.rel_append (h.dispatches hxy) hdispatches⟩
    exact congrArg₂ List.cons hreport hreports

end Redrafted

/-- **Drafts do not leak into what the client shows.** Take two runs of a session with the same
steps and replies, but for the drafts that are submitted. After every step, the client's state and
last known record, what has been shown, the host with its bridge, the calls of observers and what
came of the step are the same in both. The same operations send their requests in the same order,
and these are the same, but for the ones that a submission makes for its own draft: they ask for the
same, with the one draft in the first run, and with the other one in the second.

**Proof sketch.** The two sessions go in lockstep (`redrafted_lockstep`): what a future does with a
reply depends on its operation and not on what it asked for. -/
theorem drafts_do_not_leak (endpoint : String) (surface : Surface) (bridge : Bridge)
    (scripted : List (Option Reply)) (steps steps' : List SessionStep)
    (hsteps : List.Forall₂ SessionStep.Redrafted steps steps') :
    let s := fresh endpoint surface bridge scripted
    (s.reports steps').map Report.undrafted = (s.reports steps).map Report.undrafted ∧
      (s.run steps).wire.sent = (s.dispatchesIn steps).map (·.2) ∧
      (s.run steps').wire.sent = (s.dispatchesIn steps').map (·.2) ∧
      List.Forall₂
        (fun a b => b.1 = a.1 ∧ (b.2 = a.2 ∨ ∃ draft draft',
          (a.1, draft) ∈ s.proposals steps ∧ (a.1, draft') ∈ s.proposals steps' ∧
            a.2 = .submit endpoint draft ∧ b.2 = .submit endpoint draft'))
        (s.dispatchesIn steps) (s.dispatchesIn steps') := by
  intro s
  have hs : Redrafted (Proposed endpoint (s.proposals steps) (s.proposals steps')) s s :=
    ⟨rfl, fun _ => .none, rfl⟩
  obtain ⟨hreports, hdispatches⟩ := hs.run rfl hsteps (List.Subset.refl _) (List.Subset.refl _)
  exact ⟨hreports, s.sent_run steps, s.sent_run steps', hdispatches⟩

/-- A draft is submitted, and then the answers of the record that has been loaded after it. -/
def submittedTwice (draft : Draft) : List SessionStep :=
  [.submit "a" draft, .poll "a", .resubmit "b", .poll "b"]

/-- Both submissions are accepted, and the empty record is loaded after each. -/
def acceptedTwice : List (Option Reply) :=
  [some (.ok (.empty 204)), some (.ok ⟨200, Utf8.ofString "null"⟩), some (.ok (.empty 204)),
    some (.ok ⟨200, Utf8.ofString "null"⟩)]

/-- Whether everything was accepted or declined is in the first request only. -/
theorem first_request_tells_drafts_apart :
    let s := fresh gdprEndpoint .lines .watching acceptedTwice
    let requests := fun draft => (s.run (submittedTwice draft)).wire.sent
    List.Forall₂ SessionStep.Redrafted (submittedTwice .acceptAll) (submittedTwice .declineAll) ∧
    (s.reports (submittedTwice .declineAll)).map Report.undrafted =
      (s.reports (submittedTwice .acceptAll)).map Report.undrafted ∧
    requests .acceptAll ≠ requests .declineAll ∧
    (requests .acceptAll).tail = (requests .declineAll).tail ∧
    (requests .acceptAll).length = 4 := by
  intro s requests
  have hsteps : List.Forall₂ SessionStep.Redrafted (submittedTwice .acceptAll)
      (submittedTwice .declineAll) :=
    .cons (.submit _ _ _) <| .cons (.same _) <| .cons (.same _) <| .cons (.same _) .nil
  obtain ⟨hreports, -⟩ := drafts_do_not_leak gdprEndpoint .lines .watching acceptedTwice _ _ hsteps
  exact ⟨hsteps, hreports, by decide +kernel, by decide +kernel, by decide +kernel⟩

end Session

end Consent
