import Consent.Proofs.Server.World
import Consent.Proofs.Session.Replies

set_option autoImplicit false

/-!
# A session agrees with its server

At each moment the requests that have taken effect say what the client may know. While an operation
is the latest one, what its request has led to is the last heeded effect: any other effect since
then is that of a superseded operation. So when the operation settles, the client shows what the
server kept when the last heeded request took effect, and it goes on showing it until a new
operation begins.

The invariant is kept by each move of the session, as long as only replies to requests that have
taken effect come in, and by each request that takes effect.

## Main definitions

* `Consent.Session.Shows` — what a client shows, given the effects.
* `Consent.Session.Agrees` — the invariant.

## Main results

* `Consent.Session.Agrees.settled` — what the latest operation settles.
* `Consent.Session.Agrees.step` — a step of the session keeps the invariant.
* `Consent.Session.Agrees.serve` — a request that takes effect keeps it.
-/

namespace Consent

open Observer

/-- A request that has been sent stays sent. -/
lemma Wire.getElem?_send {w : Wire} {r : Request} {number : Nat} (h : w.sent[number]? = some r)
    (request : Request) : (w.send request).1.sent[number]? = some r := by
  obtain ⟨hlt, -⟩ := List.getElem?_eq_some_iff.mp h
  rw [send, List.getElem?_append_left hlt, h]

/-- The last request is found under its number. -/
lemma Wire.getElem?_send_self (w : Wire) (request : Request) :
    (w.send request).1.sent[w.sent.length]? = some request :=
  List.getElem?_concat_length

/-- A submission or a revocation is not a fetch. -/
def Future.Sound (f : Future) : Prop :=
  ∀ generation request sent, f = .mutation generation request sent →
    request.operation.successStatus = 204

/-- Sending its request does not change what a future asks for. -/
lemma Future.Sound.waitingFor {f : Future} (h : f.Sound) (number : Nat) :
    (f.waitingFor number).Sound := by
  intro generation request sent heq
  cases f with
  | mutation generation' request' sent' =>
    obtain ⟨-, rfl, -⟩ := mutation.inj heq
    exact h generation' _ sent' rfl
  | load _ _ => simp [Future.waitingFor] at heq
  | reload _ _ => simp [Future.waitingFor] at heq

namespace Session

/-- The client shows what the server kept when the last heeded request took effect, which is a
fetch. -/
def Shows (effects : List Effect) (c : Client) : Prop :=
  match c.state with
  | .idle => c.generation = 0
  | .loading => True
  | .ready r => c.lastReady = some r ∧ ∃ e, effects.find? (·.heeded) = some e ∧
      e.request.operation = .fetch ∧ r = Stored.recordOf e.stored
  | .failed _ => False

/-- A session agrees with what its requests have led to. -/
structure Agrees (effects : List Effect) (s : Session) : Prop where
  orderly : s.Orderly
  /-- No reply is known in advance. -/
  scripted : s.wire.scripted = []
  /-- What takes effect has been sent. -/
  requested : ∀ e ∈ effects, s.wire.sent[e.number]? = some e.request
  /-- A future waits for its own request. -/
  waiting : ∀ entry ∈ s.futures, ∀ number, entry.2.sent = some number →
    s.wire.sent[number]? = some (entry.2.request s.endpoint)
  sound : ∀ entry ∈ s.futures, entry.2.Sound
  /-- What the latest operation has led to is the last heeded effect. -/
  latest : ∀ entry ∈ s.futures, entry.2.generation = s.client.generation →
    ∀ e ∈ effects, entry.2.sent = some e.number → effects.find? (·.heeded) = some e
  shows : Shows effects s.client

variable {offered : Nat → Reply → Prop} {s t : Session} {effects : List Effect}

/-- Without a request that has taken effect, a session agrees. -/
lemma agrees_fresh (endpoint : String) (surface : Surface) (bridge : Bridge) :
    Agrees [] (fresh endpoint surface bridge []) :=
  ⟨orderly_fresh endpoint surface bridge [], rfl, nofun, nofun, nofun, nofun, rfl⟩

/-- A future that is new to a session has sent nothing yet, or a request that is new too. -/
structure Arises (s t : Session) (f : Future) : Prop where
  waiting : ∀ number, f.sent = some number →
    s.wire.sent[number]? = none ∧ t.wire.sent[number]? = some (f.request t.endpoint)
  sound : f.Sound

/-- What has been sent stays sent. -/
structure Onward (s t : Session) : Prop where
  endpoint : t.endpoint = s.endpoint
  scripted : t.wire.scripted = s.wire.scripted
  sent : ∀ (number : Nat) (r : Request), s.wire.sent[number]? = some r →
    t.wire.sent[number]? = some r

/-- Sessions with the same wire. -/
lemma Onward.of_wire (hendpoint : t.endpoint = s.endpoint) (hwire : t.wire = s.wire) :
    Onward s t :=
  ⟨hendpoint, congrArg Wire.scripted hwire, fun _ _ h => hwire ▸ h⟩

/-- A session that sends a request. -/
lemma Onward.of_send {request : Request} (hendpoint : t.endpoint = s.endpoint)
    (hwire : t.wire = (s.wire.send request).1) : Onward s t :=
  ⟨hendpoint, hwire ▸ rfl, fun _ _ h => hwire ▸ Wire.getElem?_send h request⟩

/-- A future that sends its request arises with it. -/
lemma Arises.of_send {f : Future} (hwire : t.wire = (s.wire.send (f.request t.endpoint)).1)
    (hsent : f.sent = some s.wire.sent.length) (hsound : f.Sound) : Arises s t f := by
  refine ⟨fun number hnumber => ?_, hsound⟩
  obtain rfl := Option.some.inj (hsent.symm.trans hnumber)
  exact ⟨List.getElem?_eq_none (Nat.le_refl _), hwire ▸ Wire.getElem?_send_self _ _⟩

/-- What keeps a session in agreement: no future becomes the latest one, unless it arises. -/
lemma Agrees.next (hs : Agrees effects s) (horderly : t.Orderly) (honward : Onward s t)
    (hfutures : ∀ entry ∈ t.futures, Arises s t entry.2 ∨
      entry ∈ s.futures ∧ (entry.2.generation = t.client.generation →
        t.client.generation = s.client.generation))
    (hshows : Shows effects t.client) : Agrees effects t := by
  constructor
  case orderly => exact horderly
  case scripted => exact honward.scripted.trans hs.scripted
  case requested => exact fun e he => honward.sent _ _ (hs.requested e he)
  case waiting =>
    intro entry hentry number hnumber
    rcases hfutures entry hentry with harises | ⟨hold, -⟩
    · exact (harises.waiting number hnumber).2
    · rw [honward.endpoint]
      exact honward.sent _ _ (hs.waiting entry hold number hnumber)
  case sound =>
    intro entry hentry
    rcases hfutures entry hentry with harises | ⟨hold, -⟩
    · exact harises.sound
    · exact hs.sound entry hold
  case latest =>
    intro entry hentry hlatest e he hnumber
    rcases hfutures entry hentry with harises | ⟨hold, hsame⟩
    · -- what has only just been sent has not taken effect
      have hnone := (harises.waiting e.number hnumber).1
      simp [hs.requested e he] at hnone
    · exact hs.latest entry hold (hlatest.trans (hsame hlatest)) e he hnumber
  case shows => exact hshows

/-- A new operation keeps a session in agreement. -/
lemma Agrees.begins (hs : Agrees effects s) {name : String} {f : Future} (horderly : t.Orderly)
    (hclient : t.client = s.client.begin) (honward : Onward s t)
    (hfutures : t.futures = s.futures.put name f) (hf : Arises s t f) : Agrees effects t := by
  obtain ⟨hstate, -, hgeneration⟩ := Client.begin_state s.client
  refine hs.next horderly honward (fun entry hentry => ?_) ?_
  · rw [hfutures, Table.mem_put] at hentry
    rcases hentry with rfl | ⟨hold, -⟩
    · exact .inl hf
    · refine .inr ⟨hold, fun hlatest => ?_⟩
      have hle := hs.orderly.recent entry hold
      rw [hclient, hgeneration] at hlatest
      omega
  · rw [hclient, Shows, hstate]
    trivial

/-- A future that goes on keeps a session in agreement. -/
lemma Agrees.goesOn (hs : Agrees effects s) {name : String} {f : Future} (horderly : t.Orderly)
    (hclient : t.client = s.client) (honward : Onward s t)
    (hfutures : t.futures = s.futures.put name f)
    (hf : Arises s t f ∨ (name, f) ∈ s.futures) : Agrees effects t := by
  refine hs.next horderly honward (fun entry hentry => ?_) (hclient ▸ hs.shows)
  rw [hfutures, Table.mem_put] at hentry
  rcases hentry with rfl | ⟨hold, -⟩
  · exact hf.imp_right fun hold => ⟨hold, fun _ => congrArg (·.generation) hclient⟩
  · exact .inr ⟨hold, fun _ => congrArg (·.generation) hclient⟩

/-- A session that loses a future stays in agreement, if its client does. -/
lemma Agrees.erase (hs : Agrees effects s) {name : String} (horderly : t.Orderly)
    (hgeneration : t.client.generation = s.client.generation)
    (hendpoint : t.endpoint = s.endpoint) (hwire : t.wire = s.wire)
    (hfutures : t.futures = s.futures.erase name) (hshows : Shows effects t.client) :
    Agrees effects t := by
  refine hs.next horderly (.of_wire hendpoint hwire) (fun entry hentry => ?_) hshows
  rw [hfutures, Table.mem_erase_iff] at hentry
  exact .inr ⟨hentry.1, fun _ => hgeneration⟩

/-- **What the latest operation settles is what the client shows from then on.** -/
lemma Agrees.settled (hs : Agrees effects s) {name : String} {f : Future} {e : Effect}
    {next : LoadState} (hf : s.futures.find? name = some f)
    (hlatest : s.client.generation = f.generation) (he : e ∈ effects)
    (hsent : f.sent = some e.number) (hresult : f.result e.reply = some next) :
    Shows effects (s.client.transition next) := by
  have hentry := Table.mem_of_find? hf
  have hrequest : e.request = f.request s.endpoint :=
    Option.some.inj ((hs.requested e he).symm.trans (hs.waiting _ hentry _ hsent))
  have hlast : effects.find? (·.heeded) = some e := hs.latest _ hentry hlatest.symm e he hsent
  have hfetch (hop : e.request.operation = .fetch) (hnext : Session.settled e.reply = next) :
      Shows effects (s.client.transition next) := by
    rw [← hnext, settled_reply hop]
    exact ⟨rfl, e, hlast, hop, rfl⟩
  cases f with
  | load _ _ => exact hfetch (by rw [hrequest]; rfl) (Option.some.inj hresult)
  | reload _ _ => exact hfetch (by rw [hrequest]; rfl) (Option.some.inj hresult)
  | mutation generation request sent =>
    -- what a submission or a revocation is answered is never a failure
    obtain rfl : e.request = request := hrequest
    have hsound := hs.sound _ hentry generation e.request sent rfl
    simp [Future.result, check_reply hsound] at hresult

/-- **A move keeps a session in agreement**, if only replies to requests that have taken effect are
used. -/
lemma Agrees.move (hs : Agrees effects s) {es : List Event} (h : Move offered s es t)
    (hoffered : ∀ number reply, offered number reply →
      ∃ e ∈ effects, e.number = number ∧ e.reply = reply) : Agrees effects t := by
  have horderly : t.Orderly := hs.orderly.change h.change
  cases h with
  | beside h =>
    exact hs.next horderly ⟨h.endpoint, h.scripted, fun _ _ hr => h.sent ▸ hr⟩
      (fun entry hentry => .inr ⟨h.futures ▸ hentry, fun _ => congrArg (·.generation) h.client⟩)
      (h.client ▸ hs.shows)
  | call hcall =>
    refine hs.begins horderly rfl (.of_wire rfl rfl) rfl ⟨?_, ?_⟩
    · simp [(called_generation hcall).2]
    · rintro generation request sent rfl
      exact ((Makes.called hcall).mutation (.same _)).2
  | reenter =>
    exact hs.begins horderly rfl (.of_wire rfl rfl) rfl ⟨nofun, nofun⟩
  | send hf hsent =>
    have hsound := hs.sound _ (Table.mem_of_find? hf)
    refine hs.goesOn horderly rfl (.of_send rfl rfl) rfl
      (.inl (.of_send ?_ (by simp) (hsound.waitingFor _)))
    simp [sending]
  | wait hf =>
    exact hs.goesOn horderly rfl (.of_wire rfl rfl) rfl (.inr (Table.mem_of_find? hf))
  | lapse hf hold => exact hs.erase horderly rfl rfl rfl rfl hs.shows
  | settle hf hlatest hsent hreply hresult =>
    obtain ⟨e, he, rfl, rfl⟩ := hoffered _ _ hreply
    exact hs.erase horderly rfl rfl rfl rfl (hs.settled hf hlatest he hsent hresult)
  | reload _ _ _ _ _ =>
    exact hs.begins horderly rfl (.of_send rfl rfl) rfl (.of_send rfl rfl nofun)

/-- Moves keep a session in agreement. -/
lemma Agrees.moves (hs : Agrees effects s) {es : List Event} (h : Moves offered s es t)
    (hoffered : ∀ number reply, offered number reply →
      ∃ e ∈ effects, e.number = number ∧ e.reply = reply) : Agrees effects t := by
  induction h with
  | nil _ => exact hs
  | cons h _ ih => exact ih (hs.move h hoffered)

/-- **A step keeps a session in agreement**, if only replies to requests that have taken effect have
come in. -/
lemma Agrees.step (hs : Agrees effects s)
    (harrived : ∀ entry ∈ s.wire.arrived, ∃ e ∈ effects, e.number = entry.1 ∧ e.reply = entry.2)
    (x : SessionStep) : Agrees effects (s.step x).1 := by
  rcases s.step_cases_moves x with ⟨name, rfl⟩ | h
  · exact hs.erase (hs.orderly.erase rfl rfl) rfl rfl rfl rfl hs.shows
  · refine hs.moves h fun number reply hreply => ?_
    rcases hreply with hcame | hknown
    · obtain ⟨before, after, hsplit, -⟩ := List.lookup_eq_some_iff.mp hcame
      exact harrived (number, reply) (by simp [hsplit])
    · simp [hs.scripted] at hknown

/-- **A request that takes effect keeps a session in agreement.** If the latest operation has sent
it, the effect is the last heeded one, and else it is not heeded. -/
lemma Agrees.serve (hs : Agrees effects s) {e : Effect}
    (hrequest : s.wire.sent[e.number]? = some e.request)
    (hnew : ∀ e' ∈ effects, e'.number ≠ e.number)
    (hheeded : e.heeded = World.heeds s e.number) : Agrees (e :: effects) s := by
  have hheeds : e.heeded = true ↔
      ∃ entry ∈ s.futures, entry.2.generation = s.client.generation ∧
        entry.2.sent = some e.number := by
    simp [hheeded, World.heeds]
  constructor
  case orderly => exact hs.orderly
  case scripted => exact hs.scripted
  case requested =>
    intro e' he'
    rcases List.mem_cons.mp he' with rfl | he'
    · exact hrequest
    · exact hs.requested e' he'
  case waiting => exact hs.waiting
  case sound => exact hs.sound
  case latest =>
    intro entry hentry hlatest e' he' hnumber
    rcases List.mem_cons.mp he' with rfl | he'
    · exact List.find?_cons_of_pos (hheeds.mpr ⟨entry, hentry, hlatest, hnumber⟩)
    · rw [List.find?_cons_of_neg]
      · exact hs.latest entry hentry hlatest e' he' hnumber
      · intro h
        obtain ⟨other, hother, hgeneration, hsent⟩ := hheeds.mp h
        obtain rfl := hs.orderly.distinct other hother entry hentry (hgeneration.trans hlatest.symm)
        exact hnew e' he' (Option.some.inj (hnumber.symm.trans hsent))
  case shows =>
    have hshows := hs.shows
    rw [Shows] at hshows ⊢
    cases hstate : s.client.state with
    | idle => simpa only [hstate] using hshows
    | loading => trivial
    | failed _ => simp only [hstate] at hshows
    | ready r =>
      simp only [hstate] at hshows ⊢
      rw [List.find?_cons_of_neg]
      · exact hshows
      · intro h
        obtain ⟨entry, hentry, hgeneration, -⟩ := hheeds.mp h
        have hload := hs.orderly.loading entry hentry hgeneration
        simp [hstate] at hload

end Session

end Consent
