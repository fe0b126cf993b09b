import Consent.Proofs.Session.Requests

set_option autoImplicit false

/-!
# Replies that are there at once

A reply can be known when its request is sent, and is used in the same poll then. This makes no
difference: it is as if the poll had left the future waiting, the reply had come in right then, and
the future had been polled again. So whatever holds when replies come in later holds in general.

## Main definitions

* `Consent.Session.knowing` — a session with some replies that are known in advance.

## Main results

* `Consent.Session.poll_of_answered` — a future whose reply has come in uses it.
* `Consent.Session.poll_of_prompt` — a reply that is there at once is one that comes in later.
-/

namespace Consent

open Observer

namespace Session

/-- The session with some replies that are known in advance, and no others. -/
def knowing (s : Session) (known : List (Option Reply)) : Session :=
  s.withWire { s.wire with scripted := known }

variable {s t : Session} {name : String} {f g : Future} {known known' : List (Option Reply)}
  {m : Nat} {reply : Reply}

/-! ### What is known in advance matters for one request only -/

/-- One reply that is known in advance. -/
lemma getElem?_replicate_concat (m n : Nat) (reply : Reply) :
    (List.replicate m none ++ [some reply])[n]?.join = if n = m then some reply else none := by
  rcases Nat.lt_trichotomy n m with hlt | rfl | hgt
  · simp [List.getElem?_append_left, hlt, Nat.ne_of_lt hlt]
  · simp
  · have hlength : (List.replicate m none ++ [some reply]).length ≤ n := by
      simpa [Nat.succ_le_iff] using hgt
    rw [List.getElem?_eq_none hlength, if_neg (Nat.ne_of_gt hgt)]
    rfl

/-- Settling does not depend on what is known in advance. -/
lemma settle_knowing (s : Session) (known : List (Option Reply)) (generation : Nat)
    (next : LoadState) :
    (s.knowing known).settle generation next = (s.settle generation next).knowing known := by
  rw [knowing, settle_withWire, knowing, settle_wire]

/-- The load that follows a submission or a revocation, when some replies are known. -/
lemma reload_knowing (s : Session) (known : List (Option Reply)) :
    (s.knowing known).reload = match known[s.wire.sent.length]?.join with
      | none => (s.refetching.knowing known,
          .pending (.reload (s.client.generation + 1) s.wire.sent.length))
      | some reply =>
        ((s.refetching.settle s.refetching.client.generation (settled reply)).knowing known,
          .done) := by
  rw [reload_eq]
  cases hreply : known[s.wire.sent.length]?.join with
  | none =>
    simp only [knowing, withWire, hreply]
    rfl
  | some reply =>
    simp only [knowing, withWire, hreply]
    exact congrArg (·, Poll.done) (settle_knowing s.refetching known _ _)

/-- Using a reply depends on one reply that is known in advance. -/
lemma consume_knowing (s : Session) (f : Future) (reply : Reply)
    (h : known[s.wire.sent.length]?.join = known'[s.wire.sent.length]?.join) :
    (s.knowing known).consume f reply =
      (((s.knowing known').consume f reply).1.knowing known,
        ((s.knowing known').consume f reply).2) := by
  have hsettle : ∀ generation next, (s.knowing known).settle generation next =
      ((s.knowing known').settle generation next).knowing known := by
    intro generation next
    rw [settle_knowing, settle_knowing]
    rfl
  have hreload : (s.knowing known).reload =
      ((s.knowing known').reload.1.knowing known, (s.knowing known').reload.2) := by
    rw [reload_knowing, reload_knowing, h]
    cases known'[s.wire.sent.length]?.join <;> rfl
  cases f with
  | load generation _ =>
    simp only [consume, hsettle]
    rfl
  | reload generation _ => simp only [consume, hsettle]
  | mutation generation request _ =>
    simp only [consume, hsettle]
    split
    · rfl
    · by_cases hlatest : s.client.generation = generation
      · simpa only [knowing, withWire, hlatest, if_true] using hreload
      · simp only [knowing, withWire, hlatest, if_false]

/-- Keeping a future does not depend on what is known in advance. -/
lemma keep_knowing (name : String) (p : Session × Poll) :
    keep name (p.1.knowing known, p.2) =
      ((keep name p).1.knowing known, (keep name p).2) := by
  obtain ⟨s, result⟩ := p
  cases result <;> rfl

/-! ### A reply comes in -/

/-- **A future whose reply has just come in uses it** when it is polled. -/
lemma poll_of_answered (hg : t.futures.find? name = some g) (hsent : g.sent = some m)
    (hm : m < t.wire.sent.length) (hnone : ∀ entry ∈ t.wire.arrived, entry.1 ≠ m)
    (reply : Reply) :
    (t.step (.respond m reply)).1.poll name = keep name ((t.without name).consume g reply) := by
  have harrived : t.wire.arrived.filter (fun entry => entry.1 ≠ m) = t.wire.arrived := by
    simpa using hnone
  have hstep : (t.step (.respond m reply)).1 =
      t.withWire { t.wire with arrived := (m, reply) :: t.wire.arrived } := by
    simp only [step, Wire.arrive?, if_pos hm, harrived]
    rfl
  have hreceive : ((t.step (.respond m reply)).1.without name).receive g =
      (t.without name, m, some reply) := by
    have htake : ((m, reply) :: t.wire.arrived).filter (fun entry => entry.1 ≠ m) =
        t.wire.arrived := by
      rw [List.filter_cons_of_neg (by simp), harrived]
    rw [hstep]
    simp only [receive, hsent, exchange, withWire, without, Wire.take, htake, List.lookup_cons_self]
  have hfind : (t.step (.respond m reply)).1.futures.find? name = some g := by
    rw [hstep]
    exact hg
  rw [poll_of_reply hfind hreceive]

/-- A future that is kept waiting and then answered uses its reply. -/
lemma poll_of_kept (habsent : t.futures.erase name = t.futures) (hsent : g.sent = some m)
    (hm : m < t.wire.sent.length) (hnone : ∀ entry ∈ t.wire.arrived, entry.1 ≠ m)
    (reply : Reply) :
    ((keep name (t, .pending g)).1.step (.respond m reply)).1.poll name =
      keep name (t.consume g reply) := by
  have hwithout : (keep name (t, .pending g)).1.without name = t := by
    simp only [keep, without, Table.erase_put_self, habsent]
  rw [poll_of_answered (t := (keep name (t, .pending g)).1) (Table.find?_put_self _ _ _) hsent hm
    hnone reply, hwithout]

/-- A future that is left by settling has sent nothing. -/
lemma sent_of_settle {generation : Nat} {next : LoadState} (habsent : s.futures.find? name = none)
    (hg : (s.settle generation next).futures.find? name = some g) : g.sent = none := by
  rw [(s.settle_visited generation next).find?, habsent] at hg
  split at hg
  · rw [← Option.some.inj hg]
    rfl
  · simp at hg

/-- **The load that follows a submission or a revocation**, with a reply that is there at once. -/
lemma consume_of_prompt (habsent : s.futures.erase name = s.futures)
    (harrived : ∀ entry ∈ s.wire.arrived, entry.1 < s.wire.sent.length)
    (hknown : ∀ n, n ≠ m → known[n]?.join = known'[n]?.join) (hm : known[m]?.join = some reply)
    {r : Reply} {waiting : Session}
    (hwaiting : waiting = (keep name ((s.knowing known').consume f r)).1)
    (hg : waiting.futures.find? name = some g) (hsent : g.sent = some m) :
    let answered := (waiting.step (.respond m reply)).1.poll name
    keep name ((s.knowing known).consume f r) = (answered.1.knowing known, answered.2) := by
  intro answered
  have hnone : s.futures.find? name = none := habsent ▸ Table.find?_erase_self _ _
  have hsettled : ∀ {t : Session} {generation next}, t.futures = s.futures →
      waiting ≠ t.settle generation next := by
    intro t generation next ht h
    subst h
    simp [sent_of_settle (ht ▸ hnone) hg] at hsent
  cases hresult : f.result r with
  | some next =>
    rw [keep_consume_of_result hresult] at hwaiting
    exact absurd hwaiting (hsettled rfl)
  | none =>
    by_cases hlatest : s.client.generation = f.generation
    · rw [consume_of_accepted hresult (s.knowing known') hlatest, reload_knowing] at hwaiting
      rw [consume_of_accepted hresult (s.knowing known) hlatest, reload_knowing]
      cases hnext : known'[s.wire.sent.length]?.join with
      | some reply' =>
        simp only [hnext] at hwaiting
        rw [← settle_knowing] at hwaiting
        exact absurd hwaiting (hsettled rfl)
      | none =>
        simp only [hnext] at hwaiting
        subst hwaiting
        obtain rfl := Option.some.inj ((Table.find?_put_self _ _ _).symm.trans hg)
        obtain rfl : s.wire.sent.length = m := Option.some.inj hsent
        have hlt : s.wire.sent.length < (s.wire.send (.fetch s.endpoint)).1.sent.length := by
          simp [Wire.send]
        have hanswered := poll_of_kept (t := s.refetching.knowing known') habsent hsent hlt
          (fun entry hentry => Nat.ne_of_lt (harrived entry hentry)) reply
        simp only [hm, answered, hanswered, consume, settle_knowing]
        rfl
    · have hold : f.generation ≠ (s.knowing known').client.generation := Ne.symm hlatest
      rw [consume_of_superseded hold, keep_lapse] at hwaiting
      subst hwaiting
      exact absurd (hg.symm.trans hnone) (by simp)

/-- A poll, when some replies are known. -/
lemma poll_knowing (hf : s.futures.find? name = some f) (known : List (Option Reply)) :
    (s.knowing known).poll name = keep name (((s.without name).knowing known).pollFuture f) := by
  simp only [poll, show (s.knowing known).futures.find? name = some f from hf]
  rfl

/-- A future that has sent nothing sends its request, and finds the reply if it is known. -/
lemma receive_knowing (s : Session) (hf : f.sent = none) (known : List (Option Reply)) :
    (s.knowing known).receive f =
      ((s.withWire (s.wire.send (f.request s.endpoint)).1).knowing known, s.wire.sent.length,
        known[s.wire.sent.length]?.join) := by
  simp only [receive, hf]
  rfl

/-- **The first request of a future**, with a reply that is there at once: the future uses it, like
one that has been kept waiting for it. -/
lemma pollFuture_of_prompt (habsent : s.futures.erase name = s.futures) (hf : f.sent = none)
    (harrived : ∀ entry ∈ s.wire.arrived, entry.1 < s.wire.sent.length)
    (hknown : ∀ n, n ≠ s.wire.sent.length → known[n]?.join = known'[n]?.join)
    (hm : known[s.wire.sent.length]?.join = some reply)
    (hm' : known'[s.wire.sent.length]?.join = none) :
    let waiting := (keep name ((s.knowing known').pollFuture f)).1
    let answered := (waiting.step (.respond s.wire.sent.length reply)).1.poll name
    keep name ((s.knowing known).pollFuture f) = (answered.1.knowing known, answered.2) := by
  intro waiting answered
  have hreceive := s.receive_knowing hf
  have hlength : (s.wire.send (f.request s.endpoint)).1.sent.length = s.wire.sent.length + 1 := by
    simp [Wire.send]
  have hwaiting : waiting = (keep name
      ((s.withWire (s.wire.send (f.request s.endpoint)).1).knowing known',
        .pending (f.waitingFor s.wire.sent.length))).1 := by
    simp only [waiting, pollFuture, hreceive, hm']
  have hanswered : answered = keep name
      (((s.withWire (s.wire.send (f.request s.endpoint)).1).knowing known').consume f reply) := by
    have hkept := poll_of_kept
      (t := (s.withWire (s.wire.send (f.request s.endpoint)).1).knowing known')
      (g := f.waitingFor s.wire.sent.length) habsent (by simp) (hlength ▸ Nat.lt_succ_self _)
      (fun entry hentry => Nat.ne_of_lt (harrived entry hentry)) reply
    rw [consume_waitingFor] at hkept
    simp only [answered, hwaiting, hkept]
  have hnext := hknown (s.wire.sent.length + 1) (Nat.succ_ne_self _)
  rw [← hlength] at hnext
  simp only [hanswered, pollFuture, hreceive, hm]
  rw [consume_knowing _ f reply hnext, keep_knowing]

/-- **A reply that is there at once makes no difference.** If a poll leaves a future waiting for a
request that it has sent, then with the reply to this request known in advance the poll ends like
this: the reply comes in, and the future is polled again.

**Proof sketch.** The request is the future's own, or that of the load that follows a submission or
a revocation. In both cases the poll goes on with the reply as the second poll does. -/
theorem poll_of_prompt (harrived : ∀ entry ∈ s.wire.arrived, entry.1 < s.wire.sent.length)
    (hknown : ∀ n, n ≠ m → known[n]?.join = known'[n]?.join) (hm : known[m]?.join = some reply)
    (hm' : known'[m]?.join = none) {waiting : Session}
    (hwaiting : waiting = ((s.knowing known').poll name).1)
    (hg : waiting.futures.find? name = some g) (hsent : g.sent = some m)
    (hnew : s.wire.sent.length ≤ m) (hlt : m < waiting.wire.sent.length) :
    let answered := (waiting.step (.respond m reply)).1.poll name
    (s.knowing known).poll name = (answered.1.knowing known, answered.2) := by
  intro answered
  have habsent : (s.without name).futures.erase name = (s.without name).futures :=
    Table.erase_erase_self _ _
  cases hf : s.futures.find? name with
  | none =>
    rw [poll_of_absent (s.knowing known') hf] at hwaiting
    subst hwaiting
    exact absurd (hg.symm.trans hf) (by simp)
  | some f =>
    rw [poll_knowing hf] at hwaiting ⊢
    cases hfsent : f.sent with
    | none =>
      have hreceive := (s.without name).receive_knowing hfsent
      have hwire : (s.without name).wire = s.wire := rfl
      cases hfirst : known'[s.wire.sent.length]?.join with
      | none =>
        obtain rfl : s.wire.sent.length = m := by
          simp only [hwaiting, pollFuture, hreceive, hwire, hfirst] at hg
          obtain rfl := Option.some.inj ((Table.find?_put_self _ _ _).symm.trans hg)
          simpa using hsent
        subst hwaiting
        exact pollFuture_of_prompt habsent hfsent harrived hknown hm hm'
      | some r =>
        -- the future uses its reply, and goes on with a load
        have hne : s.wire.sent.length ≠ m := by
          rintro rfl
          simp [hfirst] at hm'
        simp only [pollFuture, hreceive, hwire, hfirst, hknown _ hne] at hwaiting ⊢
        refine consume_of_prompt
          (s := (s.without name).withWire (s.wire.send (f.request s.endpoint)).1) habsent
          (fun entry hentry => (harrived entry hentry).trans ?_) hknown hm hwaiting hg hsent
        simp [Wire.send, withWire]
    | some number =>
      have hreceive : ∀ k, ((s.without name).knowing k).receive f =
          (((s.without name).withWire (s.wire.take number).1).knowing k, number,
            s.wire.arrived.lookup number) := by
        intro k
        simp only [receive, hfsent]
        rfl
      simp only [pollFuture, hreceive] at hwaiting ⊢
      cases hfirst : s.wire.arrived.lookup number with
      | none =>
        simp only [hfirst] at hwaiting
        subst hwaiting
        exact absurd hlt (Nat.not_lt.mpr hnew)
      | some r =>
        simp only [hfirst] at hwaiting
        exact consume_of_prompt (s := (s.without name).withWire (s.wire.take number).1) habsent
          (fun entry hentry => harrived entry (List.mem_filter.mp hentry).1) hknown hm hwaiting hg
          hsent

end Session

end Consent
