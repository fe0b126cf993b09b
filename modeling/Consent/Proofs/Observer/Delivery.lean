import Consent.Proofs.Observer.Phases

set_option autoImplicit false

/-!
# The order of deliveries

What a bridge delivers, for every sequence of calls on it: tickets may be redeemed in any order,
more than once, or never, and observers may die at any time.

Before an observer is attached, the record with the highest ticket is held. From then on, the
records that are delivered are the *strict left-to-right maxima* by ticket, of the held record
followed by those that come in. A maximum that finds the observer dead is not delivered, and counts
all the same for those that come after it.

## Main definitions

* `Consent.Observer.leftMaxima` — the elements of a list that rank above all those before them.
* `Consent.Observer.Bridge.Op`, `Consent.Observer.Bridge.play` — calls on a bridge, and all calls
  one after the other.
* `Consent.Observer.Bridge.notices` — the records that come in, with their tickets.

## Main results

* `Consent.Observer.Bridge.play_held` — what is held before an observer is attached.
* `Consent.Observer.Bridge.play_served` — what is delivered from then on.
* `Consent.Observer.Bridge.calls_are_left_maxima` — both, for every sequence of calls.
-/

namespace Consent.Observer

/-! ### Left-to-right maxima -/

section LeftMaxima

variable {α : Type} (rank : α → Nat)

/-- The strict left-to-right maxima of a list: the elements that rank above all those before
them. -/
def leftMaxima : List α → List α
  | [] => []
  | a :: l => a :: (leftMaxima l).filter fun b => rank a < rank b

/-- The left-to-right maxima of a list are some of its elements, in their order. -/
lemma leftMaxima_sublist (l : List α) : (leftMaxima rank l).Sublist l := by
  induction l with
  | nil => exact .slnil
  | cons a l ih => exact (List.filter_sublist.trans ih).cons_cons a

/-- An element at the end of a list is a left-to-right maximum if it ranks above all others. -/
lemma leftMaxima_concat (l : List α) (a : α) :
    leftMaxima rank (l ++ [a]) =
      leftMaxima rank l ++ if ∀ b ∈ l, rank b < rank a then [a] else [] := by
  induction l with
  | nil => simp [leftMaxima]
  | cons c l ih =>
    simp only [List.cons_append, leftMaxima, ih, List.filter_append, List.mem_cons,
      forall_eq_or_imp]
    by_cases hc : rank c < rank a
    · by_cases hl : ∀ b ∈ l, rank b < rank a <;> simp [hl, hc]
    · have hdrop :
          (if ∀ b ∈ l, rank b < rank a then [a] else []).filter (rank c < rank ·) = [] := by
        split <;> simp [hc]
      simp [hc, hdrop]

variable {rank} in
/-- An element that ranks above all others at the end of a list is its maximum. -/
lemma argmax_concat_of_max {l : List α} {a : α} (h : ∀ b ∈ l, rank b < rank a) :
    (l ++ [a]).argmax rank = some a := by
  rw [List.argmax_concat]
  cases hl : l.argmax rank with
  | none => rfl
  | some c => simp [h c (List.argmax_mem hl)]

variable {rank} in
/-- An element that does not rank above all others at the end of a list leaves the maximum. -/
lemma argmax_concat_of_not_max {l : List α} {a : α} (h : ¬ ∀ b ∈ l, rank b < rank a) :
    (l ++ [a]).argmax rank = l.argmax rank := by
  rw [List.argmax_concat]
  cases hl : l.argmax rank with
  | none =>
    obtain rfl := List.argmax_eq_none.mp hl
    simp at h
  | some c =>
    have hc : ¬ rank c < rank a := by
      intro hlt
      exact h fun b hb => (List.le_of_mem_argmax hb hl).trans_lt hlt
    simp [hc]

end LeftMaxima

namespace Bridge

/-! ### Calls on a bridge -/

/-- The observers that are alive at some time. -/
abbrev World := Handle → Bool

/-- A call on a bridge. -/
inductive Op where
  | ticket
  | notify (record : Record)
  | notifyAt (ticket : Ticket) (record : Record)
  | attach (h : Handle)

/-- Whether a call attaches an observer. -/
def Op.attaches : Op → Bool
  | .attach _ => true
  | _ => false

/-- Carries a call out: the bridge after it, and what an observer is told. -/
def act (b : Bridge) (alive : World) : Op → Bridge × Option (Handle × Verdict)
  | .ticket => (b.takeTicket.1, none)
  | .notify r => b.notify alive r
  | .notifyAt t r => b.notifyAt alive t r
  | .attach h => b.attach alive h

/-- Carries calls out, each with the observers that are alive at its time: the bridge after them,
and all that observers are told. -/
def play (b : Bridge) (ops : List (Op × World)) : Bridge × List (Handle × Verdict) :=
  ops.foldl (fun p o => ((p.1.act o.2 o.1).1, p.2 ++ (p.1.act o.2 o.1).2.toList)) (b, [])

/-- One more call. -/
lemma play_concat (b : Bridge) (ops : List (Op × World)) (o : Op × World) :
    b.play (ops ++ [o]) =
      (((b.play ops).1.act o.2 o.1).1,
        (b.play ops).2 ++ ((b.play ops).1.act o.2 o.1).2.toList) := by
  simp [play]

/-- A record that comes in, with its ticket and the observers that are alive then. -/
structure Notice where
  /-- The ticket. -/
  ticket : Ticket
  /-- The record. -/
  record : Record
  /-- The observers that are alive. -/
  alive : World

/-- A notice ranks by its ticket. -/
def Notice.rank (n : Notice) : Nat := n.ticket.number

/-- The ticket and the record of a notice. -/
def Notice.pair (n : Notice) : Ticket × Record := (n.ticket, n.record)

/-- The record that comes in with a call, when some tickets have been given out. -/
def Op.notice? (issued : Nat) (alive : World) : Op → Option Notice
  | .notify r => some ⟨⟨issued + 1⟩, r, alive⟩
  | .notifyAt t r => some ⟨t, r, alive⟩
  | .ticket => none
  | .attach _ => none

/-- How many tickets have been given out after a call. -/
def Op.issue (issued : Nat) : Op → Nat
  | .ticket => issued + 1
  | .notify _ => issued + 1
  | .notifyAt _ _ => issued
  | .attach _ => issued

/-- How many tickets have been given out after some calls. -/
def issuedAfter (issued : Nat) (ops : List (Op × World)) : Nat :=
  ops.foldl (fun n o => o.1.issue n) issued

/-- The records that come in, in the order of the calls. -/
def notices (issued : Nat) : List (Op × World) → List Notice
  | [] => []
  | o :: ops => (o.1.notice? issued o.2).toList ++ notices (o.1.issue issued) ops

/-- The records that come in with one sequence of calls after another. -/
lemma notices_append (issued : Nat) (ops ops' : List (Op × World)) :
    notices issued (ops ++ ops') =
      notices issued ops ++ notices (issuedAfter issued ops) ops' := by
  induction ops generalizing issued with
  | nil => rfl
  | cons o ops ih => simp only [List.cons_append, notices, ih, List.append_assoc]; rfl

/-- What a call counts: the tickets given out, the record that comes in, and the call of an
observer. -/
lemma act_counts (b : Bridge) (alive : World) (op : Op) :
    (b.act alive op).1.issued = op.issue b.issued ∧
      (b.act alive op).1.notified = b.notified + (op.notice? b.issued alive).toList.length ∧
      (b.act alive op).1.delivered = b.delivered + (b.act alive op).2.toList.length := by
  cases op with
  | ticket => exact ⟨rfl, rfl, rfl⟩
  | notify r => exact notifyAt_counts alive b.takeTicket.1 ⟨b.issued + 1⟩ r
  | notifyAt t r => exact notifyAt_counts alive b t r
  | attach h => exact attach_counts alive b h

/-- The tickets given out in a sequence of calls are those that the calls ask for. -/
lemma play_issued (b : Bridge) (ops : List (Op × World)) :
    (b.play ops).1.issued = issuedAfter b.issued ops := by
  induction ops using List.reverseRecOn with
  | nil => rfl
  | append_singleton ops o ih =>
    rw [play_concat, (act_counts _ _ _).1, ih]
    simp [issuedAfter]

/-- One more call may bring one more record. -/
lemma notices_concat (b : Bridge) (ops : List (Op × World)) (o : Op × World) :
    notices b.issued (ops ++ [o]) =
      notices b.issued ops ++ (o.1.notice? (b.play ops).1.issued o.2).toList := by
  rw [notices_append, play_issued]
  simp [notices]

/-- **The counters are right**: one counts the records that came in, the other one the calls of
observers. -/
lemma play_counts (b : Bridge) (ops : List (Op × World)) :
    (b.play ops).1.notified = b.notified + (notices b.issued ops).length ∧
      (b.play ops).1.delivered = b.delivered + (b.play ops).2.length := by
  induction ops using List.reverseRecOn with
  | nil => exact ⟨rfl, rfl⟩
  | append_singleton ops o ih =>
    obtain ⟨-, hnotified, hdelivered⟩ := act_counts (b.play ops).1 o.2 o.1
    rw [play_concat, notices_concat, List.length_append, List.length_append, hnotified,
      hdelivered, ih.1, ih.2]
    exact ⟨by omega, by omega⟩

/-! ### Before an observer is attached -/

/-- A bridge without an observer, once some records have come in: the one with the highest ticket is
held. -/
structure Held (ns : List Notice) (b : Bridge) : Prop where
  observer : b.observer = none
  pending : b.pending = (ns.argmax Notice.rank).map Notice.pair
  last : b.lastDelivered = none

/-- A record that comes in is held if its ticket is the highest one. -/
lemma Held.notifyAt {ns : List Notice} {b : Bridge} (hb : Held ns b) (n : Notice) :
    Held (ns ++ [n]) (b.notifyAt n.alive n.ticket n.record).1 ∧
      (b.notifyAt n.alive n.ticket n.record).2 = none := by
  have hpending := held_argmax_concat Notice.rank Notice.pair (fun _ => rfl) ns n
  rw [Bridge.notifyAt, notifyPhase_of_unattached hb.observer]
  refine ⟨⟨hb.observer, ?_, hb.last⟩, rfl⟩
  simp only [finish, hpending, hb.pending, Notice.pair]

/-- A call that attaches no observer keeps the record with the highest ticket. -/
lemma Held.act {ns : List Notice} {b : Bridge} (hb : Held ns b) (alive : World) {op : Op}
    (hop : op.attaches = false) :
    Held (ns ++ (op.notice? b.issued alive).toList) (b.act alive op).1 ∧
      (b.act alive op).2 = none := by
  cases op with
  | ticket =>
    have hb' : Held ns b.takeTicket.1 := ⟨hb.observer, hb.pending, hb.last⟩
    exact ⟨by simpa [Op.notice?, Bridge.act] using hb', rfl⟩
  | notify r =>
    have hb' : Held ns b.takeTicket.1 := ⟨hb.observer, hb.pending, hb.last⟩
    exact hb'.notifyAt ⟨⟨b.issued + 1⟩, r, alive⟩
  | notifyAt t r => exact hb.notifyAt ⟨t, r, alive⟩
  | attach h => simp [Op.attaches] at hop

/-- **Before an observer is attached**, the record with the highest ticket is held, the earliest
one if several share it, and nobody is told anything. -/
lemma play_held {b : Bridge} (hb : Held [] b) {ops : List (Op × World)}
    (hops : ∀ o ∈ ops, o.1.attaches = false) :
    Held (notices b.issued ops) (b.play ops).1 ∧ (b.play ops).2 = [] := by
  induction ops using List.reverseRecOn with
  | nil => exact ⟨hb, rfl⟩
  | append_singleton ops o ih =>
    obtain ⟨hheld, hcalls⟩ := ih fun o' ho' => hops o' (by simp [ho'])
    obtain ⟨hnext, hquiet⟩ := hheld.act o.2 (hops o (by simp))
    rw [notices_concat, play_concat, hcalls, hquiet]
    exact ⟨hnext, rfl⟩

/-! ### From the attachment on -/

/-- A bridge with an observer, once some records have been for delivery: the left-to-right maxima
that found the observer alive have been delivered. -/
structure Served (h : Handle) (ns : List Notice) (b : Bridge) (calls : List (Handle × Verdict)) :
    Prop where
  observer : b.observer = some h
  pending : b.pending = none
  last : b.lastDelivered = (ns.argmax Notice.rank).map Notice.ticket
  calls : calls =
    ((leftMaxima Notice.rank ns).filter (·.alive h)).map fun n => (h, n.record.verdict)

/-- A record is stale unless its ticket is above those of all records before it. -/
lemma Served.isStale_iff {h : Handle} {ns : List Notice} {b : Bridge}
    {calls : List (Handle × Verdict)} (hb : Served h ns b calls) (n : Notice) :
    b.isStale n.ticket = true ↔ ¬ ∀ m ∈ ns, m.rank < n.rank := by
  rw [Bridge.isStale_iff, hb.last]
  constructor
  · rintro ⟨last, hlast, hle⟩ hmax
    obtain ⟨c, hc, rfl⟩ := Option.map_eq_some_iff.mp hlast
    exact absurd (hmax c (List.argmax_mem hc)) (Nat.not_lt.mpr hle)
  · intro hmax
    push Not at hmax
    obtain ⟨m, hm, hle⟩ := hmax
    cases hc : ns.argmax Notice.rank with
    | none => simp [List.argmax_eq_none.mp hc] at hm
    | some c => exact ⟨c.ticket, rfl, hle.trans (List.le_of_mem_argmax hm hc)⟩

/-- A delivery tells the observer about a record if it is a left-to-right maximum and the observer
is alive. -/
lemma Served.deliver {h : Handle} {ns : List Notice} {b : Bridge}
    {calls : List (Handle × Verdict)} (hb : Served h ns b calls) (n : Notice) :
    Served h (ns ++ [n]) (b.deliver n.alive ⟨h, n.ticket, n.record⟩).1
      (calls ++ (b.deliver n.alive ⟨h, n.ticket, n.record⟩).2.toList) := by
  by_cases hmax : ∀ m ∈ ns, m.rank < n.rank
  · have hfresh : b.isStale n.ticket = false := by
      rw [← Bool.not_eq_true, hb.isStale_iff]
      exact not_not.mpr hmax
    cases hlive : n.alive h with
    | true =>
      rw [deliver_of_alive hfresh hlive]
      refine ⟨hb.observer, hb.pending, ?_, ?_⟩
      · simp [argmax_concat_of_max hmax]
      · simp [leftMaxima_concat, if_pos hmax, hb.calls, hlive]
    | false =>
      rw [deliver_of_dead hfresh hlive]
      refine ⟨hb.observer, hb.pending, ?_, ?_⟩
      · simp [argmax_concat_of_max hmax]
      · simp [leftMaxima_concat, if_pos hmax, hb.calls, hlive]
  · have hstale : b.isStale n.ticket = true := (hb.isStale_iff n).mpr hmax
    rw [deliver_of_stale hstale]
    refine ⟨hb.observer, hb.pending, ?_, ?_⟩
    · rw [argmax_concat_of_not_max hmax]
      exact hb.last
    · simp [leftMaxima_concat, if_neg hmax, hb.calls]

/-- The first attachment delivers the held record, if there is one. -/
lemma Held.attach {ns : List Notice} {b : Bridge} (hb : Held ns b) (alive : World) (h : Handle) :
    Served h ((ns.argmax Notice.rank).toList.map fun n => { n with alive := alive })
      (b.attach alive h).1 (b.attach alive h).2.toList := by
  have hstart : Served h [] { b with observer := some h, pending := none } [] :=
    ⟨rfl, rfl, hb.last, rfl⟩
  rw [Bridge.attach, attachPhase_of_unattached hb.observer, hb.pending]
  cases ns.argmax Notice.rank with
  | none => exact hstart
  | some n => exact hstart.deliver { n with alive := alive }

/-- A record that comes in is for delivery. -/
lemma Served.notifyAt {h : Handle} {ns : List Notice} {b : Bridge}
    {calls : List (Handle × Verdict)} (hb : Served h ns b calls) (n : Notice) :
    Served h (ns ++ [n]) (b.notifyAt n.alive n.ticket n.record).1
      (calls ++ (b.notifyAt n.alive n.ticket n.record).2.toList) := by
  have hb' : Served h ns { b with notified := b.notified + 1 } calls :=
    ⟨hb.observer, hb.pending, hb.last, hb.calls⟩
  rw [Bridge.notifyAt, notifyPhase_of_attached hb.observer]
  exact hb'.deliver n

/-- Every call keeps delivering left-to-right maxima; further attachments change nothing. -/
lemma Served.act {h : Handle} {ns : List Notice} {b : Bridge} {calls : List (Handle × Verdict)}
    (hb : Served h ns b calls) (alive : World) (op : Op) :
    Served h (ns ++ (op.notice? b.issued alive).toList) (b.act alive op).1
      (calls ++ (b.act alive op).2.toList) := by
  have hb' : Served h ns b.takeTicket.1 calls := ⟨hb.observer, hb.pending, hb.last, hb.calls⟩
  cases op with
  | ticket => simpa [Op.notice?, Bridge.act] using hb'
  | notify r => exact hb'.notifyAt ⟨⟨b.issued + 1⟩, r, alive⟩
  | notifyAt t r => exact hb.notifyAt ⟨t, r, alive⟩
  | attach k =>
    simpa [Op.notice?, Bridge.act, Bridge.attach, attachPhase_of_attached hb.observer, finish]
      using hb

/-- The records for delivery in a sequence of calls: the one that is held when an observer is
attached, and those that come in later. -/
def deliverable (issued : Nat) (before : List (Op × World)) (alive : World)
    (ops : List (Op × World)) : List Notice :=
  (((notices issued before).argmax Notice.rank).toList.map fun n => { n with alive := alive }) ++
    (notices issued ops).drop (notices issued before).length

/-- **From the attachment on**, the left-to-right maxima of the records for delivery are
delivered. -/
lemma play_served {b : Bridge} (hb : Held [] b) {before : List (Op × World)}
    (hbefore : ∀ o ∈ before, o.1.attaches = false) (h : Handle) (alive : World)
    (after : List (Op × World)) :
    let ops := before ++ (.attach h, alive) :: after
    Served h (deliverable b.issued before alive ops) (b.play ops).1 (b.play ops).2 := by
  intro ops
  induction after using List.reverseRecOn with
  | nil =>
    obtain ⟨hheld, hcalls⟩ := play_held hb hbefore
    have hattach := hheld.attach alive h
    simp only [ops, deliverable, notices_append, play_concat, hcalls]
    simpa [notices, Op.notice?, Bridge.act] using hattach
  | append_singleton after o ih =>
    have hops : ops = (before ++ (.attach h, alive) :: after) ++ [o] := by simp [ops]
    have hlen : (notices b.issued before).length ≤
        (notices b.issued (before ++ (.attach h, alive) :: after)).length := by
      rw [notices_append, List.length_append]
      omega
    have hnext := ih.act o.2 o.1
    rw [hops, play_concat, deliverable, notices_concat, List.drop_append_of_le_length hlen,
      ← List.append_assoc]
    exact hnext

/-- **What a bridge delivers**, for every sequence of calls on a new bridge, whatever tickets are
redeemed and whoever is alive. Before the first attachment the record with the highest ticket is
held, the earliest one if several share it. From then on the first observer is told about the strict
left-to-right maxima, by ticket, of the held record followed by those that come in, as far as it is
alive; those that it misses count as delivered for the tickets. Nothing is held any more, and
further attachments change nothing. The counters count the records that came in and the calls made.

**Proof sketch.** By induction on the calls from the end. Until an observer is attached, the record
that is held moves on as the first maximum of a list does (`play_held`). The attachment turns it
into the first record for delivery, and from then on the ticket that is compared with is the maximum
of those before, so that a record is stale unless it is a left-to-right maximum (`play_served`). -/
theorem calls_are_left_maxima {b : Bridge} (hb : b = .detached ∨ b = .watching)
    (ops : List (Op × World)) :
    (b.play ops).1.notified = (notices 0 ops).length ∧
    (b.play ops).1.delivered = (b.play ops).2.length ∧
    ((∀ o ∈ ops, o.1.attaches = false) →
      (b.play ops).1.observer = none ∧
      (b.play ops).1.pendingRecord = ((notices 0 ops).argmax Notice.rank).map Notice.record ∧
      (b.play ops).2 = []) ∧
    (∀ (before after : List (Op × World)) (h : Handle) (alive : World),
      ops = before ++ (.attach h, alive) :: after →
      (∀ o ∈ before, o.1.attaches = false) →
        let ns := deliverable 0 before alive ops
        (b.play ops).1.observer = some h ∧
        (b.play ops).1.pending = none ∧
        (b.play ops).1.lastDelivered = (ns.argmax Notice.rank).map Notice.ticket ∧
        (b.play ops).2 =
          ((leftMaxima Notice.rank ns).filter (·.alive h)).map
            (fun n => (h, n.record.verdict)) ∧
        ((∀ n ∈ ns, n.alive h = true) →
          (b.play ops).2 = (leftMaxima Notice.rank ns).map fun n => (h, n.record.verdict)) ∧
        (∀ k alive', (b.play ops).1.attach alive' k = ((b.play ops).1, none))) := by
  have hnew : Held [] b ∧ b.issued = 0 ∧ b.notified = 0 ∧ b.delivered = 0 := by
    rcases hb with rfl | rfl <;> exact ⟨⟨rfl, rfl, rfl⟩, rfl, rfl, rfl⟩
  obtain ⟨hheld, hissued, hnotified, hdelivered⟩ := hnew
  obtain ⟨hcount, hcalls⟩ := play_counts b ops
  rw [hissued, hnotified, Nat.zero_add] at hcount
  rw [hdelivered, Nat.zero_add] at hcalls
  refine ⟨hcount, hcalls, fun hops => ?_, ?_⟩
  · obtain ⟨hplay, hquiet⟩ := play_held hheld hops
    rw [hissued] at hplay
    refine ⟨hplay.observer, ?_, hquiet⟩
    rw [pendingRecord, hplay.pending, Option.map_map]
    rfl
  · rintro before after h alive rfl hbefore ns
    have hserved := play_served hheld hbefore h alive after
    rw [hissued] at hserved
    refine ⟨hserved.observer, hserved.pending, hserved.last, hserved.calls, ?_, ?_⟩
    · intro hlive
      rw [hserved.calls, List.filter_eq_self.mpr]
      intro n hn
      exact hlive n ((leftMaxima_sublist Notice.rank ns).subset hn)
    · intro k alive'
      rw [attach, attachPhase_of_attached hserved.observer, finish]

/-- Tickets redeemed in the wrong order and once more, and an observer that dies: it is told about
the held record and the next one, misses the last one, and that one is not made up for. -/
theorem calls_for_reused_tickets :
    let yes : Record := ⟨"urn:x", true, true, true, "2030-01-01"⟩
    let no : Record := ⟨"urn:x", false, false, false, ""⟩
    let live : World := fun _ => true
    let dead : World := fun _ => false
    let before : List (Op × World) :=
      [(.ticket, live), (.ticket, live), (.notifyAt ⟨2⟩ no, live), (.notifyAt ⟨1⟩ yes, live)]
    let after : List (Op × World) :=
      [(.notify yes, live), (.notifyAt ⟨2⟩ no, live), (.notify no, dead), (.notifyAt ⟨3⟩ yes, live)]
    let ops := before ++ (.attach ⟨0⟩, live) :: after
    (∀ o ∈ before, o.1.attaches = false) ∧
    (detached.play before).1.pendingRecord = some no ∧
    (detached.play ops).2 = [(⟨0⟩, .decline), (⟨0⟩, .approve "2030-01-01")] ∧
    (detached.play ops).1.lastDelivered = some ⟨4⟩ ∧
    (detached.play ops).1.notified = 6 := by
  intro yes no live dead before after ops
  have hbefore : ∀ o ∈ before, o.1.attaches = false := by simp [before, Op.attaches]
  obtain ⟨-, -, hheld, -⟩ := calls_are_left_maxima (.inl rfl) before
  obtain ⟨hcount, -, -, hserved⟩ := calls_are_left_maxima (.inl rfl) ops
  obtain ⟨-, -, hlast, hcalls, -⟩ := hserved before after ⟨0⟩ live rfl hbefore
  refine ⟨hbefore, ?_, ?_, ?_, ?_⟩
  · rw [(hheld hbefore).2.1]
    rfl
  · rw [hcalls]
    rfl
  · rw [hlast]
    rfl
  · rw [hcount]
    rfl

end Bridge

end Consent.Observer
