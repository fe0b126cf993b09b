import Consent.Proofs.Observer.Phases
import Mathlib.Data.List.Nodup

set_option autoImplicit false

/-!
# Calls that cross

Calls on a bridge whose phases interleave: a replay may cross notifications, and notifications one
another. The record that an attachment has taken is in no field of the bridge until it is delivered,
and a newer one may be delivered in between. The host ends on the latest record all the same.

The invariant covers the deliveries that are under way: every record that has come in is at most as
late as one that is under way, or as the last one delivered.

## Main definitions

* `Consent.Observer.Phase` — one phase of a call.
* `Consent.Observer.Traffic` — a bridge with the calls that are between their phases.
* `Consent.Observer.Traffic.run` — the phases of all calls, in any order.

## Main results

* `Consent.Observer.Traffic.proceed_enter` — a call that nothing crosses is both phases at once.
* `Consent.Observer.Traffic.InOrder.proceed` — one phase keeps the invariant.
* `Consent.Observer.Traffic.crossing_calls_end_on_latest` — what the observer hears, and ends on.
-/

namespace Consent.Observer

/-- One phase of a call on a bridge. A call for a ticket has one phase. An attachment and a
notification have a first phase, and may leave a delivery under way, which is their second one. -/
inductive Phase where
  | ticket
  | notify (ticket : Ticket) (record : Record)
  | attach (h : Handle)
  /-- Carries out the delivery at a position among those under way. -/
  | deliver (position : Nat)

/-- The record that comes in with a phase. -/
def Phase.notice? : Phase → Option (Ticket × Record)
  | .notify t r => some (t, r)
  | .ticket => none
  | .attach _ => none
  | .deliver _ => none

/-- The observer that a phase attaches. -/
def Phase.attached? : Phase → Option Handle
  | .attach h => some h
  | .ticket => none
  | .notify _ _ => none
  | .deliver _ => none

/-- A bridge with the calls on it that are between their phases. -/
structure Traffic where
  /-- The bridge. -/
  bridge : Bridge
  /-- The deliveries that are under way. -/
  underway : List Delivery
  /-- What observers have been told, with the tickets. -/
  told : List (Ticket × Handle × Verdict)

namespace Traffic

/-- A bridge without calls. -/
def start (b : Bridge) : Traffic := ⟨b, [], []⟩

/-- What a first phase leaves. -/
def enter (c : Traffic) (p : Bridge × Option Delivery) : Traffic :=
  { c with
    bridge := p.1
    underway := c.underway ++ p.2.toList }

/-- Carries out a delivery. -/
def finish (alive : Handle → Bool) (c : Traffic) (position : Nat) (d : Delivery) : Traffic where
  bridge := (c.bridge.deliver alive d).1
  underway := c.underway.eraseIdx position
  told := c.told ++ (c.bridge.deliver alive d).2.toList.map fun call => (d.ticket, call)

/-- One phase of some call. -/
def proceed (alive : Handle → Bool) (c : Traffic) : Phase → Traffic
  | .ticket => { c with bridge := c.bridge.takeTicket.1 }
  | .notify t r => c.enter (c.bridge.notifyPhase t r)
  | .attach h => c.enter (c.bridge.attachPhase h)
  | .deliver position =>
    match c.underway[position]? with
    | none => c
    | some d => c.finish alive position d

/-- The phases of calls, in the order in which they happen. -/
def run (alive : Handle → Bool) (c : Traffic) (phases : List Phase) : Traffic :=
  phases.foldl (proceed alive) c

/-- The rank of a record that has come in. -/
def rank (p : Ticket × Record) : Nat := p.1.number

/-- A call that nothing crosses is both phases at once. -/
lemma proceed_enter (alive : Handle → Bool) (c : Traffic) (b : Bridge) (d : Delivery) :
    (c.enter (b, some d)).proceed alive (.deliver c.underway.length) =
      { bridge := (Bridge.finish alive (b, some d)).1
        underway := c.underway
        told := c.told ++
          (Bridge.finish alive (b, some d)).2.toList.map fun call => (d.ticket, call) } := by
  simp [proceed, enter, finish, Bridge.finish, List.eraseIdx_append_of_length_le]

variable {alive : Handle → Bool} {ns : List (Ticket × Record)} {hs : List Handle} {c : Traffic}

/-- The invariant of a bridge with calls on it, once some records have come in and some observers
have come to be attached, of which the first one is alive. -/
structure InOrder (ns : List (Ticket × Record)) (hs : List Handle) (c : Traffic) : Prop where
  /-- The first observer counts. -/
  observer : c.bridge.observer = hs.head?
  /-- Without an observer, the latest record is held and nothing is delivered. -/
  held : c.bridge.observer = none →
    c.bridge.pending = ns.argmax rank ∧ c.underway = [] ∧ c.told = []
  /-- What is under way came in, and goes to the observer. -/
  underway : ∀ d ∈ c.underway, c.bridge.observer = some d.handle ∧ (d.ticket, d.record) ∈ ns
  /-- What the observer has been told came in. -/
  told : ∀ e ∈ c.told,
    ∃ h r, c.bridge.observer = some h ∧ (e.1, r) ∈ ns ∧ e.2 = (h, r.verdict)
  /-- The observer has been told in the order of the tickets. -/
  sorted : (c.told.map (·.1.number)).Pairwise (· < ·)
  /-- The last ticket delivered is the last one that the observer has been told about. -/
  last : c.bridge.lastDelivered = c.told.getLast?.map (·.1)
  /-- With an observer, no record that came in has got lost. -/
  covered : c.bridge.observer.isSome = true → ∀ p ∈ ns,
    (∃ d ∈ c.underway, rank p ≤ d.ticket.number) ∨
      ∃ last, c.bridge.lastDelivered = some last ∧ rank p ≤ last.number

/-- A bridge on which nothing has happened is in order. -/
lemma InOrder.start {b : Bridge} (hobserver : b.observer = none) (hpending : b.pending = none)
    (hlast : b.lastDelivered = none) : InOrder [] [] (start b) where
  observer := hobserver
  held := fun _ => ⟨hpending, rfl, rfl⟩
  underway := by simp [Traffic.start]
  told := by simp [Traffic.start]
  sorted := by simp [Traffic.start]
  last := hlast
  covered := by simp

/-! ### First phases -/

/-- Giving out a ticket keeps the order. -/
lemma InOrder.ticket (hc : InOrder ns hs c) :
    InOrder ns hs { c with bridge := c.bridge.takeTicket.1 } :=
  ⟨hc.observer, hc.held, hc.underway, hc.told, hc.sorted, hc.last, hc.covered⟩

/-- A record that comes in is held or gets under way. -/
lemma InOrder.notify (hc : InOrder ns hs c) (t : Ticket) (r : Record) :
    InOrder (ns ++ [(t, r)]) hs (c.enter (c.bridge.notifyPhase t r)) := by
  cases hb : c.bridge.observer with
  | none =>
    obtain ⟨hpending, hunderway, htold⟩ := hc.held hb
    have hlatest := Bridge.held_argmax_concat rank id (fun _ => rfl) ns (t, r)
    simp only [Option.map_id, id_eq] at hlatest
    rw [Bridge.notifyPhase_of_unattached hb]
    constructor
    case observer => exact hc.observer
    case held =>
      intro _
      refine ⟨?_, by simp [enter, hunderway], htold⟩
      simp only [enter, hlatest, hpending]
    case underway => simp [enter, hunderway]
    case told => simp [enter, htold]
    case sorted => exact hc.sorted
    case last => exact hc.last
    case covered => simp [enter, hb]
  | some h =>
    rw [Bridge.notifyPhase_of_attached hb]
    constructor
    case observer => exact hc.observer
    case held => simp [enter, hb]
    case underway =>
      intro d hd
      simp only [enter, Option.toList_some, List.mem_append, List.mem_singleton] at hd
      rcases hd with hd | rfl
      · obtain ⟨hobs, hmem⟩ := hc.underway d hd
        exact ⟨hobs, by simp [hmem]⟩
      · exact ⟨hb, by simp⟩
    case told =>
      intro e he
      obtain ⟨k, r', hobs, hmem, heq⟩ := hc.told e he
      exact ⟨k, r', hobs, by simp [hmem], heq⟩
    case sorted => exact hc.sorted
    case last => exact hc.last
    case covered =>
      intro _ p hp
      simp only [List.mem_append, List.mem_singleton] at hp
      rcases hp with hp | rfl
      · rcases hc.covered (by simp [hb]) p hp with ⟨d, hd, hle⟩ | hlast
        · exact .inl ⟨d, by simp [enter, hd], hle⟩
        · exact .inr hlast
      · exact .inl ⟨⟨h, t, r⟩, by simp [enter], le_rfl⟩

/-- The first attachment gets the held record under way; further ones do nothing. -/
lemma InOrder.attach (hc : InOrder ns hs c) (h : Handle) :
    InOrder ns (hs ++ [h]) (c.enter (c.bridge.attachPhase h)) := by
  have hobserver := hc.observer
  cases hb : c.bridge.observer with
  | none =>
    obtain ⟨hpending, hunderway, htold⟩ := hc.held hb
    have hnone : hs = [] := by
      rw [hb] at hobserver
      exact List.head?_eq_none_iff.mp hobserver.symm
    rw [Bridge.attachPhase_of_unattached hb, hpending]
    constructor
    case observer => simp [enter, hnone]
    case held => simp [enter]
    case underway =>
      intro d hd
      simp only [enter, hunderway, List.nil_append, Option.mem_toList,
        Option.map_eq_some_iff] at hd
      obtain ⟨p, hp, rfl⟩ := hd
      exact ⟨rfl, List.argmax_mem hp⟩
    case told => simp [enter, htold]
    case sorted => exact hc.sorted
    case last => exact hc.last
    case covered =>
      intro _ p hp
      cases hmax : ns.argmax rank with
      | none => simp [List.argmax_eq_none.mp hmax] at hp
      | some m =>
        exact .inl ⟨⟨h, m.1, m.2⟩, by simp [enter], List.le_of_mem_argmax hp hmax⟩
  | some k =>
    rw [Bridge.attachPhase_of_attached hb]
    constructor
    case observer =>
      rw [List.head?_append, ← hobserver, hb]
      exact hb
    case held => simp [enter, hb]
    case underway => simpa [enter] using hc.underway
    case told => exact hc.told
    case sorted => exact hc.sorted
    case last => exact hc.last
    case covered => simpa [enter] using hc.covered

/-! ### The second phase -/

/-- What the observer has been told is at most as late as the last ticket delivered. -/
lemma InOrder.le_last (hc : InOrder ns hs c) {e : Ticket × Handle × Verdict} (he : e ∈ c.told) :
    ∃ last, c.bridge.lastDelivered = some last ∧ e.1.number ≤ last.number := by
  obtain htold | ⟨l, x, htold⟩ := List.eq_nil_or_concat c.told
  · simp [htold] at he
  · have hlast := hc.last
    have hsorted := hc.sorted
    rw [List.concat_eq_append] at htold
    rw [htold, List.getLast?_concat] at hlast
    refine ⟨x.1, hlast, ?_⟩
    rw [htold, List.map_append, List.pairwise_append] at hsorted
    rw [htold, List.mem_append, List.mem_singleton] at he
    rcases he with he | rfl
    · exact (hsorted.2.2 _ (List.mem_map_of_mem he) _ (by simp)).le
    · exact le_rfl

/-- A delivery that is stale has been overtaken: it goes, and what covers it stays. -/
lemma InOrder.finish_stale (hc : InOrder ns hs c) {position : Nat} {d : Delivery}
    (hd : c.underway[position]? = some d) (hstale : c.bridge.isStale d.ticket = true) :
    InOrder ns hs (c.finish alive position d) := by
  obtain ⟨hobserver, -⟩ := hc.underway d (List.mem_of_getElem? hd)
  have hfinish : c.finish alive position d =
      { c with underway := c.underway.eraseIdx position } := by
    simp [Traffic.finish, Bridge.deliver_of_stale hstale]
  rw [hfinish]
  constructor
  case observer => exact hc.observer
  case held => simp [hobserver]
  case underway => exact fun e he => hc.underway e (List.mem_of_mem_eraseIdx he)
  case told => exact hc.told
  case sorted => exact hc.sorted
  case last => exact hc.last
  case covered =>
    intro _ p hp
    rcases hc.covered (by simp [hobserver]) p hp with ⟨e, he, hle⟩ | hlast
    · obtain ⟨i, hi⟩ := List.getElem?_of_mem he
      by_cases hposition : i = position
      · -- The delivery that goes covered `p`; what made it stale does so now.
        obtain ⟨last, hlast, hle'⟩ := Bridge.isStale_iff.mp hstale
        have heq : e = d := by
          rw [hposition, hd] at hi
          exact (Option.some.inj hi).symm
        exact .inr ⟨last, hlast, (heq ▸ hle).trans hle'⟩
      · exact .inl ⟨e, List.mem_eraseIdx_iff_getElem?.mpr ⟨i, hposition, hi⟩, hle⟩
    · exact .inr hlast

/-- A delivery that is not stale reaches the observer, and covers what it is later than. -/
lemma InOrder.finish_fresh (hc : InOrder ns hs c) {position : Nat} {d : Delivery}
    (hd : c.underway[position]? = some d) (hfresh : c.bridge.isStale d.ticket = false)
    (hlive : alive d.handle = true) : InOrder ns hs (c.finish alive position d) := by
  obtain ⟨hobserver, hmem⟩ := hc.underway d (List.mem_of_getElem? hd)
  have hfinish : c.finish alive position d =
      { bridge := { c.bridge with
          lastDelivered := some d.ticket
          delivered := c.bridge.delivered + 1 }
        underway := c.underway.eraseIdx position
        told := c.told ++ [(d.ticket, d.handle, d.record.verdict)] } := by
    simp [Traffic.finish, Bridge.deliver_of_alive hfresh hlive]
  have hbefore : ∀ last, c.bridge.lastDelivered = some last → last.number < d.ticket.number := by
    intro last hlast
    by_contra hle
    simp [Bridge.isStale_iff.mpr ⟨last, hlast, not_lt.mp hle⟩] at hfresh
  rw [hfinish]
  constructor
  case observer => exact hc.observer
  case held => simp [hobserver]
  case underway => exact fun e he => hc.underway e (List.mem_of_mem_eraseIdx he)
  case told =>
    intro e he
    simp only [List.mem_append, List.mem_singleton] at he
    rcases he with he | rfl
    · exact hc.told e he
    · exact ⟨d.handle, d.record, hobserver, hmem, rfl⟩
  case sorted =>
    rw [List.map_append, List.pairwise_append]
    refine ⟨hc.sorted, by simp, ?_⟩
    simp only [List.map_cons, List.map_nil, List.mem_map, List.mem_singleton]
    rintro _ ⟨e, he, rfl⟩ _ rfl
    obtain ⟨last, hlast, hle⟩ := hc.le_last he
    exact hle.trans_lt (hbefore last hlast)
  case last => simp
  case covered =>
    intro _ p hp
    rcases hc.covered (by simp [hobserver]) p hp with ⟨e, he, hle⟩ | ⟨last, hlast, hle⟩
    · obtain ⟨i, hi⟩ := List.getElem?_of_mem he
      by_cases hposition : i = position
      · have heq : e = d := by
          rw [hposition, hd] at hi
          exact (Option.some.inj hi).symm
        exact .inr ⟨d.ticket, rfl, heq ▸ hle⟩
      · exact .inl ⟨e, List.mem_eraseIdx_iff_getElem?.mpr ⟨i, hposition, hi⟩, hle⟩
    · exact .inr ⟨d.ticket, rfl, hle.trans (hbefore last hlast).le⟩

/-- **One phase keeps the invariant**, whichever call it belongs to, as long as the observer that
counts is alive. -/
lemma InOrder.proceed (hc : InOrder ns hs c) (p : Phase)
    (hlive : ∀ h, c.bridge.observer = some h → alive h = true) :
    InOrder (ns ++ p.notice?.toList) (hs ++ p.attached?.toList) (c.proceed alive p) := by
  cases p with
  | ticket => simpa [Phase.notice?, Phase.attached?, Traffic.proceed] using hc.ticket
  | notify t r => simpa [Phase.notice?, Phase.attached?, Traffic.proceed] using hc.notify t r
  | attach h => simpa [Phase.notice?, Phase.attached?, Traffic.proceed] using hc.attach h
  | deliver position =>
    simp only [Phase.notice?, Phase.attached?, Option.toList_none, List.append_nil,
      Traffic.proceed]
    cases hd : c.underway[position]? with
    | none => exact hc
    | some d =>
      obtain ⟨hobserver, -⟩ := hc.underway d (List.mem_of_getElem? hd)
      cases hstale : c.bridge.isStale d.ticket with
      | true => exact hc.finish_stale hd hstale
      | false => exact hc.finish_fresh hd hstale (hlive _ hobserver)

/-! ### All phases -/

/-- The records that come in, in the order of the first phases. -/
def notices (phases : List Phase) : List (Ticket × Record) := phases.filterMap Phase.notice?

/-- The observers that come to be attached, in the order of the first phases. -/
def attachments (phases : List Phase) : List Handle := phases.filterMap Phase.attached?

/-- One more phase may bring one more record. -/
lemma notices_concat (phases : List Phase) (p : Phase) :
    notices (phases ++ [p]) = notices phases ++ p.notice?.toList := by
  cases p <;> simp [notices, Phase.notice?]

/-- One more phase may attach one more observer. -/
lemma attachments_concat (phases : List Phase) (p : Phase) :
    attachments (phases ++ [p]) = attachments phases ++ p.attached?.toList := by
  cases p <;> simp [attachments, Phase.attached?]

/-- **The invariant holds throughout**, in whatever order the phases happen.

**Proof sketch.** By induction on the phases from the end, with one case for each kind of phase. The
observer that counts at the end is the one that counted all along. -/
lemma InOrder.run {b : Bridge} (hb : InOrder [] [] (Traffic.start b)) {phases : List Phase}
    (hlive : ∀ h, (attachments phases).head? = some h → alive h = true) :
    InOrder (notices phases) (attachments phases) ((Traffic.start b).run alive phases) := by
  induction phases using List.reverseRecOn with
  | nil => exact hb
  | append_singleton phases p ih =>
    have hlive' : ∀ h, (attachments phases).head? = some h → alive h = true := by
      intro h hh
      exact hlive h (by rw [attachments_concat, List.head?_append, hh]; rfl)
    have hbefore := ih hlive'
    have hnext := hbefore.proceed p fun h hh => hlive' h (hbefore.observer ▸ hh)
    rw [notices_concat, attachments_concat]
    simpa [Traffic.run] using hnext

/-- Once nothing is under way, what the observer was told last is the latest record. -/
lemma InOrder.last_told (hc : InOrder ns hs c) {h : Handle} (hh : hs.head? = some h)
    (hidle : c.underway = []) (hns : (ns.map (·.1)).Nodup) :
    c.told.getLast?.map (·.2) = (ns.argmax rank).map fun p => (h, p.2.verdict) := by
  have hobserver : c.bridge.observer = some h := hc.observer.trans hh
  cases hmax : ns.argmax rank with
  | none =>
    cases htold : c.told.getLast? with
    | none => rfl
    | some e =>
      obtain ⟨k, r, -, hmem, -⟩ := hc.told e (List.mem_of_getLast? htold)
      simp [List.argmax_eq_none.mp hmax] at hmem
  | some p =>
    -- Nothing is under way, so the latest record is covered by the last ticket delivered.
    have hp : p ∈ ns := List.argmax_mem hmax
    rcases hc.covered (by simp [hobserver]) p hp with ⟨d, hd, -⟩ | ⟨last, hlast, hle⟩
    · simp [hidle] at hd
    rw [hc.last] at hlast
    obtain ⟨e, he, rfl⟩ := Option.map_eq_some_iff.mp hlast
    obtain ⟨k, r, hk, hmem, heq⟩ := hc.told e (List.mem_of_getLast? he)
    have hrank : rank (e.1, r) = rank p := le_antisymm (List.le_of_mem_argmax hmem hmax) hle
    have hticket : e.1 = p.1 := by
      cases hp1 : p.1
      cases he1 : e.1
      simpa [rank, hp1, he1] using hrank
    have hsame : (e.1, r) = p := List.inj_on_of_nodup_map hns hmem hp hticket
    have hkh : k = h := Option.some.inj (hk.symm.trans hobserver)
    rw [he, Option.map_some, Option.map_some, heq, ← hsame, hkh]

/-- **Calls may cross without the host ending on an old record.** Whatever calls there are on a new
bridge and however their phases interleave, if no ticket is redeemed twice and the first observer
attached is alive, then this observer is told about records that came in, each at most once and in
the order of their tickets. Once every call has finished, it was told last about the latest record
of all that came in.

**Proof sketch.** Every record that came in is covered: it is at most as late as a delivery that is
under way, or as the last one delivered. When a delivery is carried out, it covers what it covered
before as the last one delivered, unless it was overtaken by a later one, which then does. At the
end nothing is under way, and so the last delivery covers the latest record. -/
theorem crossing_calls_end_on_latest {b : Bridge} (hb : b = .detached ∨ b = .watching)
    (alive : Handle → Bool) (phases : List Phase)
    (hlive : ∀ h, (attachments phases).head? = some h → alive h = true)
    (honce : ((notices phases).map (·.1)).Nodup) :
    let c := (start b).run alive phases
    (c.told.map (·.1.number)).Pairwise (· < ·) ∧
    (c.told.map (·.1)).Nodup ∧
    (∀ e ∈ c.told, ∃ h r, (attachments phases).head? = some h ∧ (e.1, r) ∈ notices phases ∧
      e.2 = (h, r.verdict)) ∧
    (c.underway = [] → ∀ h, (attachments phases).head? = some h →
      c.told.getLast?.map (·.2) =
        ((notices phases).argmax rank).map fun p => (h, p.2.verdict)) := by
  intro c
  have hstart : InOrder [] [] (start b) := by
    rcases hb with rfl | rfl <;> exact InOrder.start rfl rfl rfl
  have hc : InOrder (notices phases) (attachments phases) c := hstart.run hlive
  refine ⟨hc.sorted, ?_, ?_, fun hidle h hh => hc.last_told hh hidle honce⟩
  · have hdistinct : ((c.told.map (·.1)).map (·.number)).Nodup := by
      rw [List.map_map]
      exact hc.sorted.imp fun hlt => hlt.ne
    exact hdistinct.of_map _
  · intro e he
    obtain ⟨h, r, hobserver, hmem, heq⟩ := hc.told e he
    exact ⟨h, r, hc.observer ▸ hobserver, hmem, heq⟩

/-- A replay that a newer record overtakes: the attachment has taken the old record, the newer one
is delivered first, and the old one is dropped. -/
theorem overtaken_replay_is_dropped :
    let old : Record := ⟨"urn:x", false, false, false, ""⟩
    let new : Record := ⟨"urn:x", true, true, true, "2030-01-01"⟩
    let phases : List Phase :=
      [.ticket, .notify ⟨1⟩ old, .attach ⟨0⟩, .ticket, .notify ⟨2⟩ new, .deliver 1, .deliver 0]
    let c := (start .detached).run (fun _ => true) phases
    c.underway = [] ∧ c.told.getLast?.map (·.2) = some (⟨0⟩, .approve "2030-01-01") := by
  intro old new phases c
  have hidle : c.underway = [] := by decide
  obtain ⟨-, -, -, hlast⟩ := crossing_calls_end_on_latest (.inl rfl) (fun _ => true) phases
    (fun _ _ => rfl) (by decide)
  refine ⟨hidle, ?_⟩
  rw [hlast hidle ⟨0⟩ rfl]
  rfl

end Traffic

end Consent.Observer
