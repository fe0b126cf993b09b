import Consent.Http.Transport
import Mathlib.Control.Monad.Basic
import Mathlib.Tactic.Lemma

set_option autoImplicit false

/-!
# Responses that are returned as they are

A transport is to return every response as it is, and to leave its status to the caller. It does so
exactly if the response is not *followed*, that is, unless its status says that the resource is
elsewhere and its location can be read. A followed response never comes back. Another message goes
out in its place, and what comes back is the answer to the last one.

So the status that a caller sees may belong to another message than the one it asked for: a
submission that is answered by a redirection is followed by a fetch, and passes for accepted if the
fetch is answered with the right status.

## Main definitions

* `Consent.Http.IsFollowed` — whether a response is followed.

## Main results

* `Consent.Http.exchange_messages` — what has been sent stays, and the message is sent next.
* `Consent.Http.exchange_eq_iff` — when an exchange ends with the answer to its first message.
* `Consent.HttpTransport.response_is_returned_iff` — when a transport returns a response as it is.
* `Consent.HttpTransport.redirected_submission_is_accepted` — a submission that is accepted though
  the server has only redirected it.
-/

namespace Consent

namespace Http

/-- Whether a response to a message at an address is followed: its status says that the resource is
elsewhere, and its location can be read. -/
def IsFollowed (url : Url) (status : Nat) (location : Option Bytes) : Prop :=
  status ∈ [301, 302, 303, 307, 308] ∧ (target? url location).isSome = true

variable {network : Network} {limit : Nat} {sent : List Message} {m next : Message} {status : Nat}
  {location : Option Bytes} {body : Bytes}

/-- A response leads to no other message unless it is followed. -/
lemma redirect?_eq_none_iff :
    redirect? m status location = none ↔ ¬ IsFollowed m.url status location := by
  have hfetch : isFetchRedirect status = true ↔ status ∈ [301, 302, 303] := by
    simp [isFetchRedirect, or_assoc]
  have hsame : isSameRedirect status = true ↔ status ∈ [307, 308] := by
    simp [isSameRedirect]
  have hstatus : status ∈ [301, 302, 303, 307, 308] ↔
      isFetchRedirect status = true ∨ isSameRedirect status = true := by
    rw [hfetch, hsame, ← List.mem_append]
    rfl
  rw [IsFollowed, hstatus, redirect?]
  cases isFetchRedirect status <;> cases isSameRedirect status <;>
    cases target? m.url location <;> simp

/-- **What has been sent stays, and the message is sent next**, whatever comes after it.

**Proof sketch.** By induction on the number of answers that may be followed. -/
lemma exchange_messages (network : Network) (limit : Nat) (sent : List Message) (m : Message) :
    ∃ more, (exchange network limit sent m).2 = sent ++ m :: more := by
  induction limit generalizing sent m with
  | zero =>
    refine ⟨[], ?_⟩
    rw [exchange]
    split
    · rfl
    · split <;> rfl
  | succ limit ih =>
    rw [exchange]
    split
    · exact ⟨[], rfl⟩
    · split
      · exact ⟨[], rfl⟩
      · rename_i next _
        simp only
        split
        · obtain ⟨more, hmore⟩ := ih (sent ++ [m]) next
          refine ⟨next :: more, ?_⟩
          rw [hmore, List.append_assoc]
          rfl
        · exact ⟨[], rfl⟩

/-- An answer that leads elsewhere ends the exchange with a failure, or another message is sent. -/
lemma exchange_of_redirect (limit : Nat)
    (answer : network sent m = .response status location body)
    (hnext : redirect? m status location = some next) :
    (∃ e, (exchange network limit sent m).1 = .error e) ∨
      ∃ more, (exchange network limit sent m).2 = sent ++ m :: next :: more := by
  rw [exchange]
  simp only [answer, hnext]
  cases limit with
  | zero => exact .inl ⟨_, rfl⟩
  | succ limit =>
    simp only
    split
    · obtain ⟨more, hmore⟩ := exchange_messages network limit (sent ++ [m]) next
      refine .inr ⟨more, ?_⟩
      rw [hmore, List.append_assoc]
      rfl
    · exact .inl ⟨_, rfl⟩

/-- **An exchange ends with the answer to its first message** exactly if this answer is not
followed. -/
lemma exchange_eq_iff (answer : network sent m = .response status location body) :
    exchange network limit sent m = (.ok ⟨status, body⟩, sent ++ [m]) ↔
      ¬ IsFollowed m.url status location := by
  rw [← redirect?_eq_none_iff]
  constructor
  · intro hend
    by_contra hfollowed
    obtain ⟨next, hnext⟩ := Option.ne_none_iff_exists'.mp hfollowed
    rcases exchange_of_redirect limit answer hnext with ⟨e, herror⟩ | ⟨more, hmore⟩
    · rw [hend] at herror
      simp at herror
    · rw [hend] at hmore
      simp at hmore
  · exact exchange_of_not_redirect answer

end Http

namespace HttpTransport

variable {t : HttpTransport} {network : Http.Network} {sent : List Http.Message}
  {request : Request} {url : Url}

/-- A request whose address can be told to a server is exchanged for what comes of it. -/
lemma send_eq_exchange (hurl : t.urlFor request.path = .ok url)
    (hsendable : (Http.isWeb url.scheme && Http.isNameable url) = true) :
    t.send network sent request =
      Http.exchange network Http.redirectLimit sent (t.message url request) := by
  simp only [send, hurl, if_pos hsendable]

/-- **A transport returns a response as it is**, after this one message to the address of the
request with its method, its body and the type of that, exactly if the response is not followed.
Then a caller takes the request for accepted exactly if the server has answered it with the status
that means success.

**Proof sketch.** The request is exchanged, and the exchange ends with the answer to its first
message exactly if that is not followed. -/
theorem response_is_returned_iff (t : HttpTransport) (network : Http.Network)
    (sent : List Http.Message) (request : Request) {url : Url} {status : Nat}
    {location : Option Bytes} {body : Bytes} (hurl : t.urlFor request.path = .ok url)
    (hsendable : (Http.isWeb url.scheme && Http.isNameable url) = true)
    (hanswer : network sent ⟨request.method, url, request.contentType, t.userAgent, request.body⟩ =
      .response status location body) :
    (t.send network sent request =
        (.ok ⟨status, body⟩,
          sent ++ [⟨request.method, url, request.contentType, t.userAgent, request.body⟩]) ↔
      ¬ Http.IsFollowed url status location) ∧
    (¬ Http.IsFollowed url status location →
      ((t.send network sent request).1.bind request.operation.check = .ok () ↔
        status = request.operation.successStatus)) := by
  have hreturned : t.send network sent request =
      (.ok ⟨status, body⟩, sent ++ [t.message url request]) ↔
        ¬ Http.IsFollowed url status location := by
    rw [send_eq_exchange hurl hsendable]
    exact Http.exchange_eq_iff hanswer
  refine ⟨hreturned, fun hkept => ?_⟩
  rw [hreturned.mpr hkept]
  simp only [Except.bind, Operation.check]
  split <;> simp_all

/-- A status that redirects, with a location that is no text: the response is not followed, and
comes back as it is. -/
theorem unreadable_location_is_returned :
    let home : Url := ⟨"http", some ⟨"", none, .name "h", none⟩, .segments [""], none, none⟩
    let site : Url := { home with path := .segments ["gdpr", "accept"] }
    let t : HttpTransport := ⟨none, home⟩
    let delete : Http.Message := ⟨.delete, site, none, none, none⟩
    let network : Http.Network := fun _ _ => .response 307 (some [0xff]) [0x6e, 0x6f]
    t.urlFor gdprEndpoint = .ok site ∧
    t.send network [] (.revoke gdprEndpoint) = (.ok ⟨307, [0x6e, 0x6f]⟩, [delete]) := by
  intro home site t delete network
  have hurl : t.urlFor gdprEndpoint = .ok site := by decide +kernel
  have hkept : ¬ Http.IsFollowed site 307 (some [0xff]) := by
    rw [← Http.redirect?_eq_none_iff (m := delete)]
    decide +kernel
  obtain ⟨hreturned, -⟩ := response_is_returned_iff t network [] (.revoke gdprEndpoint) hurl
    (by decide +kernel) rfl
  exact ⟨hurl, hreturned.mpr hkept⟩

/-- **A submission that is accepted though the server has only redirected it.** The server answers
the submission with status 303 and a location. The transport fetches that, and returns the status
204 of the fetch, which passes for an acceptance. -/
theorem redirected_submission_is_accepted :
    let home : Url := ⟨"http", some ⟨"", none, .name "h", none⟩, .segments [""], none, none⟩
    let site : Url := { home with path := .segments ["gdpr", "accept"] }
    let t : HttpTransport := ⟨none, home⟩
    let request : Request := .submit gdprEndpoint .acceptAll
    let put : Http.Message := ⟨.put, site, some "application/json", none, request.body⟩
    let get : Http.Message :=
      ⟨.get, { home with path := .segments ["done"] }, none, none, none⟩
    let network : Http.Network := fun _ m =>
      if m.method = .put then .response 303 (some (Utf8.ofString "/done")) []
      else .response 204 none []
    t.urlFor request.path = .ok site ∧
    network [] put = .response 303 (some (Utf8.ofString "/done")) [] ∧
    t.send network [] request ≠ (.ok ⟨303, []⟩, [put]) ∧
    t.send network [] request = (.ok ⟨204, []⟩, [put, get]) ∧
    (t.send network [] request).1.bind request.operation.check = .ok () := by
  intro home site t request put get network
  decide +kernel

end HttpTransport

end Consent
