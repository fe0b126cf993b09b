import Consent.Config.Check
import Consent.Http.Transport
import Mathlib.Control.Monad.Basic
import Mathlib.Tactic.Lemma

set_option autoImplicit false

/-!
# The server that an address leads to

Requests go to the address that the endpoint of a configuration denotes relative to the configured
one. An endpoint starts with a slash, which alone leaves the server what it is, whatever follows:
dots do not climb above the root, and another scheme can no longer be named. But a second slash
starts the name of a server, and behind a special scheme a backslash is a slash.

## Main definitions

* `Consent.Url.SameServer` — two addresses with the same scheme, host and port.
* `Consent.Url.serverPart?` — where a text names a server of its own.

## Main results

* `Consent.Url.relative_of_path`, `Consent.Url.relative_of_slashes` — where a text that starts with
  a slash leads to.
* `Consent.Url.join_sameServer_iff` — when such a text leads to the same server.
* `Consent.HttpTransport.endpoint_stays_iff` — when the endpoint of a checked configuration does.
* `Consent.HttpTransport.endpoint_leaves_server` — an endpoint that leads to another server.
-/

namespace Consent

namespace Url

/-- The port of an address, unless it goes without saying. -/
def port? (url : Url) : Option Nat := url.authority.bind (·.port)

/-- Two addresses lead to the same server: they have the same scheme, host and port. -/
structure SameServer (url base : Url) : Prop where
  scheme : url.scheme = base.scheme
  host : url.host? = base.host?
  port : url.port? = base.port?

/-- Where a text that is relative to an address with a special scheme names a server of its own:
behind two slashes or backslashes at its start, and behind all further ones unless both of them are
slashes. -/
def serverPart? (s : String) : Option (List Char) :=
  (behindTwoSlashes? (clean s.toList)).map fun rest =>
    if (clean s.toList).take 2 = ['/', '/'] then rest else rest.dropWhile (isSlash true)

variable {base : Url} {cs rest : List Char} {s : String}

/-! ### Texts that start with a slash -/

/-- A character that counts stays at the end of a text when the margin behind it is cut. -/
lemma exists_reverse_dropWhile {p : Char → Bool} {c : Char} (hc : p c = false) (cs : List Char) :
    ∃ cs', ((c :: cs).reverse.dropWhile p).reverse = c :: cs' := by
  rw [List.reverse_cons, List.dropWhile_append]
  split
  · exact ⟨[], by simp [hc]⟩
  · exact ⟨(cs.reverse.dropWhile p).reverse, by simp⟩

/-- A text that starts with a slash still does so once all that does not count is gone. -/
lemma exists_clean_slash (h : s.toList.head? = some '/') : ∃ cs, clean s.toList = '/' :: cs := by
  obtain ⟨cs, hcs⟩ := List.head?_eq_some_iff.mp h
  obtain ⟨cs', hcs'⟩ :=
    exists_reverse_dropWhile (p := fun c => decide (c.toNat ≤ 0x20)) (c := '/') (by decide) cs
  refine ⟨cs'.filter fun c => !(c = '\t' || c = '\n' || c = '\r'), ?_⟩
  rw [hcs, clean, List.dropWhile_cons_of_neg (by decide), hcs', List.filter_cons_of_pos (by decide)]

/-- A text that starts with a slash names no scheme, and denotes an address relative to another
one. -/
lemma join_of_slash (hbase : base.hasHierarchy = true) (hscheme : base.scheme ≠ "file")
    (hs : clean s.toList = '/' :: cs) : base.join s = relative base ('/' :: cs) := by
  have hnone : scheme? ('/' :: cs) = none := by
    rw [scheme?, if_neg (by decide)]
  simp only [join, hs, hnone, hbase, Bool.not_true, Bool.false_eq_true, if_false, if_neg hscheme]
  split
  · rename_i hsharp
    simp at hsharp
  · rfl

/-- A text that starts with a slash is no mere query or fragment. -/
lemma withoutPath?_slash : withoutPath? base ('/' :: cs) = none := by
  rw [withoutPath?, if_neg (by decide), if_neg (by decide)]

/-- **Two slashes lead to the server that is named behind them.** -/
lemma relative_of_slashes (hcs : behindTwoSlashes? ('/' :: cs) = some rest) :
    relative base ('/' :: cs) = behindSlashes base.scheme
      (if ('/' :: cs).take 2 = ['/', '/'] then rest else rest.dropWhile (isSlash true)) := by
  simp only [relative, withoutPath?_slash, hcs]

/-- **One slash leads to another path of the same server.** -/
lemma relative_of_path (base : Url) (hcs : behindTwoSlashes? ('/' :: cs) = none) :
    ∃ url, relative base ('/' :: cs) = .ok url ∧ url.scheme = base.scheme ∧
      url.authority = base.authority := by
  simp only [relative, withoutPath?_slash, hcs]
  exact ⟨_, rfl, rfl, rfl⟩

/-- Addresses with the same scheme and authority lead to the same server. -/
lemma SameServer.of_authority {url : Url} (hscheme : url.scheme = base.scheme)
    (hauthority : url.authority = base.authority) : url.SameServer base :=
  ⟨hscheme, by rw [host?, host?, hauthority], by rw [port?, port?, hauthority]⟩

/-- **A text that starts with a slash leads to the same server** exactly if it names none, or names
the same one. -/
lemma join_sameServer_iff (hbase : base.hasHierarchy = true) (hscheme : base.scheme ≠ "file")
    (hs : s.toList.head? = some '/') :
    (∃ url, base.join s = .ok url ∧ url.SameServer base) ↔
      ∀ rest, serverPart? s = some rest →
        ∃ url, behindSlashes base.scheme rest = .ok url ∧ url.SameServer base := by
  obtain ⟨cs, hcs⟩ := exists_clean_slash hs
  rw [join_of_slash hbase hscheme hcs, serverPart?, hcs]
  cases hslashes : behindTwoSlashes? ('/' :: cs) with
  | none =>
    obtain ⟨url, hurl, hsame, hauthority⟩ := relative_of_path base hslashes
    exact iff_of_true ⟨url, hurl, .of_authority hsame hauthority⟩ (by simp)
  | some rest =>
    rw [relative_of_slashes hslashes]
    simp

end Url

/-! ### Configured endpoints -/

/-- The endpoint of a checked configuration starts with a slash, and its address has a hierarchy. -/
lemma Config.check_eq_ok {config : Config} (h : config.check = .ok ()) :
    ∃ url, Url.parse config.server.baseUrl = .ok url ∧ url.hasHierarchy = true ∧
      config.server.endpoint.toList.head? = some '/' := by
  simp only [check] at h
  split at h
  · simp at h
  · rename_i url hurl
    split at h
    · simp at h
    · rename_i hbase
      split at h
      · simp at h
      · rename_i hendpoint
        exact ⟨url, hurl, by simpa using hbase, not_not.mp hendpoint⟩

namespace HttpTransport

/-- The transport for a configured server resolves paths against its address. -/
lemma parse_of_ofConfig {server : ServerConfig} {t : HttpTransport} (h : ofConfig server = .ok t) :
    Url.parse server.baseUrl = .ok t.baseUrl := by
  simp only [ofConfig, new] at h
  split at h
  · simp at h
  · split at h
    · simp at h
    · rename_i url hurl
      rw [hurl, ← Except.ok.inj h]

/-- A path has an address exactly if it can be resolved. -/
lemma urlFor_eq_ok_iff {t : HttpTransport} {path : String} {url : Url} :
    t.urlFor path = .ok url ↔ t.baseUrl.join path = .ok url := by
  rw [urlFor]
  split <;> simp_all

/-- **Requests stay on the configured server** exactly if the endpoint names no server, or names the
same one, for every checked configuration with a web address, and for each operation.

**Proof sketch.** The endpoint of a checked configuration starts with a slash, and its address has a
hierarchy. So it names no scheme, and two slashes at its start are the only way to another
server. -/
theorem endpoint_stays_iff {config : Config} {t : HttpTransport} (hcheck : config.check = .ok ())
    (ht : ofConfig config.server = .ok t) (hweb : Http.isWeb t.baseUrl.scheme = true)
    (draft : Draft) (request : Request)
    (hrequest : request ∈ [Request.fetch config.server.endpoint,
      Request.submit config.server.endpoint draft, Request.revoke config.server.endpoint]) :
    (∃ url, t.urlFor request.path = .ok url ∧ url.SameServer t.baseUrl) ↔
      ∀ rest, Url.serverPart? config.server.endpoint = some rest →
        ∃ url, Url.behindSlashes t.baseUrl.scheme rest = .ok url ∧ url.SameServer t.baseUrl := by
  obtain ⟨base, hparse, hbase, hendpoint⟩ := Config.check_eq_ok hcheck
  obtain rfl : base = t.baseUrl := by
    rw [parse_of_ofConfig ht] at hparse
    exact (Except.ok.inj hparse).symm
  have hscheme : t.baseUrl.scheme ≠ "file" := by
    intro hfile
    rw [hfile] at hweb
    simp [Http.isWeb] at hweb
  have hpath : request.path = config.server.endpoint := by
    simp only [List.mem_cons, List.not_mem_nil, or_false] at hrequest
    rcases hrequest with rfl | rfl | rfl <;> rfl
  simp only [hpath, urlFor_eq_ok_iff]
  exact Url.join_sameServer_iff hbase hscheme hendpoint

/-- Dots do not climb above the root, and slashes that are not at the start name no server. -/
theorem climbing_endpoint_stays :
    let config : Config := { Config.default with server.endpoint := "/../..//other\\@host" }
    let home : Url :=
      ⟨"https", some ⟨"", none, .name "localhost", some 8443⟩, .segments [""], none, none⟩
    let t : HttpTransport := ⟨some "consentsync/0.1.0", home⟩
    config.check = .ok () ∧ ofConfig config.server = .ok t ∧
    ∃ url, t.urlFor config.server.endpoint = .ok url ∧ url.SameServer home := by
  intro config home t
  have hcheck : config.check = .ok () := by decide +kernel
  have ht : ofConfig config.server = .ok t := by decide +kernel
  have hpart : Url.serverPart? config.server.endpoint = none := by decide +kernel
  refine ⟨hcheck, ht, ?_⟩
  refine (endpoint_stays_iff hcheck ht (by decide +kernel) .empty (.fetch config.server.endpoint)
    (by simp)).mpr ?_
  intro rest hrest
  rw [hpart] at hrest
  simp at hrest

/-- **Endpoints that leave the server.** They pass the check, since they start with a slash. One
names another server behind a second slash, to which the requests go; what the other one names is no
server at all, so that there is no address. -/
theorem endpoint_leaves_server :
    let config (endpoint : String) : Config :=
      { Config.default with server.endpoint := endpoint }
    let home : Url :=
      ⟨"https", some ⟨"", none, .name "localhost", some 8443⟩, .segments [""], none, none⟩
    let t : HttpTransport := ⟨some "consentsync/0.1.0", home⟩
    (config "//evil.example/gdpr/accept").check = .ok () ∧ (config "//[").check = .ok () ∧
    ofConfig (config "//evil.example/gdpr/accept").server = .ok t ∧
    ofConfig (config "//[").server = .ok t ∧
    (∃ url, t.urlFor "//evil.example/gdpr/accept" = .ok url ∧
      url.host? = some (.name "evil.example") ∧ ¬ url.SameServer home) ∧
    ¬ ∃ url, t.urlFor "//[" = .ok url := by
  intro config home t
  have hother : t.urlFor "//evil.example/gdpr/accept" =
      .ok ⟨"https", some ⟨"", none, .name "evil.example", none⟩, .segments ["gdpr", "accept"], none,
        none⟩ := by decide +kernel
  have hnone : t.urlFor "//[" =
      .error (.transport .other "bad path //[: invalid IPv6 address") := by decide +kernel
  refine ⟨by decide +kernel, by decide +kernel, by decide +kernel, by decide +kernel,
    ⟨_, hother, rfl, ?_⟩, ?_⟩
  · intro hsame
    exact absurd hsame.host (by decide +kernel)
  · rintro ⟨url, hurl⟩
    rw [hnone] at hurl
    simp at hurl

end HttpTransport

end Consent
