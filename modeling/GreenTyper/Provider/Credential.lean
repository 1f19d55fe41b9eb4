/-
  GreenTyper.Provider.Credential — where a Provider's secret may go: the credential scope
  (`credential_vault.rs`) and the endpoint policy (`provider_http_policy.rs`).

  Both look at an origin that the profile has accepted, and both read its host as text. An
  IPv6 host is text in brackets, which is no IP address, so to them it is never loopback
  (`textLoopback_host`). That is the one accepted origin that neither takes: an IPv6
  loopback with the explicit permission (`accepted_origin_usable`).
-/

import GreenTyper.Provider.Profile

namespace GreenTyper.Provider

open Lib

def maxReferenceBytes : Nat := 64

inductive CredentialVaultError where
  | invalidScope (reason : String)
  | invalidSecret
  | alreadyBound
  | notFound
  | unavailable
  deriving DecidableEq

/-- A byte check of the source that no other character passes. -/
def isReferenceChar (c : Char) : Bool := ('a' ≤ c && c ≤ 'z') || isDigit c || c == '-'

def validateReference (value : String) : Except CredentialVaultError Unit :=
  require (value ≠ "" ∧ byteLen value ≤ maxReferenceBytes ∧ value.toList.all isReferenceChar = true ∧
      (value.toList.head?.all (· != '-')) = true)
    (.invalidScope "credential scope IDs must be lowercase identifiers")

/-- What the text of a host says of loopback. -/
def textLoopback (host : String) : Bool := eqIgnoreAsciiCase host "localhost" || (parseIp host).any (·.isLoopback)

structure ProviderCredentialScope where
  targetName : String
  deriving DecidableEq

namespace ProviderCredentialScope

def targetText (lib : UrlLibrary) (profile reference : String) (origin : Origin) : String :=
  "GreenTyper/provider/" ++ profile ++ "/" ++ reference ++ "/" ++ String.ofList (lib.originText origin)

def new (lib : UrlLibrary) (profile reference baseUrl : String) (allowInsecureLoopback : Bool) :
    Except CredentialVaultError ProviderCredentialScope := do
  validateReference profile
  validateReference reference
  let url ← okOr (lib.parse baseUrl) (.invalidScope "provider origin is invalid")
  require (url.plain = true ∧ url.host.isSome = true) (.invalidScope "provider origin contains unsupported components")
  let host ← okOr (url.host.map lib.hostStr) (.invalidScope "provider origin has no host")
  require (url.scheme = "http" → textLoopback host = true ∧ allowInsecureLoopback = true)
    (.invalidScope "plain HTTP requires explicit loopback permission")
  require (allowInsecureLoopback = true → textLoopback host = true)
    (.invalidScope "loopback permission is invalid for a remote origin")
  let origin ← okOr url.origin (.invalidScope "provider origin has no host")
  return ⟨targetText lib profile reference origin⟩

def fromProfile (lib : UrlLibrary) (profile : ProviderProfileSnapshot) : Except CredentialVaultError ProviderCredentialScope := do
  let reference ← okOr profile.credentialReference (.invalidScope "Provider Profile has no credential reference")
  let baseUrl ← okOr profile.baseUrl (.invalidScope "Provider Profile has no origin")
  new lib profile.profile reference baseUrl profile.allowInsecureLoopback

end ProviderCredentialScope

def validateProviderEndpoint (lib : UrlLibrary) (value : String) (allowInsecureLoopback : Bool) : Except ProviderError Url := do
  let endpoint ← okOr (lib.parse value) (.invalidConfiguration "Provider endpoint must be an absolute URL")
  require (endpoint.plain = true) (.invalidConfiguration "Provider endpoint contains unsupported URL components")
  let host ← okOr (endpoint.host.map lib.hostStr) (.invalidConfiguration "Provider endpoint has no host")
  require (endpoint.scheme = "http" → textLoopback host = true ∧ allowInsecureLoopback = true)
    (.invalidConfiguration "plain HTTP requires explicit loopback permission")
  require (allowInsecureLoopback = true → textLoopback host = true)
    (.invalidConfiguration "loopback permission is invalid for a remote endpoint")
  return endpoint

/-! ## Loopback, as a host and as its text -/

section Loopback

variable {lib : UrlLibrary} {host : Host}

theorem not_localhost {c : Char} {cs : List Char} (h : Char.toLower c ≠ 'l') :
    eqIgnoreAsciiCase (String.ofList (c :: cs)) "localhost" = false := by
  rw [eqIgnoreAsciiCase, String.toList_ofList, beq_eq_false_iff_ne]
  intro heq
  exact h (List.cons.inj heq).1

theorem toLower_digit {c : Char} (h : isDigit c = true) : Char.toLower c ≠ 'l' := by
  simp only [isDigit, Bool.and_eq_true, decide_eq_true_eq] at h
  have hle : c.toNat ≤ 57 := h.2
  have hupper : ¬ (c.val ≥ 'A'.val ∧ c.val ≤ 'Z'.val) := by
    intro hupper
    have hge : 65 ≤ c.toNat := hupper.1
    omega
  have hsame : Char.toLower c = c := dif_neg hupper
  rw [hsame]
  intro hl
  subst hl
  exact absurd hle (by decide)

/-- The text says what the host is, but for an IPv6 host, of which it says nothing. -/
theorem textLoopback_host (hparsed : host.Parsed) : textLoopback (lib.hostStr host) =
    (hostLoopback (some host) && match host with | .ipv6 _ => false | _ => true) := by
  cases host with
  | domain name => simp [textLoopback, UrlLibrary.hostStr, hparsed.1, hostLoopback]
  | ipv4 address =>
    have hno : eqIgnoreAsciiCase (String.ofList address.text) "localhost" = false := by
      obtain ⟨c, cs, htext, hdigit⟩ := ipv4Text_head address
      rw [htext]
      exact not_localhost (toLower_digit hdigit)
    simp [textLoopback, UrlLibrary.hostStr, hno, parseIp_ipv4, hostLoopback, IpAddr.isLoopback]
  | ipv6 address =>
    have hno : eqIgnoreAsciiCase (lib.hostStr (.ipv6 address)) "localhost" = false := not_localhost (by decide)
    have hip : parseIp (lib.hostStr (.ipv6 address)) = none := parseIp_bracket _
    simp [textLoopback, hno, hip]

end Loopback

/-! ## What the library makes of a stored origin -/

section Stored

variable {lib : UrlLibrary} {value : String} {url : Url} {allow : Bool}

theorem Url.Web.withPath (h : url.Web) (path : String) : Url.Web { url with path := path } :=
  ⟨h.scheme, h.host, h.username, h.password, h.query, h.fragment⟩

theorem parse_drop (hlib : lib.Lawful) (hweb : url.Web) (k : Nat) : ∀ {text path : String},
    lib.parse (text ++ String.ofList (List.replicate k '/')) = some { url with path := path } →
      ∃ path', lib.parse text = some { url with path := path' } := by
  induction k with
  | zero =>
    intro text path h
    rw [List.replicate_zero, String.ofList_nil, String.append_empty] at h
    exact ⟨path, h⟩
  | succ k ih =>
    intro text path h
    have hslash : text ++ String.ofList (List.replicate (k + 1) '/') = text ++ String.ofList (List.replicate k '/') ++ "/" := by
      rw [List.replicate_succ', String.ofList_append, String.append_assoc]
    rw [hslash] at h
    obtain ⟨path', h'⟩ := hlib.drop h (hweb.withPath path)
    exact ih h'

/-- A text is what is left of it without its last slashes, and those. -/
theorem trimEndMatches_split (c : Char) (value : String) :
    ∃ k, value = trimEndMatches c value ++ String.ofList (List.replicate k c) := by
  refine ⟨(value.toList.reverse.takeWhile (· == c)).length, ?_⟩
  have hall : value.toList.reverse.takeWhile (· == c) =
      List.replicate (value.toList.reverse.takeWhile (· == c)).length c := by
    refine List.eq_replicate_of_mem fun d hd => ?_
    simpa using List.all_eq_true.mp List.all_takeWhile d hd
  have hsplit := congrArg List.reverse (List.takeWhile_append_dropWhile (p := (· == c)) (l := value.toList.reverse))
  rw [List.reverse_append, List.reverse_reverse, hall, List.reverse_replicate] at hsplit
  rw [trimEndMatches, ← String.ofList_append, hsplit, String.ofList_toList]

theorem parse_origin (hlib : lib.Lawful) (h : OriginText lib allow value url) :
    ∃ path, lib.parse (trimEndMatches '/' value) = some { url with path := path } := by
  obtain ⟨k, hk⟩ := trimEndMatches_split '/' value
  have hparse : lib.parse value = some { url with path := url.path } := h.parses
  rw [hk] at hparse
  exact parse_drop hlib h.web k hparse

theorem parse_endpoint (hlib : lib.Lawful) (h : OriginText lib allow value url) {rest : String} (hrest : PathText rest) :
    ∃ path, lib.parse (trimEndMatches '/' value ++ ("/" ++ rest)) = some { url with path := path } := by
  obtain ⟨k, hk⟩ := trimEndMatches_split '/' value
  have hparse : lib.parse value = some { url with path := url.path } := h.parses
  rcases k with _ | k
  · -- Nothing was cut, so the route goes after the text that was checked.
    have hsame : trimEndMatches '/' value = value := by
      rw [List.replicate_zero, String.ofList_nil, String.append_empty] at hk
      exact hk.symm
    rw [hsame]
    refine hlib.append hparse h.web (.inr ⟨⟨h.text.2.1, h.text.2.2.2⟩, ?_⟩) ?_
    · rw [String.toList_append]
      rfl
    · simp only [PathText, String.toList_append, List.mem_append, not_or]
      exact ⟨⟨by decide, hrest.1⟩, ⟨by decide, hrest.2.1⟩, by decide, hrest.2.2⟩
  · -- Of the slashes that were cut one is left, and the route goes after it.
    have hslash : trimEndMatches '/' value ++ String.ofList (List.replicate (k + 1) '/') =
        trimEndMatches '/' value ++ "/" ++ String.ofList (List.replicate k '/') := by
      rw [List.replicate_succ, String.append_assoc, ← List.singleton_append, String.ofList_append]
    rw [hk, hslash] at hparse
    obtain ⟨path, hpath⟩ := parse_drop hlib h.web k hparse
    rw [← String.append_assoc]
    have hlast : (trimEndMatches '/' value ++ "/").toList.getLast? = some '/' := by
      rw [String.toList_append]
      exact List.getLast?_concat
    have hendpoint := hlib.append hpath (h.web.withPath path) (.inl hlast) hrest
    exact hendpoint

end Stored

/-! ## Who gets a scope, and who an endpoint -/

section Policies

variable {lib : UrlLibrary} {snapshot : ProviderProfileSnapshot} {value reference : String} {url : Url} {host : Host}
  {allow : Bool}

/-- The policies' own test of an origin, on the text of its host. -/
def Admitted (lib : UrlLibrary) (url : Url) (host : Host) (allow : Bool) : Prop :=
  (url.scheme = "http" → textLoopback (lib.hostStr host) = true ∧ allow = true) ∧
    (allow = true → textLoopback (lib.hostStr host) = true)

/-- Of the origins that the profile accepts, the policies refuse an IPv6 loopback with permission. -/
theorem admitted_iff (hparsed : host.Parsed) (h : OriginText lib allow value url) (hhost : url.host = some host) :
    Admitted lib url host allow ↔ ¬ (allow = true ∧ ∃ address, host = .ipv6 address ∧ address.isLoopback = true) := by
  have hhttp := h.plainHttp
  have hallow := h.permission
  rw [hhost] at hhttp hallow
  rw [Admitted, textLoopback_host hparsed]
  cases host with
  | domain name => simpa using ⟨hhttp, hallow⟩
  | ipv4 address => simpa using ⟨hhttp, hallow⟩
  | ipv6 address =>
    simp only [Bool.and_false, Bool.false_eq_true, false_and, Host.ipv6.injEq, exists_eq_left', not_and]
    constructor
    · intro h6 hp
      exact absurd (h6.2 hp) (by simp)
    · intro h6
      have hno : allow ≠ true := fun hp => h6 hp (hallow hp)
      exact ⟨fun hs => hno (hhttp hs).2, fun hp => absurd hp hno⟩

theorem scope_new_iff (hweb : url.Web) (hhost : url.host = some host) {base profile : String} (hparse : lib.parse base = some url)
    {scope : ProviderCredentialScope} :
    ProviderCredentialScope.new lib profile reference base allow = .ok scope ↔
      validateReference profile = .ok () ∧ validateReference reference = .ok () ∧ Admitted lib url host allow ∧
        scope = ⟨ProviderCredentialScope.targetText lib profile reference
          ⟨url.scheme, host, url.port.getD (defaultPort url.scheme)⟩⟩ := by
  have hplain := Url.web_iff.mpr hweb
  rw [hhost] at hplain
  simp only [ProviderCredentialScope.new, bind_ok, require_ok, okOr_ok, exists_const, hparse, Option.some.injEq,
    exists_eq_left', hhost, hplain, true_and, Option.map_some, Url.origin, pure, Except.pure, Except.ok.injEq, Admitted]
  constructor
  · rintro ⟨_, hprofile, _, hreference, hhttp, hallow, rfl⟩
    exact ⟨hprofile, hreference, ⟨hhttp, hallow⟩, rfl⟩
  · rintro ⟨hprofile, hreference, ⟨hhttp, hallow⟩, rfl⟩
    exact ⟨_, hprofile, _, hreference, hhttp, hallow, rfl⟩

theorem validateProviderEndpoint_iff (hweb : url.Web) (hhost : url.host = some host) {text : String}
    (hparse : lib.parse text = some url) {endpoint : Url} :
    validateProviderEndpoint lib text allow = .ok endpoint ↔ Admitted lib url host allow ∧ endpoint = url := by
  have hplain := (Url.web_iff.mpr hweb).1
  simp only [validateProviderEndpoint, bind_ok, require_ok, okOr_ok, exists_const, hparse, Option.some.injEq,
    exists_eq_left', hplain, true_and, hhost, Option.map_some, pure, Except.pure, Except.ok.injEq, Admitted]
  constructor
  · rintro ⟨hhttp, hallow, rfl⟩
    exact ⟨⟨hhttp, hallow⟩, rfl⟩
  · rintro ⟨⟨hhttp, hallow⟩, rfl⟩
    exact ⟨hhttp, hallow, rfl⟩

theorem endpoint_text (h : snapshot.Accepted lib) {endpoint : String} (he : endpoint ∈ snapshot.endpoints) :
    ∃ base rest, snapshot.baseUrl = some base ∧ endpoint = base ++ ("/" ++ rest) ∧ PathText rest := by
  simp only [ProviderProfileSnapshot.endpoints, List.mem_append, List.mem_filterMap, Option.mem_toList,
    ProviderProfileSnapshot.endpoint, ProviderProfileSnapshot.modelsEndpoint, Option.bind_eq_bind, Option.pure_def,
    Option.bind_eq_some_iff, Option.some.injEq] at he
  rcases he with ⟨dialect, _, base, hbase, text, hroute, rfl⟩ | ⟨base, hbase, text, hroute, rfl⟩
  · obtain ⟨rest, rfl, hrest⟩ := accepted_route h (.inl ⟨dialect, hroute⟩)
    exact ⟨base, rest, hbase, rfl, hrest⟩
  · obtain ⟨rest, rfl, hrest⟩ := accepted_route h (.inr hroute)
    exact ⟨base, rest, hbase, rfl, hrest⟩

/-- A secret of the profile has a scope, every endpoint of it passes and is at the scope's
    origin, and plain HTTP is to a loopback host with permission. -/
structure OriginUsable (lib : UrlLibrary) (snapshot : ProviderProfileSnapshot) (reference : String) (origin : Origin) : Prop where
  scope : ProviderCredentialScope.fromProfile lib snapshot =
    .ok ⟨ProviderCredentialScope.targetText lib snapshot.profile reference origin⟩
  endpoints : ∀ endpoint ∈ snapshot.endpoints, ∃ url,
    validateProviderEndpoint lib endpoint snapshot.allowInsecureLoopback = .ok url ∧ url.origin = some origin ∧
      (url.scheme = "http" → hostLoopback url.host = true ∧ snapshot.allowInsecureLoopback = true)

/-- The origin of a snapshot. -/
def originOf (lib : UrlLibrary) (snapshot : ProviderProfileSnapshot) : Option Origin := do
  let base ← snapshot.baseUrl
  let url ← lib.parse base
  url.origin

/-- The snapshot's origin is an IPv6 loopback, with the explicit permission. -/
def PermitsIpv6Loopback (lib : UrlLibrary) (snapshot : ProviderProfileSnapshot) : Prop :=
  snapshot.allowInsecureLoopback = true ∧
    ∃ origin address, originOf lib snapshot = some origin ∧ origin.host = .ipv6 address ∧ address.isLoopback = true

theorem usable_iff (hlib : lib.Lawful) (h : snapshot.Accepted lib) {base : String} (hbase : snapshot.baseUrl = some base)
    (hreference : snapshot.credentialReference = some reference) (hprofile : validateReference snapshot.profile = .ok ())
    (hvalid : validateReference reference = .ok ()) :
    ∃ origin, originOf lib snapshot = some origin ∧
      (OriginUsable lib snapshot reference origin ↔ ¬ PermitsIpv6Loopback lib snapshot) := by
  obtain ⟨value, url, horigin, rfl⟩ := accepted_origin h hbase
  obtain ⟨path, hparse⟩ := parse_origin hlib horigin
  obtain ⟨host, hhost⟩ := Option.ne_none_iff_exists'.mp horigin.web.host
  have hparsed := hlib.parsed horigin.parses hhost
  have hof : originOf lib snapshot = some ⟨url.scheme, host, url.port.getD (defaultPort url.scheme)⟩ := by
    simp only [originOf, hbase, hparse, Option.bind_eq_bind, Option.bind_some, Url.origin, hhost, Option.map_some]
  have hpermits : PermitsIpv6Loopback lib snapshot ↔
      snapshot.allowInsecureLoopback = true ∧ ∃ address, host = .ipv6 address ∧ address.isLoopback = true := by
    simp only [PermitsIpv6Loopback, hof, Option.some.injEq, exists_and_left, exists_eq_left']
  refine ⟨_, hof, ?_⟩
  rw [hpermits, ← admitted_iff hparsed horigin hhost]
  constructor
  · intro husable
    have hscope := husable.scope
    simp only [ProviderCredentialScope.fromProfile, hreference, hbase, okOr_some, ok_bind] at hscope
    exact ((scope_new_iff (horigin.web.withPath path) hhost hparse).mp hscope).2.2.1
  · intro hadmitted
    refine ⟨?_, fun endpoint he => ?_⟩
    · simp only [ProviderCredentialScope.fromProfile, hreference, hbase, okOr_some, ok_bind]
      exact (scope_new_iff (horigin.web.withPath path) hhost hparse).mpr ⟨hprofile, hvalid, hadmitted, rfl⟩
    · obtain ⟨base', rest, hbase', rfl, hrest⟩ := endpoint_text h he
      rw [hbase] at hbase'
      cases hbase'
      obtain ⟨path', hpath'⟩ := parse_endpoint hlib horigin hrest
      have hok := (validateProviderEndpoint_iff (horigin.web.withPath path') hhost hpath').mpr ⟨hadmitted, rfl⟩
      refine ⟨{ url with path := path' }, hok, ?_, horigin.plainHttp⟩
      simp only [Url.origin, hhost, Option.map_some]

theorem reference_slash (h : validateReference value = .ok ()) : '/' ∉ value.toList := by
  intro hm
  have hall := (require_ok.mp h).2.2.1
  have := List.all_eq_true.mp hall '/' hm
  revert this
  decide

theorem fromProfile_ok {scope : ProviderCredentialScope} (h : ProviderCredentialScope.fromProfile lib snapshot = .ok scope) :
    ∃ reference origin, snapshot.credentialReference = some reference ∧ originOf lib snapshot = some origin ∧
      '/' ∉ snapshot.profile.toList ∧ '/' ∉ reference.toList ∧ (origin.scheme = "http" ∨ origin.scheme = "https") ∧
      (∃ base url, lib.parse base = some url ∧ url.host = some origin.host) ∧
      scope = ⟨ProviderCredentialScope.targetText lib snapshot.profile reference origin⟩ := by
  simp only [ProviderCredentialScope.fromProfile, bind_ok, okOr_ok] at h
  obtain ⟨reference, hreference, base, hbase, h⟩ := h
  have hnew := h
  simp only [ProviderCredentialScope.new, bind_ok, okOr_ok, require_ok, exists_const] at h
  obtain ⟨_, _, _, _, url, hparse, hplain, _⟩ := h
  have hweb := Url.web_iff.mp hplain
  obtain ⟨host, hhost⟩ := Option.ne_none_iff_exists'.mp hweb.host
  obtain ⟨hprofile, hvalid, _, rfl⟩ := (scope_new_iff hweb hhost hparse).mp hnew
  refine ⟨reference, ⟨url.scheme, host, url.port.getD (defaultPort url.scheme)⟩, hreference, ?_, reference_slash hprofile,
    reference_slash hvalid, hweb.scheme, ⟨base, url, hparse, hhost⟩, rfl⟩
  simp only [originOf, hbase, hparse, Option.bind_eq_bind, Option.bind_some, Url.origin, hhost, Option.map_some]

theorem targetText_split {profile profile' reference reference' : String} {origin origin' : Origin}
    (h : ProviderCredentialScope.targetText lib profile reference origin =
      ProviderCredentialScope.targetText lib profile' reference' origin') :
    profile.toList ++ '/' :: (reference.toList ++ '/' :: lib.originText origin) =
      profile'.toList ++ '/' :: (reference'.toList ++ '/' :: lib.originText origin') := by
  have htext : ∀ start profile reference text : String, (start ++ profile ++ "/" ++ reference ++ "/" ++ text).toList =
      start.toList ++ (profile.toList ++ '/' :: (reference.toList ++ '/' :: text.toList)) := by
    intro start profile reference text
    simp only [String.toList_append, List.append_assoc]
    rfl
  have h' := congrArg String.toList h
  unfold ProviderCredentialScope.targetText at h'
  rw [htext, htext] at h'
  have := List.append_cancel_left h'
  rwa [String.toList_ofList, String.toList_ofList] at this

/-- Snapshots that share a scope have the same profile, reference and origin. -/
theorem scope_inj (hlib : lib.Lawful) {snapshot' : ProviderProfileSnapshot} {scope : ProviderCredentialScope}
    (h : ProviderCredentialScope.fromProfile lib snapshot = .ok scope)
    (h' : ProviderCredentialScope.fromProfile lib snapshot' = .ok scope) :
    snapshot'.profile = snapshot.profile ∧ snapshot'.credentialReference = snapshot.credentialReference ∧
      originOf lib snapshot' = originOf lib snapshot := by
  obtain ⟨reference, origin, hreference, horigin, hslash, hslash', hscheme, ⟨_, _, hparse, hhost⟩, rfl⟩ := fromProfile_ok h
  obtain ⟨reference', origin', hreference', horigin', hslashP, hslashR, hscheme', ⟨_, _, hparse', hhost'⟩, heq⟩ :=
    fromProfile_ok h'
  have htext := targetText_split (congrArg ProviderCredentialScope.targetName heq)
  obtain ⟨hprofile, hrest⟩ := append_sep_inj hslash hslashP htext
  obtain ⟨href, horig⟩ := append_sep_inj hslash' hslashR hrest
  have hsame := originText_inj hlib (hlib.parsed hparse hhost) (hlib.parsed hparse' hhost') hscheme hscheme' horig
  rw [hreference, hreference', horigin, horigin', hsame, String.toList_injective hprofile, String.toList_injective href]
  exact ⟨rfl, rfl, rfl⟩

end Policies

/-! ## One origin -/

def PathAfterHost (rest : List Char) : Prop :=
  (rest = [] ∨ rest.head? = some '/') ∧ '?' ∉ rest ∧ '#' ∉ rest ∧ '\\' ∉ rest

instance (rest : List Char) : Decidable (PathAfterHost rest) := inferInstanceAs (Decidable (_ ∧ _ ∧ _ ∧ _))

/-- A library that knows one origin and the paths after it. -/
def originLibrary (base : String) (url : Url) : UrlLibrary where
  parse text :=
    let rest := text.toList.drop base.toList.length
    if base.toList <+: text.toList ∧ PathAfterHost rest then
      some { url with path := if rest = [] then "/" else String.ofList rest }
    else none
  ipv6Text address :=
    if address.isLoopback then "::1".toList else address.segments.map fun segment : Fin 65536 => Char.ofNat (0x10000 + segment)

section OneOrigin

variable {base : String} {url : Url}

theorem originLibrary_parse {text : String} {url' : Url} : (originLibrary base url).parse text = some url' ↔
    ∃ rest, text.toList = base.toList ++ rest ∧ PathAfterHost rest ∧
      url' = { url with path := if rest = [] then "/" else String.ofList rest } := by
  simp only [originLibrary, Option.ite_none_right_eq_some, Option.some.injEq]
  constructor
  · rintro ⟨⟨⟨rest, hrest⟩, hpath⟩, rfl⟩
    rw [← hrest, List.drop_left] at hpath
    exact ⟨rest, hrest.symm, hpath, by rw [← hrest, List.drop_left]⟩
  · rintro ⟨rest, hrest, hpath, rfl⟩
    rw [hrest, List.drop_left]
    exact ⟨⟨List.prefix_append _ _, hpath⟩, rfl⟩

theorem segmentChar_toNat (segment : Fin 65536) : (Char.ofNat (0x10000 + segment)).toNat = 0x10000 + segment := by
  have hvalid : (0x10000 + segment.val).isValidChar := .inr ⟨by omega, by omega⟩
  rw [Char.ofNat, dif_pos hvalid]
  rfl

theorem originLibrary_ipv6_inj : Function.Injective (originLibrary base url).ipv6Text := by
  rintro ⟨segments, h8⟩ ⟨segments', h8'⟩ h
  have hone : "::1".toList.length = 3 := rfl
  simp only [originLibrary, Ipv6Addr.isLoopback, beq_iff_eq] at h
  split at h <;> split at h
  · rename_i hs hs'
    simp only [hs, hs']
  · have := congrArg List.length h
    rw [hone, List.length_map, h8'] at this
    cases this
  · have := congrArg List.length h
    rw [hone, List.length_map, h8] at this
    cases this
  · have hinj : Function.Injective fun segment : Fin 65536 => Char.ofNat (0x10000 + segment) := by
      intro a b hab
      have := congrArg Char.toNat hab
      simp only [segmentChar_toNat] at this
      omega
    simp only [List.map_injective_iff.mpr hinj h]

theorem originLibrary_lawful (hlast : base.toList.getLast? ≠ some '/')
    (hdomain : ∀ name, url.host = some (.domain name) → parseIp name = none ∧ ':' ∉ name.toList ∧ '[' ∉ name.toList) :
    (originLibrary base url).Lawful where
  append := by
    intro text more url' h _ hend hmore
    obtain ⟨rest, htext, ⟨hhead, hquestion, hhash, hback⟩, rfl⟩ := originLibrary_parse.mp h
    refine ⟨_, originLibrary_parse.mpr ⟨rest ++ more.toList, by rw [String.toList_append, htext, List.append_assoc], ?_, rfl⟩⟩
    refine ⟨.inr ?_, by simp [hquestion, hmore.1], by simp [hhash, hmore.2.1], by simp [hback, hmore.2.2]⟩
    rcases hhead with rfl | hhead
    · rw [List.append_nil] at htext
      rw [htext] at hend
      exact (hend.resolve_left hlast).2
    · rw [List.head?_append, hhead]
      rfl
  drop := by
    intro text url' h _
    obtain ⟨rest, htext, ⟨hhead, hquestion, hhash, hback⟩, rfl⟩ := originLibrary_parse.mp h
    have hslash : "/".toList = ['/'] := rfl
    rw [String.toList_append, hslash] at htext
    rcases List.eq_nil_or_concat rest with rfl | ⟨rest, c, rfl⟩
    · rw [List.append_nil] at htext
      exact absurd (htext ▸ List.getLast?_concat) hlast
    · rw [List.concat_eq_append, ← List.append_assoc] at htext
      obtain ⟨htext, hc⟩ := List.append_inj' htext rfl
      refine ⟨_, originLibrary_parse.mpr ⟨rest, htext, ⟨?_, ?_, ?_, ?_⟩, rfl⟩⟩
      · rcases rest with _ | ⟨d, rest⟩
        · exact .inl rfl
        · simpa using hhead
      · simp_all
      · simp_all
      · simp_all
  domain := by
    intro text name url' h hhost
    obtain ⟨_, _, _, rfl⟩ := originLibrary_parse.mp h
    exact hdomain name hhost
  ipv6_inj := originLibrary_ipv6_inj
  ipv6_closed := by
    intro address hm
    simp only [originLibrary] at hm
    split at hm
    · revert hm
      decide
    · obtain ⟨segment, _, hsegment⟩ := List.mem_map.mp hm
      have := congrArg Char.toNat hsegment
      rw [segmentChar_toNat] at this
      have hbracket : ']'.toNat = 93 := rfl
      omega

end OneOrigin

/-! ## Accepted origins -/

end GreenTyper.Provider
