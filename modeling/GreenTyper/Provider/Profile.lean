/-
  GreenTyper.Provider.Profile — the frozen Provider Profile (`ProviderProfileSnapshot` of
  `provider.rs`).

  A profile is normalized when it is built: its origin loses the slashes at its end, and
  each route starts with one slash. What building checks is `fromParts_ok`.
-/

import GreenTyper.Provider.Event
import GreenTyper.Provider.Url

namespace GreenTyper.Provider

open Lib

inductive ProviderPricingSource where
  | unknown
  | template
  | templateMirror
  | manual
  | providerReported
  deriving DecidableEq

/-- The dialects in their order, which is that of a `BTreeSet`. -/
def allDialects : List ProviderDialect := [.responses, .chatCompletions, .messages]

/-- `collect::<BTreeSet<_>>`. -/
def collectDialects (dialects : List ProviderDialect) : List ProviderDialect := allDialects.filter (· ∈ dialects)

structure ProviderProfileSnapshot where
  profile : String
  template : String
  credentialReference : Option String
  baseUrl : Option String
  responsesRoute : Option String
  chatCompletionsRoute : Option String
  messagesRoute : Option String
  modelsRoute : Option String
  dialects : List ProviderDialect
  pricingSource : Option ProviderPricingSource
  allowInsecureLoopback : Bool
  deriving DecidableEq

/-! ## Checks -/

def validateProviderId (field value : String) : Except ProviderError Unit := do
  require (isBlank value = false) (.invalidConfiguration field)
  require (trim value = value) (.invalidConfiguration "provider identifiers cannot have surrounding whitespace")
  require (byteLen value ≤ maxProviderIdBytes ∧ value.toList.any isControl = false)
    (.invalidConfiguration "provider identifier is too long")

def validateSnapshotValue (field value : String) : Except ProviderError Unit :=
  require (ProviderText maxProviderIdBytes value) (.invalidConfiguration field)

/-- Neither user info nor a query nor a fragment, and the scheme of the web. -/
def Url.plain (url : Url) : Bool :=
  (url.scheme == "http" || url.scheme == "https") && url.username == "" && url.password.isNone && url.query.isNone &&
    url.fragment.isNone

def hostLoopback : Option Host → Bool
  | some (.domain name) => eqIgnoreAsciiCase name "localhost"
  | some (.ipv4 address) => address.isLoopback
  | some (.ipv6 address) => address.isLoopback
  | none => false

/-- `str::trim_end_matches` of one character. -/
def trimEndMatches (c : Char) (value : String) : String := String.ofList ((value.toList.reverse.dropWhile (· == c)).reverse)

/-- `str::trim_start_matches` of one character. -/
def trimStartMatches (c : Char) (value : String) : String := String.ofList (value.toList.dropWhile (· == c))

def normalizeProviderOrigin (lib : UrlLibrary) (value : String) (allowInsecureLoopback : Bool) : Except ProviderError String := do
  validateSnapshotValue "provider origin" value
  let url ← okOr (lib.parse value) (.invalidConfiguration "provider origin must be an absolute HTTP(S) URL")
  require (url.plain = true ∧ url.host.isSome = true)
    (.invalidConfiguration "provider origin contains unsupported URL components")
  require (url.scheme = "http" → hostLoopback url.host = true ∧ allowInsecureLoopback = true)
    (.invalidConfiguration "plain HTTP requires explicit loopback permission")
  require (allowInsecureLoopback = true → hostLoopback url.host = true)
    (.invalidConfiguration "loopback permission is invalid for a remote provider origin")
  return trimEndMatches '/' value

/-- `str::contains` of a text. -/
def containsText (value text : String) : Bool := decide (text.toList <:+: value.toList)

def normalizeProviderRoute (route : String) : Except ProviderError String := do
  validateSnapshotValue "provider route" route
  require ('?' ∉ route.toList ∧ '#' ∉ route.toList ∧ containsText route "://" = false ∧ '\\' ∉ route.toList ∧
      ∀ segment ∈ route.toList.splitOn '/', segment ≠ ['.'] ∧ segment ≠ ['.', '.'])
    (.invalidConfiguration "provider route contains unsupported components")
  let trimmed := trimStartMatches '/' route
  require (trimmed ≠ "") (.invalidConfiguration "provider route cannot be the origin root")
  return "/" ++ trimmed

def normalizeOptionalRoute (route : Option String) : Except ProviderError (Option String) :=
  transpose (route.map normalizeProviderRoute)

namespace ProviderProfileSnapshot

def fromParts (lib : UrlLibrary) (profile template : String) (credentialReference baseUrl responsesRoute chatCompletionsRoute
    messagesRoute modelsRoute : Option String) (dialects : List ProviderDialect) (pricingSource : Option ProviderPricingSource)
    (allowInsecureLoopback : Bool) : Except ProviderError ProviderProfileSnapshot := do
  validateProviderId "provider profile" profile
  validateSnapshotValue "provider template" template
  credentialReference.forM (validateSnapshotValue "provider credential reference")
  let baseUrl ← transpose (baseUrl.map (normalizeProviderOrigin lib · allowInsecureLoopback))
  require (allowInsecureLoopback = true → baseUrl ≠ none)
    (.invalidConfiguration "insecure loopback requires a provider origin")
  let responsesRoute ← normalizeOptionalRoute responsesRoute
  let chatCompletionsRoute ← normalizeOptionalRoute chatCompletionsRoute
  let messagesRoute ← normalizeOptionalRoute messagesRoute
  let modelsRoute ← normalizeOptionalRoute modelsRoute
  let dialects := collectDialects dialects
  require (dialects ≠ []) (.invalidConfiguration "provider dialect set cannot be empty")
  return ⟨profile, template, credentialReference, baseUrl, responsesRoute, chatCompletionsRoute, messagesRoute, modelsRoute,
    dialects, pricingSource, allowInsecureLoopback⟩

def route (snapshot : ProviderProfileSnapshot) : ProviderDialect → Option String
  | .responses => snapshot.responsesRoute
  | .chatCompletions => snapshot.chatCompletionsRoute
  | .messages => snapshot.messagesRoute

def modelsEndpoint (snapshot : ProviderProfileSnapshot) : Option String := do
  return (← snapshot.baseUrl) ++ (← snapshot.modelsRoute)

def endpoint (snapshot : ProviderProfileSnapshot) (dialect : ProviderDialect) : Option String := do
  return (← snapshot.baseUrl) ++ (← snapshot.route dialect)

/-- Where a secret of the profile may be sent. -/
def endpoints (snapshot : ProviderProfileSnapshot) : List String :=
  allDialects.filterMap snapshot.endpoint ++ snapshot.modelsEndpoint.toList

def supports (snapshot : ProviderProfileSnapshot) (dialect : ProviderDialect) : Bool := snapshot.dialects.contains dialect

end ProviderProfileSnapshot

/-! ## Fingerprints -/

namespace Fingerprint

def bytes (hash : UInt64) (bytes : List Byte) : UInt64 :=
  bytes.foldl (fun hash byte => (hash ^^^ byte.toUInt64) * 0x100000001b3) hash

def new (schema : Byte) : UInt64 := bytes 0xcbf29ce484222325 [schema]

def byte (hash : UInt64) (value : Byte) : UInt64 := bytes hash [value]

def usize (hash : UInt64) (value : Nat) : UInt64 := bytes hash (leBytes 8 value)

def string (hash : UInt64) (value : String) : UInt64 := bytes (usize hash (byteLen value)) (utf8 value)

def optionalString (hash : UInt64) : Option String → UInt64
  | none => byte hash 0
  | some value => string (byte hash 1) value

end Fingerprint

def dialectByte : ProviderDialect → Byte
  | .responses => 1
  | .chatCompletions => 2
  | .messages => 3

def pricingSourceByte : Option ProviderPricingSource → Byte
  | none => 0
  | some .unknown => 1
  | some .template => 2
  | some .manual => 3
  | some .providerReported => 4
  | some .templateMirror => 5

/-- `fingerprint_profile_snapshot`, which a snapshot keeps. -/
def ProviderProfileSnapshot.fingerprint (snapshot : ProviderProfileSnapshot) : UInt64 :=
  let hash := Fingerprint.string (Fingerprint.string (Fingerprint.new 1) snapshot.profile) snapshot.template
  let hash := [snapshot.credentialReference, snapshot.baseUrl, snapshot.responsesRoute, snapshot.chatCompletionsRoute,
    snapshot.messagesRoute, snapshot.modelsRoute].foldl Fingerprint.optionalString hash
  let hash := Fingerprint.usize hash snapshot.dialects.length
  let hash := Fingerprint.bytes hash (snapshot.dialects.map dialectByte)
  let hash := Fingerprint.byte hash (pricingSourceByte snapshot.pricingSource)
  Fingerprint.byte hash (if snapshot.allowInsecureLoopback then 1 else 0)

/-! ## What a snapshot has -/

section Facts

variable {lib : UrlLibrary} {value text : String} {allow : Bool}

theorem Url.web_iff {url : Url} : url.plain = true ∧ url.host.isSome = true ↔ url.Web := by
  simp only [Url.plain, Bool.and_eq_true, Bool.or_eq_true, beq_iff_eq, Option.isNone_iff_eq_none, Option.isSome_iff_ne_none]
  exact ⟨fun ⟨⟨⟨⟨⟨h1, h2⟩, h3⟩, h4⟩, h5⟩, h6⟩ => ⟨h1, h6, h2, h3, h4, h5⟩,
    fun h => ⟨⟨⟨⟨⟨h.scheme, h.username⟩, h.password⟩, h.query⟩, h.fragment⟩, h.host⟩⟩

/-- What an accepted origin is. -/
structure OriginText (lib : UrlLibrary) (allow : Bool) (value : String) (url : Url) : Prop where
  text : ProviderText maxProviderIdBytes value
  parses : lib.parse value = some url
  web : url.Web
  plainHttp : url.scheme = "http" → hostLoopback url.host = true ∧ allow = true
  permission : allow = true → hostLoopback url.host = true

theorem normalizeProviderOrigin_ok : normalizeProviderOrigin lib value allow = .ok text ↔
    ∃ url, OriginText lib allow value url ∧ text = trimEndMatches '/' value := by
  simp only [normalizeProviderOrigin, validateSnapshotValue, bind_ok, require_ok, okOr_ok, exists_const, pure, Except.pure,
    Except.ok.injEq, Url.web_iff]
  constructor
  · rintro ⟨htext, url, hparse, hweb, hhttp, hallow, rfl⟩
    exact ⟨url, ⟨htext, hparse, hweb, hhttp, hallow⟩, rfl⟩
  · rintro ⟨url, h, rfl⟩
    exact ⟨h.text, url, h.parses, h.web, h.plainHttp, h.permission, rfl⟩

/-- A normalized route is a slash and path text. -/
theorem normalizeProviderRoute_ok (h : normalizeProviderRoute value = .ok text) : ∃ rest, text = "/" ++ rest ∧ PathText rest := by
  simp only [normalizeProviderRoute, validateSnapshotValue, bind_ok, require_ok, exists_const, pure, Except.pure,
    Except.ok.injEq] at h
  obtain ⟨_, ⟨hquestion, hhash, _, hback, _⟩, _, rfl⟩ := h
  have hsub : ∀ c, c ∉ value.toList → c ∉ (trimStartMatches '/' value).toList := by
    intro c hc hm
    rw [trimStartMatches, String.toList_ofList] at hm
    exact hc ((List.dropWhile_sublist _).mem hm)
  exact ⟨_, rfl, hsub _ hquestion, hsub _ hhash, hsub _ hback⟩

theorem normalizeOptionalRoute_ok {route route' : Option String} (h : normalizeOptionalRoute route = .ok route') :
    ∀ text, route' = some text → ∃ rest, text = "/" ++ rest ∧ PathText rest := by
  rintro text rfl
  simp only [normalizeOptionalRoute, transpose_ok, reduceCtorEq, and_false, false_or, Option.map_eq_some_iff] at h
  obtain ⟨_, ⟨value, _, hvalue⟩, heq⟩ := h
  cases heq
  exact normalizeProviderRoute_ok hvalue

/-- What building a snapshot checks, and what it makes of its parts. -/
theorem fromParts_ok {profile template : String} {credentialReference baseUrl responsesRoute chatCompletionsRoute messagesRoute
    modelsRoute : Option String} {dialects : List ProviderDialect} {pricingSource : Option ProviderPricingSource}
    {allow : Bool} {snapshot : ProviderProfileSnapshot} :
    ProviderProfileSnapshot.fromParts lib profile template credentialReference baseUrl responsesRoute chatCompletionsRoute
      messagesRoute modelsRoute dialects pricingSource allow = .ok snapshot ↔
    validateProviderId "provider profile" profile = .ok () ∧ ProviderText maxProviderIdBytes template ∧
    (∀ credential, credentialReference = some credential → ProviderText maxProviderIdBytes credential) ∧
    ∃ origin, transpose (baseUrl.map (normalizeProviderOrigin lib · allow)) = .ok origin ∧ (allow = true → origin ≠ none) ∧
    ∃ responses, normalizeOptionalRoute responsesRoute = .ok responses ∧
    ∃ chat, normalizeOptionalRoute chatCompletionsRoute = .ok chat ∧
    ∃ messages, normalizeOptionalRoute messagesRoute = .ok messages ∧
    ∃ models, normalizeOptionalRoute modelsRoute = .ok models ∧ collectDialects dialects ≠ [] ∧
    snapshot = ⟨profile, template, credentialReference, origin, responses, chat, messages, models, collectDialects dialects,
      pricingSource, allow⟩ := by
  simp only [ProviderProfileSnapshot.fromParts, validateSnapshotValue, bind_ok, exists_unit, option_forM_ok, require_ok, pure,
    Except.pure, Except.ok.injEq, eq_comm (b := snapshot)]

/-- The snapshots that can be built. -/
def ProviderProfileSnapshot.Accepted (lib : UrlLibrary) (snapshot : ProviderProfileSnapshot) : Prop :=
  ∃ profile template credentialReference baseUrl responsesRoute chatCompletionsRoute messagesRoute modelsRoute dialects
    pricingSource allowInsecureLoopback, fromParts lib profile template credentialReference baseUrl responsesRoute
      chatCompletionsRoute messagesRoute modelsRoute dialects pricingSource allowInsecureLoopback = .ok snapshot

variable {snapshot : ProviderProfileSnapshot}

theorem accepted_origin (h : snapshot.Accepted lib) {base : String} (hbase : snapshot.baseUrl = some base) :
    ∃ value url, OriginText lib snapshot.allowInsecureLoopback value url ∧ base = trimEndMatches '/' value := by
  obtain ⟨_, _, _, baseUrl, _, _, _, _, _, _, allow, h⟩ := h
  simp only [ProviderProfileSnapshot.fromParts, bind_ok, pure, Except.pure, Except.ok.injEq] at h
  obtain ⟨_, _, _, _, _, _, baseUrl', horigin, _, _, _, _, _, _, _, _, _, _, _, _, rfl⟩ := h
  subst hbase
  simp only [transpose_ok, reduceCtorEq, and_false, false_or, Option.map_eq_some_iff] at horigin
  obtain ⟨_, ⟨value, _, hvalue⟩, heq⟩ := horigin
  cases heq
  obtain ⟨url, horigin, hbase⟩ := normalizeProviderOrigin_ok.mp hvalue
  exact ⟨value, url, horigin, hbase⟩

theorem accepted_route (h : snapshot.Accepted lib) {text : String}
    (hroute : (∃ dialect, snapshot.route dialect = some text) ∨ snapshot.modelsRoute = some text) :
    ∃ rest, text = "/" ++ rest ∧ PathText rest := by
  obtain ⟨_, _, _, _, _, _, _, _, _, _, _, h⟩ := h
  simp only [ProviderProfileSnapshot.fromParts, bind_ok, pure, Except.pure, Except.ok.injEq] at h
  obtain ⟨_, _, _, _, _, _, _, _, _, _, responses, hresponses, chat, hchat, messages, hmessages, models, hmodels, _, _, rfl⟩ := h
  rcases hroute with ⟨dialect, hroute⟩ | hroute
  · cases dialect with
    | responses => exact normalizeOptionalRoute_ok hresponses text hroute
    | chatCompletions => exact normalizeOptionalRoute_ok hchat text hroute
    | messages => exact normalizeOptionalRoute_ok hmessages text hroute
  · exact normalizeOptionalRoute_ok hmodels text hroute

end Facts

end GreenTyper.Provider
