/-
  GreenTyper.Config.Resolve — four layers resolved to an effective document, and what is
  derived from it (`resolve_documents` of `config/runtime.rs`).

  The effective document is checked as a whole: each profile's origin and prices, each
  preset's provider and fallbacks, the usage windows. A fallback graph is walked depth
  first; a walk goes down only to a preset that it has not met, so the number of presets
  bounds how deep it goes.
-/

import GreenTyper.Config.Validate

namespace GreenTyper.Config

open Lib Provider Usage

/-- The libraries that a configuration is resolved with. -/
structure ConfigLibrary where
  url : UrlLibrary
  time : TimeLibrary

def providerPath (id : String) : String := dotted "providers" id
def presetPath (id : String) : String := dotted "model_presets" id
def schedulePath (id : String) : String := dotted "price_schedules" id
def windowPath (id : String) : String := dotted "stats.windows" id

/-! ## Provider profiles -/

def resolveProviderPricingSource (profile template : String) (explicit : Option ProviderPricingSource) (customOrigin : Bool)
    (templateDefault : Option ProviderPricingSource) : Except ConfigRuntimeError (Option ProviderPricingSource) :=
  match explicit, customOrigin with
  | some .template, true | some .templateMirror, true =>
    if explicit = some .template ∧ hasReleasePriceSchedules template = true then .ok (some .templateMirror)
    else .error (invalid (dotted (providerPath profile) "pricing.source")
      "template mirror pricing requires a bundled release rate card")
  | some .templateMirror, false =>
    .error (invalid (dotted (providerPath profile) "pricing.source") "template_mirror pricing requires a custom Provider origin")
  | some source, _ => .ok (some source)
  | none, true => .ok (if hasReleasePriceSchedules template then some .templateMirror else none)
  | none, false => .ok templateDefault

def ProviderProfileLayer.effectiveDialects (definition : ProviderProfileLayer) : List ProviderDialect :=
  definition.dialects.getD (((definition.template.bind catalogTemplate).map (·.dialects)).getD [])

def providerProfileSnapshot (lib : ConfigLibrary) (document : ConfigDocument) (profile : String) :
    Except ConfigRuntimeError ProviderProfileSnapshot := do
  let definition ← okOr (document.providers.get profile) (invalid (providerPath profile) "provider profile does not exist")
  let template ← okOr definition.template
    (invalid (dotted (providerPath profile) "template") "provider profile requires a template")
  let defaults := catalogTemplate template
  let pricingSource ← resolveProviderPricingSource profile template definition.pricing.source definition.baseUrl.isSome
    (defaults.map (·.pricingSource))
  (ProviderProfileSnapshot.fromParts lib.url profile template definition.credential
    (definition.baseUrl.or (defaults.map (·.baseUrl)))
    (definition.routes.responses.or (defaults.bind (·.responsesRoute)))
    (definition.routes.chatCompletions.or (defaults.bind (·.chatCompletionsRoute)))
    (definition.routes.messages.or (defaults.bind (·.messagesRoute)))
    (definition.routes.models.or (defaults.bind (·.modelsRoute)))
    definition.effectiveDialects pricingSource (definition.allowInsecureLoopback.getD false)).mapError
      fun source => .invalidValue (providerPath profile) (.provider source)

def validateProviderOrigin (lib : ConfigLibrary) (profilePath value : String) (profile : ProviderProfileLayer) :
    Except ConfigRuntimeError Unit := do
  let path := dotted profilePath "base_url"
  let url ← okOr (lib.url.parse value) (invalid path "invalid absolute HTTP(S) URL")
  require (url.plain = true ∧ url.host.isSome = true)
    (invalid path "base URL must be absolute HTTP(S) with no user info, query, or fragment")
  require (url.scheme = "http" → hostLoopback url.host = true ∧ profile.allowInsecureLoopback = some true)
    (invalid path "plain HTTP requires a loopback host and explicit insecure-loopback opt-in")
  require (profile.allowInsecureLoopback = some true → hostLoopback url.host = true)
    (invalid (dotted profilePath "allow_insecure_loopback") "insecure-loopback opt-in is invalid for a remote origin")

/-- What is checked of a profile of the effective document. -/
def validateProfile (lib : ConfigLibrary) (id : String) (profile : ProviderProfileLayer) : Except ConfigRuntimeError Unit := do
  let path := providerPath id
  require (profile.template.isSome = true) (invalid (dotted path "template") "provider profile requires a template")
  profile.baseUrl.forM fun baseUrl => do
    validateProviderOrigin lib path baseUrl profile
    require (profile.credential.isSome = true)
      (invalid (dotted path "credential") "custom origin requires an explicit credential binding")
    require (profile.pricing.source.isSome = true ∨ profile.template.any hasReleasePriceSchedules = true)
      (invalid (dotted path "pricing.source")
        "custom origin without a release rate card requires an explicit pricing decision")
  require (profile.baseUrl = none → profile.allowInsecureLoopback ≠ some true)
    (invalid (dotted path "allow_insecure_loopback") "insecure-loopback opt-in requires an explicit loopback base URL")
  require (profile.dialects ≠ some []) (invalid (dotted path "dialects") "dialect set cannot be empty")

/-! ## Price Schedules -/

def parsePriceTimestamp (lib : ConfigLibrary) (path value : String) : Except ConfigRuntimeError UsageTimestamp := do
  let millis ← okOr (lib.time.timestamp value) (invalid path "expected an RFC 3339 timestamp")
  (UsageTimestamp.fromUnixMillis lib.time millis).mapError fun source => .invalidValue path (.usage source)

def resolvePriceSchedule (lib : ConfigLibrary) (document : ConfigDocument) (id : String) (layer : PriceScheduleLayer) :
    Except ConfigRuntimeError PriceSchedule := do
  let path := dotted (schedulePath id)
  let requiredString (field : String) (value : Option String) :=
    okOr value (invalid (path field) "Price Schedule field is required")
  let requiredInteger (field : String) (value : Option UInt64) :=
    okOr value (invalid (path (dotted "rates" field)) "Price Schedule rate is required")
  let provider ← requiredString "provider" layer.provider
  validateId (path "provider") provider
  let profile ← okOr (document.providers.get provider)
    (invalid (path "provider") "Price Schedule references an unknown Provider Profile")
  let source ← okOr layer.source (invalid (path "source") "Price Schedule source is required")
  require (source = .manual) (invalid (path "source") "editable Price Schedules currently require manual provenance")
  let snapshot ← providerProfileSnapshot lib document provider
  require (snapshot.pricingSource = some .manual)
    (invalid (path "source") "Price Schedule source conflicts with the Provider Profile pricing decision")
  require (profile.template.isSome = true)
    (invalid (dotted (providerPath provider) "template") "provider profile requires a template")
  let effectiveFrom ← parsePriceTimestamp lib (path "effective_from") (← requiredString "effective_from" layer.effectiveFrom)
  let effectiveUntil ← transpose (layer.effectiveUntil.map (parsePriceTimestamp lib (path "effective_until")))
  let version ← requiredString "version" layer.version
  let currency ← requiredString "currency" layer.currency
  let model ← requiredString "model" layer.model
  let minimumContextTokens ← okOr layer.minimumContextTokens
    (invalid (path "minimum_context_tokens") "Price Schedule context range start is required")
  let sourceRef ← requiredString "source_ref" layer.sourceRef
  let input ← requiredInteger "input_micros_per_million" layer.rates.inputMicrosPerMillion
  let cachedInput ← requiredInteger "cached_input_micros_per_million" layer.rates.cachedInputMicrosPerMillion
  let cacheWrite ← requiredInteger "cache_write_micros_per_million" layer.rates.cacheWriteMicrosPerMillion
  let output ← requiredInteger "output_micros_per_million" layer.rates.outputMicrosPerMillion
  let reasoningOutput ← requiredInteger "reasoning_output_micros_per_million" layer.rates.reasoningOutputMicrosPerMillion
  (PriceSchedule.new ⟨id, version, currency, provider, model, layer.dialect, layer.serviceTier, minimumContextTokens,
    layer.maximumContextTokens, effectiveFrom, effectiveUntil, source, sourceRef,
    ⟨input, cachedInput, cacheWrite, output, reasoningOutput⟩⟩).mapError fun source => .invalidValue (schedulePath id) (.pricing source)

/-- The Price Schedules that a profile has from its template. -/
def profilePriceSchedules (profile : String) (definition : ProviderProfileLayer) : Except ConfigRuntimeError (List PriceSchedule) :=
  match definition.template with
  | none => .ok []
  | some template => do
    let pricingSource ← resolveProviderPricingSource profile template definition.pricing.source definition.baseUrl.isSome
      ((catalogTemplate template).map (·.pricingSource))
    let release (source : PriceScheduleSource) := (releasePriceSchedulesForProfile profile template source).mapError
      fun source => ConfigRuntimeError.invalidValue "price_schedules" (.pricing source)
    match pricingSource with
    | some .template => release .template
    | some .templateMirror => release .templateMirror
    | _ => .ok []

def resolvePriceScheduleBook (lib : ConfigLibrary) (document : ConfigDocument) : Except ConfigRuntimeError PriceScheduleBook := do
  let schedules ← document.priceSchedules.entries.mapM fun (id, layer) => resolvePriceSchedule lib document id layer
  let release ← document.providers.entries.mapM fun (profile, definition) => profilePriceSchedules profile definition
  (PriceScheduleBook.new (schedules ++ release.flatten)).mapError fun source => .invalidValue "price_schedules" (.pricing source)

/-! ## Usage Windows -/

def resolveUsageWindow (lib : ConfigLibrary) (window : UsageWindowLayer) : Except ConfigRuntimeError UsageWindow := do
  let path := windowPath window.id
  let start ← okOr window.start (invalid (dotted path "start") "usage window requires a start")
  let finish ← okOr window.finish (invalid (dotted path "end") "usage window requires an end")
  let days ← okOr window.days (invalid (dotted path "days") "usage window requires at least one day")
  let timezone ← okOr window.timezone (invalid (dotted path "timezone") "usage window requires a time zone")
  (UsageWindow.resolve lib.time window.id start finish days timezone).mapError fun source => .invalidValue path (.usage source)

def validateUsageWindow (lib : ConfigLibrary) (window : UsageWindowLayer) : Except ConfigRuntimeError Unit := do
  let path := windowPath window.id
  let start ← okOr window.start (invalid (dotted path "start") "usage window requires a start")
  let finish ← okOr window.finish (invalid (dotted path "end") "usage window requires an end")
  let days ← okOr window.days (invalid (dotted path "days") "usage window requires at least one day")
  require (days ≠ []) (invalid (dotted path "days") "usage window requires at least one day")
  let timezone ← okOr window.timezone (invalid (dotted path "timezone") "usage window requires a time zone")
  let _ ← (UsageWindow.resolve lib.time window.id start finish days timezone).mapError
    fun source => ConfigRuntimeError.invalidValue path (.usage source)

/-! ## Model presets -/

def preservesFallbackCapabilityContract (required candidate : ModelPresetLayer) : Bool :=
  required.reasoningEffort.all (candidate.reasoningEffort == some ·) &&
    required.serviceTier.all (candidate.serviceTier == some ·) &&
    required.maxOutputTokens.all (fun minimum => candidate.maxOutputTokens.any (minimum ≤ ·)) &&
    required.contextMode.all (candidate.contextMode == some ·)

def ModelPresetLayer.fallbacks (preset : ModelPresetLayer) : List String := preset.fallback.getD []

def ConfigDocument.fallbacksOf (document : ConfigDocument) (id : String) : List String :=
  ((document.modelPresets.get id).map (·.fallbacks)).getD []

def validateStarter (document : ConfigDocument) (id : String) (starter : ModelStarterLayer) : Except ConfigRuntimeError Unit := do
  let path := dotted (presetPath id) "starter"
  let provenance ← starter.provenance id
  let accepted ← okOr (releaseModelIdentity provenance.seedRevision provenance.catalogKey)
    (invalid (dotted path "seed_revision") "release starter seed is not a supported update source")
  let profile ← okOr (document.providers.get provenance.provider)
    (invalid (dotted path "provider") "release starter references an unknown provider profile")
  require (profile.template = some accepted.providerTemplate ∧ provenance.model = accepted.model ∧
    provenance.dialect = accepted.dialect) (invalid path "release starter provenance does not match its catalog record")

def validateFallback (document : ConfigDocument) (id : String) (preset : ModelPresetLayer) (fallback : String) :
    Except ConfigRuntimeError Unit := do
  let path := dotted (presetPath id) "fallback"
  require (fallback ≠ id) (invalid path "model preset cannot fall back to itself")
  let candidate ← okOr (document.modelPresets.get fallback) (invalid path "fallback references an unknown model preset")
  require (preservesFallbackCapabilityContract preset candidate = true)
    (invalid path "fallback does not preserve the required capability contract")

/-- What is checked of a preset of the effective document. -/
def validatePreset (document : ConfigDocument) (id : String) (preset : ModelPresetLayer) : Except ConfigRuntimeError Unit := do
  let path := presetPath id
  let provider ← okOr preset.provider (invalid (dotted path "provider") "model preset requires a provider")
  require (document.providers.contains provider = true ∨ provider = "simulator")
    (invalid (dotted path "provider") "model preset references an unknown provider profile")
  require (preset.model.isSome = true) (invalid (dotted path "model") "model preset requires a model")
  require (preset.dialect.isSome = true) (invalid (dotted path "dialect") "model preset requires an explicit dialect")
  preset.starter.forM (validateStarter document id)
  preset.fallbacks.forM (validateFallback document id preset)

/-- The walk for cycles: `active` is the way down to the preset, `complete` what is walked. -/
def visitFallbacks (document : ConfigDocument) (root : String) : Nat → String → List String → List String →
    Except ConfigRuntimeError (List String)
  | 0, _, _, _ => .error (.panicked "fallback walk")
  | fuel + 1, current, active, complete =>
    if current ∈ complete then .ok complete
    else if current ∈ active then .error (invalid (dotted (presetPath root) "fallback") "fallback chain contains a cycle")
    else do
      let complete ← (document.fallbacksOf current).foldlM
        (fun complete fallback => visitFallbacks document root fuel fallback (current :: active) complete) complete
      return current :: complete

/-- The walk that counts the candidates of a preset. -/
def collectFallbacks (document : ConfigDocument) : Nat → String → List String → List String
  | 0, _, seen => seen
  | fuel + 1, current, seen =>
    if current ∈ seen then seen
    else (document.fallbacksOf current).foldl (fun seen fallback => collectFallbacks document fuel fallback seen) (current :: seen)

def validateFallbackCycles (document : ConfigDocument) : Except ConfigRuntimeError Unit := do
  let fuel := document.modelPresets.size + 2
  let _ ← document.modelPresets.keys.foldlM (fun complete root => visitFallbacks document root fuel root [] complete) []
  document.modelPresets.keys.forM fun root =>
    require ((collectFallbacks document fuel root []).length ≤ maxModelPresetFallbackCandidates)
      (invalid (dotted (presetPath root) "fallback") "fallback chain supports at most 16 Provider candidates")

/-! ## Effective documents -/

def ConfigDocument.bootstrapLayer (document : ConfigDocument) : ConfigLayer :=
  ⟨document.provider.profile, document.provider.model, document.runtime.maxOutputBytes, none, none, none, none⟩

def validateEffective (lib : ConfigLibrary) (document : ConfigDocument) : Except ConfigRuntimeError Unit := do
  document.validateLayer
  let bootstrap : ConfigLayers :=
    ⟨{ document.bootstrapLayer with contextMode := some .canonical }, .default, .default, .default⟩
  let _ ← bootstrap.resolve.mapError fun source => ConfigRuntimeError.invalidValue "<effective>" (.config source)
  document.provider.profile.forM fun profile =>
    require (profile = "simulator" ∨ document.providers.contains profile = true)
      (invalid "provider.profile" "selected provider profile does not exist")
  document.providers.entries.forM fun (id, profile) => validateProfile lib id profile
  let _ ← resolvePriceScheduleBook lib document
  document.modelPresets.entries.forM fun (id, preset) => validatePreset document id preset
  document.agent.defaultModelPreset.forM fun default =>
    require (document.modelPresets.contains default = true)
      (invalid "agent.default_model_preset" "default model preset does not exist")
  validateFallbackCycles document
  require (document.windows.length ≤ maxUsageWindows)
    (invalid "stats.windows" "usage window count exceeds the supported limit")
  document.windows.forM (validateUsageWindow lib)
  document.ui.statusline.primaryUsageWindow.forM fun primary =>
    require (primary ∈ document.windows.map (·.id))
      (invalid "ui.statusline.primary_usage_window" "primary usage window does not exist")
  let custom := document.ui.statusline.custom
  require (document.ui.statusline.preset = some .custom →
      custom.left.any (· ≠ []) = true ∨ custom.right.any (· ≠ []) = true)
    (invalid "ui.statusline.custom" "custom statusline requires at least one segment list")

structure EffectiveConfigEntry where
  path : String
  value : ConfigValue
  source : ConfigScope
  deriving DecidableEq

structure ResolvedState where
  document : ConfigDocument
  entries : List EffectiveConfigEntry
  internalEntries : List EffectiveConfigEntry
  layers : ConfigLayers
  deriving DecidableEq

/-- The source unwraps the entry: an effective path is in the schema. -/
def credentialPath (path : String) : Bool :=
  match requireSchemaEntry path with
  | .ok entry => entry.credentialReference
  | .error _ => true

def mergeDocuments (builtIn user project cli : ConfigDocument) : ConfigDocument :=
  ((builtIn.mergeFrom user).mergeFrom project).mergeFrom cli

/-- Each path with the value and the source of the last layer that has it. -/
def effectiveEntries (builtIn user project cli : ConfigDocument) : List EffectiveConfigEntry :=
  (([(ConfigScope.builtIn, builtIn), (.user, user), (.project, project), (.cli, cli)].flatMap fun layer =>
    layer.2.flatten.entries.map fun (path, value) => (path, EffectiveConfigEntry.mk path value layer.1)).foldl
      (fun effective entry => effective.insert entry.1 entry.2) OrdMap.empty).values

def resolveDocuments (lib : ConfigLibrary) (builtIn user project cli : ConfigDocument) :
    Except ConfigRuntimeError ResolvedState := do
  builtIn.validateLayer
  user.validateLayer
  project.validateLayer
  cli.validateLayer
  let document := mergeDocuments builtIn user project cli
  validateEffective lib document
  let internalEntries := effectiveEntries builtIn user project cli
  let layers : ConfigLayers := ⟨{ builtIn.bootstrapLayer with contextMode := some .canonical }, user.bootstrapLayer,
    project.bootstrapLayer, cli.bootstrapLayer⟩
  let _ ← layers.resolve.mapError fun source => ConfigRuntimeError.invalidValue "<effective>" (.config source)
  return ⟨document, internalEntries.filter (fun entry => !credentialPath entry.path), internalEntries, layers⟩

end GreenTyper.Config
