/-
  GreenTyper.Config.Validate — what is checked of one layer, and how layers merge
  (`validate_layer`, `normalize_routes` and `merge_from` of `config/runtime.rs`).

  A layer is checked field by field, as its flattened fields are, and then object by
  object. A route is kept with one slash before it.
-/

import GreenTyper.Config.Document

namespace GreenTyper.Config

open Lib Provider Usage

/-! ## Checks of a layer -/

structure ModelStarterProvenance where
  catalogKey : String
  seedRevision : String
  provider : String
  model : String
  dialect : ProviderDialect
  deriving DecidableEq

def ModelStarterLayer.provenance (starter : ModelStarterLayer) (presetId : String) :
    Except ConfigRuntimeError ModelStarterProvenance := do
  let at_ (field : String) : String := dotted (dotted (dotted "model_presets" presetId) "starter") field
  let required (field : String) := invalid (at_ field) "starter provenance must be a complete tuple"
  let catalogKey ← okOr starter.catalogKey (required "catalog_key")
  validateString (at_ "catalog_key") catalogKey
  let seedRevision ← okOr starter.seedRevision (required "seed_revision")
  validateString (at_ "seed_revision") seedRevision
  let provider ← okOr starter.provider (required "provider")
  validateId (at_ "provider") provider
  let model ← okOr starter.model (required "model")
  validateString (at_ "model") model
  let dialect ← okOr starter.dialect (required "dialect")
  return ⟨catalogKey, seedRevision, provider, model, dialect⟩

/-- The checks of one flattened field. -/
def validateField (field : String × ConfigValue) : Except ConfigRuntimeError Unit := do
  let descriptor ← requireSchemaEntry field.1
  require (descriptor.valueKind = field.2.kind) (.wrongType field.1 descriptor.valueKind field.2.kind)
  validateValue field.1 field.2
  if descriptor.credentialReference then
    match field.2 with
    | .string reference => validateId field.1 reference
    | _ => .error (.panicked "credential-reference schema requires a string")
  else .ok ()

def validateWindowIds (seen : List String) : List UsageWindowLayer → Except ConfigRuntimeError Unit
  | [] => .ok ()
  | window :: windows => do
    validateId "stats.windows.<id>" window.id
    require (window.id ∉ seen) (invalid (dotted "stats.windows" window.id) "usage window IDs must be unique")
    validateWindowIds (window.id :: seen) windows

namespace ConfigDocument

def validateLayer (document : ConfigDocument) : Except ConfigRuntimeError Unit := do
  require (document.schemaVersion = configFileSchemaVersion) (.unsupportedSchema configFileSchemaVersion document.schemaVersion)
  document.flatten.entries.forM validateField
  document.providers.keys.forM (validateId "providers.<id>")
  document.modelPresets.entries.forM fun (id, preset) => do
    validateId "model_presets.<id>" id
    preset.starter.forM fun starter => do
      let _ ← starter.provenance id
  document.agent.defaultModelPreset.forM (validateId "agent.default_model_preset")
  document.priceSchedules.keys.forM (validateId "price_schedules.<id>")
  validateWindowIds [] document.windows

end ConfigDocument

/-! ## Routes -/

def normalizeRoute (path route : String) : Except ConfigRuntimeError String := do
  validateString path route
  require ('?' ∉ route.toList ∧ '#' ∉ route.toList ∧ containsText route "://" = false ∧ '\\' ∉ route.toList ∧
      ∀ segment ∈ route.toList.splitOn '/', segment ≠ ['.'] ∧ segment ≠ ['.', '.'])
    (invalid path "route must be a path without authority, dot segments, query, or fragment")
  require (trimStartMatches '/' route ≠ "") (invalid path "route cannot be the origin root")
  return "/" ++ trimStartMatches '/' route

def ProviderProfileLayer.normalizeRoutes (id : String) (profile : ProviderProfileLayer) :
    Except ConfigRuntimeError ProviderProfileLayer := do
  let normalize (name : String) (route : Option String) : Except ConfigRuntimeError (Option String) :=
    transpose (route.map (normalizeRoute (dotted (dotted (dotted "providers" id) "routes") name)))
  let responses ← normalize "responses" profile.routes.responses
  let chatCompletions ← normalize "chat_completions" profile.routes.chatCompletions
  let messages ← normalize "messages" profile.routes.messages
  let models ← normalize "models" profile.routes.models
  return { profile with routes := ⟨responses, chatCompletions, messages, models⟩ }

def ConfigDocument.normalizeRoutes (document : ConfigDocument) : Except ConfigRuntimeError ConfigDocument := do
  return { document with providers := ← document.providers.mapM ProviderProfileLayer.normalizeRoutes }

/-! ## Merging -/

/-- `merge_option`. -/
def mergeOption {α : Type} (base overlay : Option α) : Option α := overlay.or base

def ProviderRoutesLayer.mergeFrom (routes overlay : ProviderRoutesLayer) : ProviderRoutesLayer :=
  ⟨mergeOption routes.responses overlay.responses, mergeOption routes.chatCompletions overlay.chatCompletions,
    mergeOption routes.messages overlay.messages, mergeOption routes.models overlay.models⟩

def ProviderProfileLayer.mergeFrom (profile overlay : ProviderProfileLayer) : ProviderProfileLayer :=
  ⟨mergeOption profile.template overlay.template, mergeOption profile.credential overlay.credential,
    mergeOption profile.baseUrl overlay.baseUrl, profile.routes.mergeFrom overlay.routes,
    mergeOption profile.dialects overlay.dialects, ⟨mergeOption profile.catalog.mode overlay.catalog.mode⟩,
    ⟨mergeOption profile.pricing.source overlay.pricing.source⟩,
    mergeOption profile.allowInsecureLoopback overlay.allowInsecureLoopback⟩

def ModelPresetLayer.mergeFrom (preset overlay : ModelPresetLayer) : ModelPresetLayer :=
  ⟨mergeOption preset.provider overlay.provider, mergeOption preset.model overlay.model,
    mergeOption preset.dialect overlay.dialect, mergeOption preset.reasoningEffort overlay.reasoningEffort,
    mergeOption preset.serviceTier overlay.serviceTier, mergeOption preset.maxOutputTokens overlay.maxOutputTokens,
    mergeOption preset.contextMode overlay.contextMode, mergeOption preset.favorite overlay.favorite,
    mergeOption preset.fallback overlay.fallback, mergeOption preset.starter overlay.starter⟩

def PriceRatesLayer.mergeFrom (rates overlay : PriceRatesLayer) : PriceRatesLayer :=
  ⟨mergeOption rates.inputMicrosPerMillion overlay.inputMicrosPerMillion,
    mergeOption rates.cachedInputMicrosPerMillion overlay.cachedInputMicrosPerMillion,
    mergeOption rates.cacheWriteMicrosPerMillion overlay.cacheWriteMicrosPerMillion,
    mergeOption rates.outputMicrosPerMillion overlay.outputMicrosPerMillion,
    mergeOption rates.reasoningOutputMicrosPerMillion overlay.reasoningOutputMicrosPerMillion⟩

def PriceScheduleLayer.mergeFrom (schedule overlay : PriceScheduleLayer) : PriceScheduleLayer :=
  ⟨mergeOption schedule.version overlay.version, mergeOption schedule.currency overlay.currency,
    mergeOption schedule.provider overlay.provider, mergeOption schedule.model overlay.model,
    mergeOption schedule.dialect overlay.dialect, mergeOption schedule.serviceTier overlay.serviceTier,
    mergeOption schedule.minimumContextTokens overlay.minimumContextTokens,
    mergeOption schedule.maximumContextTokens overlay.maximumContextTokens,
    mergeOption schedule.effectiveFrom overlay.effectiveFrom, mergeOption schedule.effectiveUntil overlay.effectiveUntil,
    mergeOption schedule.source overlay.source, mergeOption schedule.sourceRef overlay.sourceRef,
    schedule.rates.mergeFrom overlay.rates⟩

def UiLayer.mergeFrom (ui overlay : UiLayer) : UiLayer :=
  ⟨⟨mergeOption ui.statusline.preset overlay.statusline.preset, mergeOption ui.statusline.expand overlay.statusline.expand,
    mergeOption ui.statusline.primaryUsageWindow overlay.statusline.primaryUsageWindow,
    ⟨mergeOption ui.statusline.custom.left overlay.statusline.custom.left,
      mergeOption ui.statusline.custom.right overlay.statusline.custom.right⟩⟩⟩

def UsageWindowLayer.mergeFrom (window overlay : UsageWindowLayer) : UsageWindowLayer :=
  ⟨window.id, mergeOption window.start overlay.start, mergeOption window.finish overlay.finish,
    mergeOption window.days overlay.days, mergeOption window.timezone overlay.timezone⟩

/-- The first window with the overlay's id, or a new one at the end. -/
def mergeWindow (windows : List UsageWindowLayer) (overlay : UsageWindowLayer) : List UsageWindowLayer :=
  match windows with
  | [] => [overlay]
  | window :: windows =>
    if window.id = overlay.id then window.mergeFrom overlay :: windows else window :: mergeWindow windows overlay

def StatsLayer.mergeFrom (stats overlay : StatsLayer) : StatsLayer :=
  match overlay.windows with
  | none => stats
  | some overlays => ⟨some (overlays.foldl mergeWindow (stats.windows.getD []))⟩

namespace ConfigDocument

def mergeFrom (document overlay : ConfigDocument) : ConfigDocument :=
  { schemaVersion := document.schemaVersion
    provider := ⟨mergeOption document.provider.profile overlay.provider.profile,
      mergeOption document.provider.model overlay.provider.model⟩
    runtime := ⟨mergeOption document.runtime.maxOutputBytes overlay.runtime.maxOutputBytes⟩
    agent := ⟨mergeOption document.agent.defaultModelPreset overlay.agent.defaultModelPreset⟩
    providers := document.providers.mergeWith .default .mergeFrom overlay.providers
    modelPresets := document.modelPresets.mergeWith .default .mergeFrom overlay.modelPresets
    priceSchedules := document.priceSchedules.mergeWith .default .mergeFrom overlay.priceSchedules
    ui := document.ui.mergeFrom overlay.ui
    stats := document.stats.mergeFrom overlay.stats }

end ConfigDocument

end GreenTyper.Config
