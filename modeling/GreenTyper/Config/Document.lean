/-
  GreenTyper.Config.Document — a layer of the configuration as a document, and its fields
  under their paths (`config/runtime.rs`).

  A document's objects are tables of named fields. Flattening nests the tables under the
  paths of their objects.
-/

import GreenTyper.Config.Schema

namespace GreenTyper.Config

open Lib Provider Usage

/-! ## Enumerations -/

inductive StatuslinePreset where
  | minimal
  | balanced
  | diagnostic
  | custom
  deriving DecidableEq

def StatuslinePreset.asStr : StatuslinePreset → String
  | .minimal => "minimal"
  | .balanced => "balanced"
  | .diagnostic => "diagnostic"
  | .custom => "custom"

inductive StatuslineExpansion where
  | auto
  | compact
  | expanded
  deriving DecidableEq

def StatuslineExpansion.asStr : StatuslineExpansion → String
  | .auto => "auto"
  | .compact => "compact"
  | .expanded => "expanded"

/-- `Weekday::as_str`; `usage_weekday` takes each day to the day of the same name. -/
def weekdayStr : UsageWeekday → String
  | .mon => "mon"
  | .tue => "tue"
  | .wed => "wed"
  | .thu => "thu"
  | .fri => "fri"
  | .sat => "sat"
  | .sun => "sun"

def catalogModeStr : ProviderCatalogMode → String
  | .template => "template"
  | .discovery => "discovery"
  | .templateAndDiscovery => "template_and_discovery"
  | .manual => "manual"

def pricingSourceStr : ProviderPricingSource → String
  | .unknown => "unknown"
  | .template => "template"
  | .templateMirror => "template_mirror"
  | .manual => "manual"
  | .providerReported => "provider_reported"

def priceScheduleSourceStr : PriceScheduleSource → String
  | .template => "template"
  | .templateMirror => "template_mirror"
  | .manual => "manual"
  | .providerReported => "provider_reported"

/-! ## Layers -/

structure BootstrapProviderLayer where
  profile : Option String
  model : Option String
  deriving DecidableEq

structure RuntimeLayer where
  maxOutputBytes : Option UInt32
  deriving DecidableEq

structure AgentLayer where
  defaultModelPreset : Option String
  deriving DecidableEq

structure ProviderRoutesLayer where
  responses : Option String
  chatCompletions : Option String
  messages : Option String
  models : Option String
  deriving DecidableEq

structure CatalogLayer where
  mode : Option ProviderCatalogMode
  deriving DecidableEq

structure PricingLayer where
  source : Option ProviderPricingSource
  deriving DecidableEq

structure ProviderProfileLayer where
  template : Option String
  credential : Option String
  baseUrl : Option String
  routes : ProviderRoutesLayer
  dialects : Option (List ProviderDialect)
  catalog : CatalogLayer
  pricing : PricingLayer
  allowInsecureLoopback : Option Bool
  deriving DecidableEq

structure ModelStarterLayer where
  catalogKey : Option String
  seedRevision : Option String
  provider : Option String
  model : Option String
  dialect : Option ProviderDialect
  deriving DecidableEq

structure ModelPresetLayer where
  provider : Option String
  model : Option String
  dialect : Option ProviderDialect
  reasoningEffort : Option String
  serviceTier : Option String
  maxOutputTokens : Option UInt32
  contextMode : Option String
  favorite : Option Bool
  fallback : Option (List String)
  starter : Option ModelStarterLayer
  deriving DecidableEq

structure PriceRatesLayer where
  inputMicrosPerMillion : Option UInt64
  cachedInputMicrosPerMillion : Option UInt64
  cacheWriteMicrosPerMillion : Option UInt64
  outputMicrosPerMillion : Option UInt64
  reasoningOutputMicrosPerMillion : Option UInt64
  deriving DecidableEq

structure PriceScheduleLayer where
  version : Option String
  currency : Option String
  provider : Option String
  model : Option String
  dialect : Option ProviderDialect
  serviceTier : Option String
  minimumContextTokens : Option UInt64
  maximumContextTokens : Option UInt64
  effectiveFrom : Option String
  effectiveUntil : Option String
  source : Option PriceScheduleSource
  sourceRef : Option String
  rates : PriceRatesLayer
  deriving DecidableEq

structure StatuslineCustomLayer where
  left : Option (List String)
  right : Option (List String)
  deriving DecidableEq

structure StatuslineLayer where
  preset : Option StatuslinePreset
  expand : Option StatuslineExpansion
  primaryUsageWindow : Option String
  custom : StatuslineCustomLayer
  deriving DecidableEq

structure UiLayer where
  statusline : StatuslineLayer
  deriving DecidableEq

structure UsageWindowLayer where
  id : String
  start : Option String
  finish : Option String
  days : Option (List UsageWeekday)
  timezone : Option String
  deriving DecidableEq

structure StatsLayer where
  windows : Option (List UsageWindowLayer)
  deriving DecidableEq

structure ConfigDocument where
  schemaVersion : UInt16
  provider : BootstrapProviderLayer
  runtime : RuntimeLayer
  agent : AgentLayer
  providers : OrdMap String ProviderProfileLayer
  modelPresets : OrdMap String ModelPresetLayer
  priceSchedules : OrdMap String PriceScheduleLayer
  ui : UiLayer
  stats : StatsLayer
  deriving DecidableEq

def ProviderProfileLayer.default : ProviderProfileLayer := ⟨none, none, none, ⟨none, none, none, none⟩, none, ⟨none⟩, ⟨none⟩, none⟩
def ModelPresetLayer.default : ModelPresetLayer := ⟨none, none, none, none, none, none, none, none, none, none⟩
def PriceScheduleLayer.default : PriceScheduleLayer :=
  ⟨none, none, none, none, none, none, none, none, none, none, none, none, ⟨none, none, none, none, none⟩⟩
def UiLayer.default : UiLayer := ⟨⟨none, none, none, ⟨none, none⟩⟩⟩

namespace ConfigDocument

def empty : ConfigDocument :=
  ⟨configFileSchemaVersion, ⟨none, none⟩, ⟨none⟩, ⟨none⟩, .empty, .empty, .empty, .default, ⟨none⟩⟩

def builtIn : ConfigDocument :=
  { empty with
    provider := ⟨some "simulator", some "deterministic-v1"⟩
    runtime := ⟨some defaultMaxOutputBytes⟩
    ui := ⟨⟨some .balanced, some .auto, none, ⟨none, none⟩⟩⟩ }

/-- `self.stats.windows.iter().flatten()`. -/
def windows (document : ConfigDocument) : List UsageWindowLayer := document.stats.windows.getD []

end ConfigDocument

/-! ## Fields -/

section Cells

variable {α : Type}

/-- `insert_string`. -/
def text (read : α → Option String) (a : α) : Option ConfigValue := (read a).map .string

def dialectText (read : α → Option ProviderDialect) (a : α) : Option ConfigValue := (read a).map fun dialect => .string dialect.asStr

def natural (read : α → Option UInt64) (a : α) : Option ConfigValue := (read a).map .nonNegativeInteger

def positive (read : α → Option UInt32) (a : α) : Option ConfigValue := (read a).map .positiveInteger

def boolean (read : α → Option Bool) (a : α) : Option ConfigValue := (read a).map .boolean

def texts (read : α → Option (List String)) (a : α) : Option ConfigValue := (read a).map .stringList

end Cells

def BootstrapProviderLayer.fields : Table BootstrapProviderLayer ConfigValue := [
  ("profile", text (·.profile)),
  ("model", text (·.model))]

def RuntimeLayer.fields : Table RuntimeLayer ConfigValue := [("max_output_bytes", positive (·.maxOutputBytes))]

def AgentLayer.fields : Table AgentLayer ConfigValue := [("default_model_preset", text (·.defaultModelPreset))]

def ProviderProfileLayer.fields : Table ProviderProfileLayer ConfigValue := [
  ("template", text (·.template)),
  ("credential", text (·.credential)),
  ("base_url", text (·.baseUrl)),
  ("routes.responses", text (·.routes.responses)),
  ("routes.chat_completions", text (·.routes.chatCompletions)),
  ("routes.messages", text (·.routes.messages)),
  ("routes.models", text (·.routes.models)),
  ("dialects", texts fun profile => profile.dialects.map fun dialects => dialects.map (·.asStr)),
  ("catalog.mode", text fun profile => profile.catalog.mode.map catalogModeStr),
  ("pricing.source", text fun profile => profile.pricing.source.map pricingSourceStr),
  ("allow_insecure_loopback", boolean (·.allowInsecureLoopback))]

def ModelPresetLayer.fields : Table ModelPresetLayer ConfigValue := [
  ("provider", text (·.provider)),
  ("model", text (·.model)),
  ("dialect", dialectText (·.dialect)),
  ("reasoning_effort", text (·.reasoningEffort)),
  ("service_tier", text (·.serviceTier)),
  ("max_output_tokens", positive (·.maxOutputTokens)),
  ("context_mode", text (·.contextMode)),
  ("favorite", boolean (·.favorite)),
  ("fallback", texts (·.fallback)),
  ("starter.catalog_key", text fun preset => preset.starter.bind (·.catalogKey)),
  ("starter.seed_revision", text fun preset => preset.starter.bind (·.seedRevision)),
  ("starter.provider", text fun preset => preset.starter.bind (·.provider)),
  ("starter.model", text fun preset => preset.starter.bind (·.model)),
  ("starter.dialect", dialectText fun preset => preset.starter.bind (·.dialect))]

def PriceScheduleLayer.fields : Table PriceScheduleLayer ConfigValue := [
  ("version", text (·.version)),
  ("currency", text (·.currency)),
  ("provider", text (·.provider)),
  ("model", text (·.model)),
  ("dialect", dialectText (·.dialect)),
  ("service_tier", text (·.serviceTier)),
  ("minimum_context_tokens", natural (·.minimumContextTokens)),
  ("maximum_context_tokens", natural (·.maximumContextTokens)),
  ("effective_from", text (·.effectiveFrom)),
  ("effective_until", text (·.effectiveUntil)),
  ("source", text fun schedule => schedule.source.map priceScheduleSourceStr),
  ("source_ref", text (·.sourceRef)),
  ("rates.input_micros_per_million", natural (·.rates.inputMicrosPerMillion)),
  ("rates.cached_input_micros_per_million", natural (·.rates.cachedInputMicrosPerMillion)),
  ("rates.cache_write_micros_per_million", natural (·.rates.cacheWriteMicrosPerMillion)),
  ("rates.output_micros_per_million", natural (·.rates.outputMicrosPerMillion)),
  ("rates.reasoning_output_micros_per_million", natural (·.rates.reasoningOutputMicrosPerMillion))]

def UiLayer.fields : Table UiLayer ConfigValue := [
  ("statusline.preset", text fun ui => ui.statusline.preset.map (·.asStr)),
  ("statusline.expand", text fun ui => ui.statusline.expand.map (·.asStr)),
  ("statusline.primary_usage_window", text (·.statusline.primaryUsageWindow)),
  ("statusline.custom.left", texts (·.statusline.custom.left)),
  ("statusline.custom.right", texts (·.statusline.custom.right))]

def UsageWindowLayer.fields : Table UsageWindowLayer ConfigValue := [
  ("start", text (·.start)),
  ("end", text (·.finish)),
  ("days", texts fun window => window.days.map fun days => days.map weekdayStr),
  ("timezone", text (·.timezone))]

/-- The fields of each object, under its id. -/
def objectFields {α : Type} (table : Table α ConfigValue) (objects : List (String × α)) : List (String × List (String × ConfigValue)) :=
  objects.map fun object => (object.1, present table object.2)

namespace ConfigDocument

/-- The objects with an id. -/
def windowObjects (document : ConfigDocument) : List (String × UsageWindowLayer) :=
  document.windows.map fun window => (window.id, window)

def groups (document : ConfigDocument) : List (String × List (String × ConfigValue)) := [
  ("provider", present BootstrapProviderLayer.fields document.provider),
  ("runtime", present RuntimeLayer.fields document.runtime),
  ("agent", present AgentLayer.fields document.agent),
  ("providers", nest (objectFields ProviderProfileLayer.fields document.providers.entries)),
  ("model_presets", nest (objectFields ModelPresetLayer.fields document.modelPresets.entries)),
  ("price_schedules", nest (objectFields PriceScheduleLayer.fields document.priceSchedules.entries)),
  ("ui", present UiLayer.fields document.ui),
  ("stats", nest [("windows", nest (objectFields UsageWindowLayer.fields document.windowObjects))])]

/-- The fields in the order in which `flatten` inserts them. -/
def fields (document : ConfigDocument) : List (String × ConfigValue) := nest document.groups

def flatten (document : ConfigDocument) : OrdMap String ConfigValue := .ofList document.fields

end ConfigDocument

end GreenTyper.Config
