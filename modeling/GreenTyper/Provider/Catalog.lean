/-
  GreenTyper.Provider.Catalog — the Provider Templates, models and prices that a release
  bundles (`provider_catalog.rs`).

  The tables are constants of the release. A template gives a profile what the profile
  leaves out; a release rate card gives it Price Schedules.
-/

import GreenTyper.Lib.JsonValue
import GreenTyper.Provider.Profile
import GreenTyper.Usage.Pricing

namespace GreenTyper.Provider

open Lib Usage

inductive ProviderCatalogMode where
  | template
  | discovery
  | templateAndDiscovery
  | manual
  deriving DecidableEq

/-! ## Templates -/

structure ProviderTemplate where
  id : String
  baseUrl : String
  responsesRoute : Option String
  chatCompletionsRoute : Option String
  messagesRoute : Option String
  modelsRoute : Option String
  dialects : List ProviderDialect
  catalogMode : ProviderCatalogMode
  pricingSource : ProviderPricingSource
  deriving DecidableEq

def providerTemplates : List ProviderTemplate := [
  ⟨"deepseek", "https://api.deepseek.com", some "/responses", some "/chat/completions", some "/anthropic/v1/messages",
    some "/models", [.responses, .chatCompletions, .messages], .templateAndDiscovery, .template⟩,
  ⟨"openai", "https://api.openai.com/v1", some "/responses", some "/chat/completions", none,
    some "/models", [.responses, .chatCompletions], .templateAndDiscovery, .template⟩,
  ⟨"opencode-go", "https://opencode.ai/zen/go/v1", some "/responses", some "/chat/completions", some "/messages",
    some "/models", [.responses, .chatCompletions, .messages], .templateAndDiscovery, .template⟩]

/-- `ProviderCatalog::template`: a binary search in the order of the ids. -/
def catalogTemplate (id : String) : Option ProviderTemplate := providerTemplates.find? (·.id = id)

/-! ## Models -/

structure ReleaseModelIdentity where
  catalogKey : String
  providerTemplate : String
  model : String
  dialect : ProviderDialect
  deriving DecidableEq

def releaseSeedRevision : String := "2026-08-10.2"

/-- `MODEL_CATALOG`, with the primary dialects. -/
def modelCatalog : List ReleaseModelIdentity := [
  ⟨"deepseek/deepseek-v4-flash", "deepseek", "deepseek-v4-flash", .responses⟩,
  ⟨"deepseek/deepseek-v4-pro", "deepseek", "deepseek-v4-pro", .chatCompletions⟩,
  ⟨"openai/gpt-5.6-luna", "openai", "gpt-5.6-luna", .responses⟩,
  ⟨"openai/gpt-5.6-sol", "openai", "gpt-5.6-sol", .responses⟩,
  ⟨"openai/gpt-5.6-terra", "openai", "gpt-5.6-terra", .responses⟩,
  ⟨"opencode-go/deepseek-v4-flash", "opencode-go", "deepseek-v4-flash", .chatCompletions⟩,
  ⟨"opencode-go/deepseek-v4-pro", "opencode-go", "deepseek-v4-pro", .chatCompletions⟩,
  ⟨"opencode-go/glm-5.1", "opencode-go", "glm-5.1", .chatCompletions⟩,
  ⟨"opencode-go/glm-5.2", "opencode-go", "glm-5.2", .chatCompletions⟩,
  ⟨"opencode-go/gpt-5.6-luna", "opencode-go", "gpt-5.6-luna", .responses⟩,
  ⟨"opencode-go/grok-4.5", "opencode-go", "grok-4.5", .chatCompletions⟩,
  ⟨"opencode-go/hy3", "opencode-go", "hy3", .chatCompletions⟩,
  ⟨"opencode-go/kimi-k2.6", "opencode-go", "kimi-k2.6", .chatCompletions⟩,
  ⟨"opencode-go/kimi-k2.7-code", "opencode-go", "kimi-k2.7-code", .chatCompletions⟩,
  ⟨"opencode-go/kimi-k3", "opencode-go", "kimi-k3", .chatCompletions⟩,
  ⟨"opencode-go/mimo-v2.5", "opencode-go", "mimo-v2.5", .chatCompletions⟩,
  ⟨"opencode-go/mimo-v2.5-pro", "opencode-go", "mimo-v2.5-pro", .chatCompletions⟩,
  ⟨"opencode-go/minimax-m2.7", "opencode-go", "minimax-m2.7", .messages⟩,
  ⟨"opencode-go/minimax-m3", "opencode-go", "minimax-m3", .messages⟩,
  ⟨"opencode-go/qwen3.6-plus", "opencode-go", "qwen3.6-plus", .messages⟩,
  ⟨"opencode-go/qwen3.7-max", "opencode-go", "qwen3.7-max", .messages⟩,
  ⟨"opencode-go/qwen3.7-plus", "opencode-go", "qwen3.7-plus", .messages⟩,
  ⟨"opencode-go/qwen3.8-max", "opencode-go", "qwen3.8-max", .messages⟩]

/-- `HISTORICAL_RELEASE_MODELS`: the one earlier seed, whose models the current seed kept. -/
def historicalReleaseModels : List (String × List ReleaseModelIdentity) := [("2026-08-10.1", modelCatalog)]

def releaseModelIdentity (seedRevision catalogKey : String) : Option ReleaseModelIdentity :=
  if seedRevision = releaseSeedRevision then modelCatalog.find? (·.catalogKey = catalogKey)
  else do
    let history ← historicalReleaseModels.find? (·.1 = seedRevision)
    history.2.find? (·.catalogKey = catalogKey)

/-! ## Release prices -/

structure ReleasePriceScheduleSeed where
  providerTemplate : String
  model : String
  version : String
  sourceRef : String
  rates : TokenRates

def deepseekPricingSource : String := "https://api-docs.deepseek.com/quick_start/pricing/"

def releasePriceSchedules : List ReleasePriceScheduleSeed := [
  ⟨"deepseek", "deepseek-v4-flash", "2026-08-10.1", deepseekPricingSource, ⟨140000, 2800, 0, 280000, 280000⟩⟩,
  ⟨"deepseek", "deepseek-v4-pro", "2026-08-10.1", deepseekPricingSource, ⟨435000, 3625, 0, 870000, 870000⟩⟩]

def releasePriceEffectiveFrom : UsageTimestamp := ⟨1786320000000, by decide⟩

/-- `format!("{hash:016x}")`. -/
def hex16 (hash : UInt64) : String :=
  String.ofList ((List.range 16).map fun i => hexChar (hash.toNat / 16 ^ (15 - i) % 16))

def releaseScheduleId (providerProfile model : String) : String :=
  "release-" ++ hex16 ([providerProfile, model].foldl hashText 0xcbf29ce484222325)

def hasReleasePriceSchedules (providerTemplate : String) : Bool :=
  releasePriceSchedules.any (·.providerTemplate = providerTemplate)

def ReleasePriceScheduleSeed.definition (seed : ReleasePriceScheduleSeed) (providerProfile : String)
    (source : PriceScheduleSource) : PriceScheduleDefinition :=
  ⟨releaseScheduleId providerProfile seed.model, seed.version, "USD", providerProfile, seed.model, none, none, 0, none,
    releasePriceEffectiveFrom, none, source, seed.sourceRef, seed.rates⟩

def releasePriceSchedulesForProfile (providerProfile providerTemplate : String) (source : PriceScheduleSource) :
    Except PricingError (List PriceSchedule) :=
  (releasePriceSchedules.filter (·.providerTemplate = providerTemplate)).mapM fun seed =>
    PriceSchedule.newTrusted (seed.definition providerProfile source)

end GreenTyper.Provider
