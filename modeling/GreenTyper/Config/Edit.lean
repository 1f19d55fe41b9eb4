/-
  GreenTyper.Config.Edit — edits of a draft: `set`, `reset` and `set_raw` (`config/runtime.rs`).

  A path names a place in the document, where a record is, and a field of that record.
  Setting and resetting a field have tables of their own, written from the two matches of
  the source; flattening has the third (`Config.Document`). An edit changes the document
  in place, so what it leaves behind when it fails is part of its result.

  The TOML reader of a list is a parameter of `set_raw`.
-/

import GreenTyper.Config.Runtime

namespace GreenTyper.Config

open Lib Provider Usage

/-! ## Parsers of one value -/

def parseDialect (path : String) : String → Except ConfigRuntimeError ProviderDialect
  | "responses" => .ok .responses
  | "chat_completions" => .ok .chatCompletions
  | "messages" => .ok .messages
  | _ => .error (invalid path "unknown provider dialect")

def parseCatalogMode (path : String) : String → Except ConfigRuntimeError ProviderCatalogMode
  | "template" => .ok .template
  | "discovery" => .ok .discovery
  | "template_and_discovery" => .ok .templateAndDiscovery
  | "manual" => .ok .manual
  | _ => .error (invalid path "unknown catalog mode")

def parsePricingSource (path : String) : String → Except ConfigRuntimeError ProviderPricingSource
  | "unknown" => .ok .unknown
  | "template" => .ok .template
  | "template_mirror" => .ok .templateMirror
  | "manual" => .ok .manual
  | "provider_reported" => .ok .providerReported
  | _ => .error (invalid path "unknown pricing source")

def parsePriceScheduleSource (path : String) : String → Except ConfigRuntimeError PriceScheduleSource
  | "template" => .ok .template
  | "template_mirror" => .ok .templateMirror
  | "manual" => .ok .manual
  | "provider_reported" => .ok .providerReported
  | _ => .error (invalid path "unknown Price Schedule source")

def parseStatuslinePreset (path : String) : String → Except ConfigRuntimeError StatuslinePreset
  | "minimal" => .ok .minimal
  | "balanced" => .ok .balanced
  | "diagnostic" => .ok .diagnostic
  | "custom" => .ok .custom
  | _ => .error (invalid path "unknown statusline preset")

def parseStatuslineExpansion (path : String) : String → Except ConfigRuntimeError StatuslineExpansion
  | "auto" => .ok .auto
  | "compact" => .ok .compact
  | "expanded" => .ok .expanded
  | _ => .error (invalid path "unknown statusline expansion policy")

def parseWeekday (path : String) : String → Except ConfigRuntimeError UsageWeekday
  | "mon" => .ok .mon
  | "tue" => .ok .tue
  | "wed" => .ok .wed
  | "thu" => .ok .thu
  | "fri" => .ok .fri
  | "sat" => .ok .sat
  | "sun" => .ok .sun
  | _ => .error (invalid path "unknown weekday")

/-- `unreachable!`: the kind of a value is checked before it is taken. -/
def wrongKind : ConfigRuntimeError := .panicked "value kind checked before mutation"

def takeString : ConfigValue → Except ConfigRuntimeError String
  | .string value => .ok value
  | _ => .error wrongKind

def takePositiveInteger : ConfigValue → Except ConfigRuntimeError UInt32
  | .positiveInteger value => .ok value
  | _ => .error wrongKind

def takeNonNegativeInteger : ConfigValue → Except ConfigRuntimeError UInt64
  | .nonNegativeInteger value => .ok value
  | _ => .error wrongKind

def takeBoolean : ConfigValue → Except ConfigRuntimeError Bool
  | .boolean value => .ok value
  | _ => .error wrongKind

def takeStringList : ConfigValue → Except ConfigRuntimeError (List String)
  | .stringList values => .ok values
  | _ => .error wrongKind

/-! ## Setters -/

/-- One arm of `set`: the kind its schema entry has, whether it makes the object before it
    reads the value, and the change, or the error that reading the value ends with. -/
structure Setter (α : Type) where
  kind : ConfigValueKind
  entryFirst : Bool
  write : String → ConfigValue → Except ConfigRuntimeError (α → α)

section Arms

variable {α γ : Type}

/-- `a.field = Some(take(value)?)`. -/
def store (take : String → ConfigValue → Except ConfigRuntimeError γ) (put : α → Option γ → α) (path : String) (value : ConfigValue) :
    Except ConfigRuntimeError (α → α) := do
  let x ← take path value
  return fun a => put a (some x)

def setText (put : α → Option String → α) : Setter α := ⟨.string, true, store (fun _ value => takeString value) put⟩

def setTexts (put : α → Option (List String) → α) : Setter α := ⟨.stringList, true, store (fun _ value => takeStringList value) put⟩

def setPositive (put : α → Option UInt32 → α) : Setter α :=
  ⟨.positiveInteger, true, store (fun _ value => takePositiveInteger value) put⟩

def setNatural (put : α → Option UInt64 → α) : Setter α :=
  ⟨.nonNegativeInteger, true, store (fun _ value => takeNonNegativeInteger value) put⟩

def setBoolean (put : α → Option Bool → α) : Setter α := ⟨.boolean, true, store (fun _ value => takeBoolean value) put⟩

/-- A text that a parser reads. -/
def setParsed (entryFirst : Bool) (parse : String → String → Except ConfigRuntimeError γ) (put : α → Option γ → α) : Setter α :=
  ⟨.string, entryFirst, store (fun path value => do parse path (← takeString value)) put⟩

/-- A list whose texts a parser reads. -/
def setParsedList (parse : String → String → Except ConfigRuntimeError γ) (put : α → Option (List γ) → α) : Setter α :=
  ⟨.stringList, true, store (fun path value => do (← takeStringList value).mapM (parse path)) put⟩

end Arms

abbrev Setters (α : Type) := List (String × Setter α)

def BootstrapProviderLayer.setters : Setters BootstrapProviderLayer := [
  ("profile", setText fun provider value => { provider with profile := value }),
  ("model", setText fun provider value => { provider with model := value })]

def RuntimeLayer.setters : Setters RuntimeLayer := [
  ("max_output_bytes", setPositive fun runtime value => { runtime with maxOutputBytes := value })]

def AgentLayer.setters : Setters AgentLayer := [
  ("default_model_preset", setText fun agent value => { agent with defaultModelPreset := value })]

/-- A route, a catalog mode and a pricing source are read before the entry of the profile is made. -/
def ProviderProfileLayer.setters : Setters ProviderProfileLayer := [
  ("template", setText fun profile value => { profile with template := value }),
  ("credential", setText fun profile value => { profile with credential := value }),
  ("base_url", setText fun profile value => { profile with baseUrl := value }),
  ("dialects", setParsedList parseDialect fun profile value => { profile with dialects := value }),
  ("allow_insecure_loopback", setBoolean fun profile value => { profile with allowInsecureLoopback := value }),
  ("routes.responses", setParsed false normalizeRoute fun profile value =>
    { profile with routes := { profile.routes with responses := value } }),
  ("routes.chat_completions", setParsed false normalizeRoute fun profile value =>
    { profile with routes := { profile.routes with chatCompletions := value } }),
  ("routes.messages", setParsed false normalizeRoute fun profile value =>
    { profile with routes := { profile.routes with messages := value } }),
  ("routes.models", setParsed false normalizeRoute fun profile value =>
    { profile with routes := { profile.routes with models := value } }),
  ("catalog.mode", setParsed false parseCatalogMode fun profile value => { profile with catalog := { mode := value } }),
  ("pricing.source", setParsed false parsePricingSource fun profile value => { profile with pricing := { source := value } })]

def ModelPresetLayer.setters : Setters ModelPresetLayer := [
  ("provider", setText fun preset value => { preset with provider := value }),
  ("model", setText fun preset value => { preset with model := value }),
  ("dialect", setParsed true parseDialect fun preset value => { preset with dialect := value }),
  ("reasoning_effort", setText fun preset value => { preset with reasoningEffort := value }),
  ("service_tier", setText fun preset value => { preset with serviceTier := value }),
  ("max_output_tokens", setPositive fun preset value => { preset with maxOutputTokens := value }),
  ("context_mode", setText fun preset value => { preset with contextMode := value }),
  ("favorite", setBoolean fun preset value => { preset with favorite := value }),
  ("fallback", setTexts fun preset value => { preset with fallback := value })]

def PriceScheduleLayer.setters : Setters PriceScheduleLayer := [
  ("version", setText fun schedule value => { schedule with version := value }),
  ("currency", setText fun schedule value => { schedule with currency := value }),
  ("provider", setText fun schedule value => { schedule with provider := value }),
  ("model", setText fun schedule value => { schedule with model := value }),
  ("dialect", setParsed true parseDialect fun schedule value => { schedule with dialect := value }),
  ("service_tier", setText fun schedule value => { schedule with serviceTier := value }),
  ("minimum_context_tokens", setNatural fun schedule value => { schedule with minimumContextTokens := value }),
  ("maximum_context_tokens", setNatural fun schedule value => { schedule with maximumContextTokens := value }),
  ("effective_from", setText fun schedule value => { schedule with effectiveFrom := value }),
  ("effective_until", setText fun schedule value => { schedule with effectiveUntil := value }),
  ("source", setParsed true parsePriceScheduleSource fun schedule value => { schedule with source := value }),
  ("source_ref", setText fun schedule value => { schedule with sourceRef := value }),
  ("rates.input_micros_per_million", setNatural fun schedule value =>
    { schedule with rates := { schedule.rates with inputMicrosPerMillion := value } }),
  ("rates.cached_input_micros_per_million", setNatural fun schedule value =>
    { schedule with rates := { schedule.rates with cachedInputMicrosPerMillion := value } }),
  ("rates.cache_write_micros_per_million", setNatural fun schedule value =>
    { schedule with rates := { schedule.rates with cacheWriteMicrosPerMillion := value } }),
  ("rates.output_micros_per_million", setNatural fun schedule value =>
    { schedule with rates := { schedule.rates with outputMicrosPerMillion := value } }),
  ("rates.reasoning_output_micros_per_million", setNatural fun schedule value =>
    { schedule with rates := { schedule.rates with reasoningOutputMicrosPerMillion := value } })]

def UiLayer.setters : Setters UiLayer := [
  ("statusline.preset", setParsed true parseStatuslinePreset fun ui value =>
    { ui with statusline := { ui.statusline with preset := value } }),
  ("statusline.expand", setParsed true parseStatuslineExpansion fun ui value =>
    { ui with statusline := { ui.statusline with expand := value } }),
  ("statusline.primary_usage_window", setText fun ui value =>
    { ui with statusline := { ui.statusline with primaryUsageWindow := value } }),
  ("statusline.custom.left", setTexts fun ui value =>
    { ui with statusline := { ui.statusline with custom := { ui.statusline.custom with left := value } } }),
  ("statusline.custom.right", setTexts fun ui value =>
    { ui with statusline := { ui.statusline with custom := { ui.statusline.custom with right := value } } })]

def UsageWindowLayer.setters : Setters UsageWindowLayer := [
  ("start", setText fun window value => { window with start := value }),
  ("end", setText fun window value => { window with finish := value }),
  ("days", setParsedList parseWeekday fun window value => { window with days := value }),
  ("timezone", setText fun window value => { window with timezone := value })]

/-! ## Resetters -/

/-- One arm of `reset`: whether an absent object ends it, and the change. -/
structure Resetter (α : Type) where
  endsAbsent : Bool
  clear : α → α

abbrev Resetters (α : Type) := List (String × Resetter α)

def BootstrapProviderLayer.resetters : Resetters BootstrapProviderLayer := [
  ("profile", ⟨true, fun provider => { provider with profile := none }⟩),
  ("model", ⟨true, fun provider => { provider with model := none }⟩)]

def RuntimeLayer.resetters : Resetters RuntimeLayer := [
  ("max_output_bytes", ⟨true, fun runtime => { runtime with maxOutputBytes := none }⟩)]

def AgentLayer.resetters : Resetters AgentLayer := [
  ("default_model_preset", ⟨true, fun agent => { agent with defaultModelPreset := none }⟩)]

/-- The catalog mode and the pricing source of a profile that is absent are reset like others. -/
def ProviderProfileLayer.resetters : Resetters ProviderProfileLayer := [
  ("template", ⟨true, fun profile => { profile with template := none }⟩),
  ("credential", ⟨true, fun profile => { profile with credential := none }⟩),
  ("base_url", ⟨true, fun profile => { profile with baseUrl := none }⟩),
  ("dialects", ⟨true, fun profile => { profile with dialects := none }⟩),
  ("allow_insecure_loopback", ⟨true, fun profile => { profile with allowInsecureLoopback := none }⟩),
  ("routes.responses", ⟨true, fun profile => { profile with routes := { profile.routes with responses := none } }⟩),
  ("routes.chat_completions", ⟨true, fun profile => { profile with routes := { profile.routes with chatCompletions := none } }⟩),
  ("routes.messages", ⟨true, fun profile => { profile with routes := { profile.routes with messages := none } }⟩),
  ("routes.models", ⟨true, fun profile => { profile with routes := { profile.routes with models := none } }⟩),
  ("catalog.mode", ⟨false, fun profile => { profile with catalog := { mode := none } }⟩),
  ("pricing.source", ⟨false, fun profile => { profile with pricing := { source := none } }⟩)]

def ModelPresetLayer.resetters : Resetters ModelPresetLayer := [
  ("provider", ⟨true, fun preset => { preset with provider := none }⟩),
  ("model", ⟨true, fun preset => { preset with model := none }⟩),
  ("dialect", ⟨true, fun preset => { preset with dialect := none }⟩),
  ("reasoning_effort", ⟨true, fun preset => { preset with reasoningEffort := none }⟩),
  ("service_tier", ⟨true, fun preset => { preset with serviceTier := none }⟩),
  ("max_output_tokens", ⟨true, fun preset => { preset with maxOutputTokens := none }⟩),
  ("context_mode", ⟨true, fun preset => { preset with contextMode := none }⟩),
  ("favorite", ⟨true, fun preset => { preset with favorite := none }⟩),
  ("fallback", ⟨true, fun preset => { preset with fallback := none }⟩)]

def PriceScheduleLayer.resetters : Resetters PriceScheduleLayer := [
  ("version", ⟨true, fun schedule => { schedule with version := none }⟩),
  ("currency", ⟨true, fun schedule => { schedule with currency := none }⟩),
  ("provider", ⟨true, fun schedule => { schedule with provider := none }⟩),
  ("model", ⟨true, fun schedule => { schedule with model := none }⟩),
  ("dialect", ⟨true, fun schedule => { schedule with dialect := none }⟩),
  ("service_tier", ⟨true, fun schedule => { schedule with serviceTier := none }⟩),
  ("minimum_context_tokens", ⟨true, fun schedule => { schedule with minimumContextTokens := none }⟩),
  ("maximum_context_tokens", ⟨true, fun schedule => { schedule with maximumContextTokens := none }⟩),
  ("effective_from", ⟨true, fun schedule => { schedule with effectiveFrom := none }⟩),
  ("effective_until", ⟨true, fun schedule => { schedule with effectiveUntil := none }⟩),
  ("source", ⟨true, fun schedule => { schedule with source := none }⟩),
  ("source_ref", ⟨true, fun schedule => { schedule with sourceRef := none }⟩),
  ("rates.input_micros_per_million", ⟨true, fun schedule =>
    { schedule with rates := { schedule.rates with inputMicrosPerMillion := none } }⟩),
  ("rates.cached_input_micros_per_million", ⟨true, fun schedule =>
    { schedule with rates := { schedule.rates with cachedInputMicrosPerMillion := none } }⟩),
  ("rates.cache_write_micros_per_million", ⟨true, fun schedule =>
    { schedule with rates := { schedule.rates with cacheWriteMicrosPerMillion := none } }⟩),
  ("rates.output_micros_per_million", ⟨true, fun schedule =>
    { schedule with rates := { schedule.rates with outputMicrosPerMillion := none } }⟩),
  ("rates.reasoning_output_micros_per_million", ⟨true, fun schedule =>
    { schedule with rates := { schedule.rates with reasoningOutputMicrosPerMillion := none } }⟩)]

def UiLayer.resetters : Resetters UiLayer := [
  ("statusline.preset", ⟨true, fun ui => { ui with statusline := { ui.statusline with preset := none } }⟩),
  ("statusline.expand", ⟨true, fun ui => { ui with statusline := { ui.statusline with expand := none } }⟩),
  ("statusline.primary_usage_window", ⟨true, fun ui =>
    { ui with statusline := { ui.statusline with primaryUsageWindow := none } }⟩),
  ("statusline.custom.left", ⟨true, fun ui =>
    { ui with statusline := { ui.statusline with custom := { ui.statusline.custom with left := none } } }⟩),
  ("statusline.custom.right", ⟨true, fun ui =>
    { ui with statusline := { ui.statusline with custom := { ui.statusline.custom with right := none } } }⟩)]

def UsageWindowLayer.resetters : Resetters UsageWindowLayer := [
  ("start", ⟨true, fun window => { window with start := none }⟩),
  ("end", ⟨true, fun window => { window with finish := none }⟩),
  ("days", ⟨true, fun window => { window with days := none }⟩),
  ("timezone", ⟨true, fun window => { window with timezone := none }⟩)]

/-! ## Empty objects -/

def ProviderRoutesLayer.isEmpty (routes : ProviderRoutesLayer) : Bool :=
  routes.responses.isNone && routes.chatCompletions.isNone && routes.messages.isNone && routes.models.isNone

def CatalogLayer.isEmpty (catalog : CatalogLayer) : Bool := catalog.mode.isNone

def PricingLayer.isEmpty (pricing : PricingLayer) : Bool := pricing.source.isNone

def ProviderProfileLayer.isEmpty (profile : ProviderProfileLayer) : Bool :=
  profile.template.isNone && profile.credential.isNone && profile.baseUrl.isNone && profile.routes.isEmpty &&
    profile.dialects.isNone && profile.catalog.isEmpty && profile.pricing.isEmpty && profile.allowInsecureLoopback.isNone

def ModelPresetLayer.isEmpty (preset : ModelPresetLayer) : Bool :=
  preset.provider.isNone && preset.model.isNone && preset.dialect.isNone && preset.reasoningEffort.isNone &&
    preset.serviceTier.isNone && preset.maxOutputTokens.isNone && preset.contextMode.isNone && preset.favorite.isNone &&
    preset.fallback.isNone && preset.starter.isNone

def PriceRatesLayer.isEmpty (rates : PriceRatesLayer) : Bool :=
  rates.inputMicrosPerMillion.isNone && rates.cachedInputMicrosPerMillion.isNone && rates.cacheWriteMicrosPerMillion.isNone &&
    rates.outputMicrosPerMillion.isNone && rates.reasoningOutputMicrosPerMillion.isNone

def PriceScheduleLayer.isEmpty (schedule : PriceScheduleLayer) : Bool :=
  schedule.version.isNone && schedule.currency.isNone && schedule.provider.isNone && schedule.model.isNone &&
    schedule.dialect.isNone && schedule.serviceTier.isNone && schedule.minimumContextTokens.isNone &&
    schedule.maximumContextTokens.isNone && schedule.effectiveFrom.isNone && schedule.effectiveUntil.isNone &&
    schedule.source.isNone && schedule.sourceRef.isNone && schedule.rates.isEmpty

def UsageWindowLayer.isEmptyExceptId (window : UsageWindowLayer) : Bool :=
  window.start.isNone && window.finish.isNone && window.days.isNone && window.timezone.isNone

/-- `prune_empty`. -/
def ConfigDocument.pruneEmpty (document : ConfigDocument) : ConfigDocument :=
  { document with
    providers := document.providers.retain fun profile => !profile.isEmpty
    modelPresets := document.modelPresets.retain fun preset => !preset.isEmpty
    priceSchedules := document.priceSchedules.retain fun schedule => !schedule.isEmpty
    stats := ⟨match document.stats.windows with
      | none => none
      | some windows =>
        let windows := windows.filter fun window => !window.isEmptyExceptId
        if windows.isEmpty then none else some windows⟩ }

/-! ## Routes in place -/

/-- `*value = normalize_route(..)?`, of a route that is there. -/
def normalizeRouteInPlace (path : String) (route : Option String) : Except ConfigRuntimeError Unit × Option String :=
  match route with
  | none => (.ok (), none)
  | some text =>
    match normalizeRoute path text with
    | .error e => (.error e, some text)
    | .ok text => (.ok (), some text)

/-- One route after the other: the first that cannot be normalized ends the walk. -/
def ProviderRoutesLayer.normalizeInPlace (id : String) (routes : ProviderRoutesLayer) :
    Except ConfigRuntimeError Unit × ProviderRoutesLayer :=
  let path (name : String) : String := dotted (dotted (dotted "providers" id) "routes") name
  match normalizeRouteInPlace (path "responses") routes.responses with
  | (.error e, route) => (.error e, { routes with responses := route })
  | (.ok (), route) =>
    let routes := { routes with responses := route }
    match normalizeRouteInPlace (path "chat_completions") routes.chatCompletions with
    | (.error e, route) => (.error e, { routes with chatCompletions := route })
    | (.ok (), route) =>
      let routes := { routes with chatCompletions := route }
      match normalizeRouteInPlace (path "messages") routes.messages with
      | (.error e, route) => (.error e, { routes with messages := route })
      | (.ok (), route) =>
        let routes := { routes with messages := route }
        match normalizeRouteInPlace (path "models") routes.models with
        | (.error e, route) => (.error e, { routes with models := route })
        | (.ok (), route) => (.ok (), { routes with models := route })

def normalizeProfilesInPlace (providers : OrdMap String ProviderProfileLayer) :
    List (String × ProviderProfileLayer) → Except ConfigRuntimeError Unit × OrdMap String ProviderProfileLayer
  | [] => (.ok (), providers)
  | (id, profile) :: profiles =>
    match profile.routes.normalizeInPlace id with
    | (.error e, routes) => (.error e, providers.insert id { profile with routes := routes })
    | (.ok (), routes) => normalizeProfilesInPlace (providers.insert id { profile with routes := routes }) profiles

/-- `normalize_routes`, with what it leaves where it fails. -/
def ConfigDocument.normalizeInPlace (document : ConfigDocument) : Except ConfigRuntimeError Unit × ConfigDocument :=
  match normalizeProfilesInPlace document.providers document.providers.entries with
  | (result, providers) => (result, { document with providers := providers })

/-! ## Places -/

/-- Where a record is in a document: the record, or the default that `or_default` puts there. -/
structure Place (α : Type) where
  find : ConfigDocument → Option α
  put : ConfigDocument → α → ConfigDocument
  default : α

/-- `window_mut`, of a window with the id of the new one. -/
def putWindow (window : UsageWindowLayer) : List UsageWindowLayer → List UsageWindowLayer
  | [] => [window]
  | head :: windows => if head.id = window.id then window :: windows else head :: putWindow window windows

inductive Location where
  | provider
  | runtime
  | agent
  | profile (id : String)
  | preset (id : String)
  | schedule (id : String)
  | ui
  | window (id : String)
  deriving DecidableEq

namespace Location

abbrev Record : Location → Type
  | .provider => BootstrapProviderLayer
  | .runtime => RuntimeLayer
  | .agent => AgentLayer
  | .profile _ => ProviderProfileLayer
  | .preset _ => ModelPresetLayer
  | .schedule _ => PriceScheduleLayer
  | .ui => UiLayer
  | .window _ => UsageWindowLayer

def place : (location : Location) → Place location.Record
  | .provider => ⟨fun d => some d.provider, fun d provider => { d with provider := provider }, ⟨none, none⟩⟩
  | .runtime => ⟨fun d => some d.runtime, fun d runtime => { d with runtime := runtime }, ⟨none⟩⟩
  | .agent => ⟨fun d => some d.agent, fun d agent => { d with agent := agent }, ⟨none⟩⟩
  | .profile id => ⟨fun d => d.providers.get id, fun d profile => { d with providers := d.providers.insert id profile }, .default⟩
  | .preset id => ⟨fun d => d.modelPresets.get id, fun d preset => { d with modelPresets := d.modelPresets.insert id preset }, .default⟩
  | .schedule id => ⟨fun d => d.priceSchedules.get id,
      fun d schedule => { d with priceSchedules := d.priceSchedules.insert id schedule }, .default⟩
  | .ui => ⟨fun d => some d.ui, fun d ui => { d with ui := ui }, .default⟩
  | .window id => ⟨fun d => d.windows.find? fun window => window.id = id,
      fun d window => { d with stats := ⟨some (putWindow window d.windows)⟩ }, ⟨id, none, none, none, none⟩⟩

def setters : (location : Location) → Setters location.Record
  | .provider => BootstrapProviderLayer.setters
  | .runtime => RuntimeLayer.setters
  | .agent => AgentLayer.setters
  | .profile _ => ProviderProfileLayer.setters
  | .preset _ => ModelPresetLayer.setters
  | .schedule _ => PriceScheduleLayer.setters
  | .ui => UiLayer.setters
  | .window _ => UsageWindowLayer.setters

def resetters : (location : Location) → Resetters location.Record
  | .provider => BootstrapProviderLayer.resetters
  | .runtime => RuntimeLayer.resetters
  | .agent => AgentLayer.resetters
  | .profile _ => ProviderProfileLayer.resetters
  | .preset _ => ModelPresetLayer.resetters
  | .schedule _ => PriceScheduleLayer.resetters
  | .ui => UiLayer.resetters
  | .window _ => UsageWindowLayer.resetters

/-- `validate_id`, of the id of an object. -/
def checkId : Location → Except ConfigRuntimeError Unit
  | .profile id => validateId "providers.<id>" id
  | .preset id => validateId "model_presets.<id>" id
  | .schedule id => validateId "price_schedules.<id>" id
  | .window id => validateId "stats.windows.<id>" id
  | _ => .ok ()

end Location

/-- The place that a path is in, and the name of its field there. -/
def locate : List String → Option (Location × String)
  | "provider" :: rest => some (.provider, joined rest)
  | "runtime" :: rest => some (.runtime, joined rest)
  | "agent" :: rest => some (.agent, joined rest)
  | "providers" :: id :: rest => some (.profile id, joined rest)
  | "model_presets" :: id :: rest => some (.preset id, joined rest)
  | "price_schedules" :: id :: rest => some (.schedule id, joined rest)
  | "ui" :: rest => some (.ui, joined rest)
  | "stats" :: "windows" :: id :: rest => some (.window id, joined rest)
  | _ => none

def splitPath (path : String) : Except ConfigRuntimeError (List String) := do
  require (∀ segment ∈ segments path, segment ≠ "") (.unknownObject path)
  return segments path

/-! ## Edits of a document -/

def requireScope (descriptor : ConfigSchemaEntry) (scope : ConfigScope) : Except ConfigRuntimeError Unit :=
  require (scope.isWritable = true ∧ scope ∈ descriptor.scopes) (.readOnlyScope scope)

/-- What `set` and `reset` check of a path. -/
def checkPath (scope : ConfigScope) (path : String) : Except ConfigRuntimeError ConfigSchemaEntry := do
  let descriptor ← requireSchemaEntry path
  requireScope descriptor scope
  require (descriptor.editor ≠ "starter_provenance") (.readOnlyScope scope)
  return descriptor

/-- What `set` checks before it changes anything, and the segments of the path. -/
def checkSet (scope : ConfigScope) (path : String) (value : ConfigValue) : Except ConfigRuntimeError (List String) := do
  let descriptor ← checkPath scope path
  require (descriptor.valueKind = value.kind) (.wrongType path descriptor.valueKind value.kind)
  splitPath path

namespace ConfigDocument

/-- The match of `set`: the schema has let through only fields that a table has. -/
def assign (document : ConfigDocument) (segments : List String) (path : String) (value : ConfigValue) :
    Except ConfigRuntimeError Unit × ConfigDocument :=
  match locate segments with
  | none => (.error (.unknownObject path), document)
  | some (location, name) =>
    match location.checkId, location.setters.lookup name with
    | .error e, _ => (.error e, document)
    | .ok (), none => (.error (.unknownObject path), document)
    | .ok (), some setter =>
      let place := location.place
      let record := (place.find document).getD place.default
      match setter.write path value with
      | .error e => (.error e, if setter.entryFirst then place.put document record else document)
      | .ok update => (.ok (), place.put document (update record))

/-- `set`, with the document after it. -/
def set (document : ConfigDocument) (scope : ConfigScope) (path : String) (value : ConfigValue) :
    Except ConfigRuntimeError Unit × ConfigDocument :=
  match checkSet scope path value with
  | .error e => (.error e, document)
  | .ok segments =>
    match document.assign segments path value with
    | (.error e, document) => (.error e, document)
    | (.ok (), document) =>
      match document.normalizeInPlace with
      | (.error e, document) => (.error e, document)
      | (.ok (), document) => (document.validateLayer, document)

/-- The match of `reset`: nothing where it ends at once. -/
def clear (document : ConfigDocument) (segments : List String) (path : String) : Except ConfigRuntimeError (Option ConfigDocument) :=
  match locate segments with
  | none => .error (.unknownObject path)
  | some (location, name) =>
    match location.resetters.lookup name, location.place.find document with
    | none, _ => .error (.unknownObject path)
    | some resetter, none => .ok (if resetter.endsAbsent then none else some document)
    | some resetter, some record => .ok (some (location.place.put document (resetter.clear record)))

/-- `reset`, with the document after it. -/
def reset (document : ConfigDocument) (scope : ConfigScope) (path : String) : Except ConfigRuntimeError Unit × ConfigDocument :=
  match (do let _ ← checkPath scope path; splitPath path) with
  | .error e => (.error e, document)
  | .ok segments =>
    match document.clear segments path with
    | .error e => (.error e, document)
    | .ok none => (.ok (), document)
    | .ok (some document) => (document.pruneEmpty.validateLayer, document.pruneEmpty)

/-- `get`. -/
def get (document : ConfigDocument) (path : String) : Except ConfigRuntimeError (Option ConfigValue) := do
  let _ ← requireSchemaEntry path
  return document.flatten.get path

end ConfigDocument

/-! ## Edits of a draft -/

/-- `parse_config_value`; `listLiteral` is the TOML reader of a list of texts. -/
def parseConfigValue (listLiteral : String → Option (List String)) (path raw : String) : Except ConfigRuntimeError ConfigValue := do
  let descriptor ← requireSchemaEntry path
  let value ← match descriptor.valueKind with
    | .string => .ok (.string raw)
    | .positiveInteger =>
      okOr ((parseUnsigned (2 ^ 32) raw.toList).bind fun value =>
        if 0 < value then some (.positiveInteger (UInt32.ofNat value)) else none) (invalid path "expected a positive 32-bit integer")
    | .nonNegativeInteger =>
      okOr ((parseUnsigned (2 ^ 64) raw.toList).map fun value => .nonNegativeInteger (UInt64.ofNat value))
        (invalid path "expected a non-negative 64-bit integer")
    | .boolean =>
      match raw with
      | "true" => .ok (.boolean true)
      | "false" => .ok (.boolean false)
      | _ => .error (invalid path "expected true or false")
    | .stringList => okOr ((listLiteral raw).map .stringList) (invalid path "expected a TOML array of strings")
  validateValue path value
  return value

namespace ConfigDraft

def set (draft : ConfigDraft) (path : String) (value : ConfigValue) : Except ConfigRuntimeError Unit × ConfigDraft :=
  match draft.document.set draft.scope path value with
  | (result, document) => (result, { draft with document := document })

def setRaw (listLiteral : String → Option (List String)) (draft : ConfigDraft) (path raw : String) :
    Except ConfigRuntimeError Unit × ConfigDraft :=
  match parseConfigValue listLiteral path raw with
  | .error e => (.error e, draft)
  | .ok value => draft.set path value

def reset (draft : ConfigDraft) (path : String) : Except ConfigRuntimeError Unit × ConfigDraft :=
  match draft.document.reset draft.scope path with
  | (result, document) => (result, { draft with document := document })

end ConfigDraft

end GreenTyper.Config
