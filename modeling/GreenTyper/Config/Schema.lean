/-
  GreenTyper.Config.Schema — configured values, the schema that owns their paths, and what
  is checked of one value (`config/runtime.rs`).

  A path is a text of segments between dots. The schema has a pattern for each path, with
  `<id>` for the id of an object; a value at a path has the kind of its entry.
-/

import GreenTyper.Config.Layers
import GreenTyper.Lib.Paths
import GreenTyper.Provider.Catalog
import GreenTyper.Usage.Windows

namespace GreenTyper.Config

open Lib Provider Usage

def configFileSchemaVersion : UInt16 := 2
def maxConfigFileBytes : Nat := 1024 * 1024
def maxModelPresetFallbackCandidates : Nat := 16
def maxConfigListItems : Nat := 128

inductive ConfigScope where
  | builtIn
  | user
  | project
  | cli
  deriving DecidableEq

def ConfigScope.isWritable : ConfigScope → Bool
  | .user | .project => true
  | .builtIn | .cli => false

inductive ConfigApplicationTiming where
  | immediate
  | nextConfigEpoch
  | nextTurn
  | nextProviderEpoch
  | nextTurnAndProviderEpoch
  | restart
  deriving DecidableEq

inductive ConfigValueKind where
  | string
  | positiveInteger
  | nonNegativeInteger
  | boolean
  | stringList
  deriving DecidableEq

inductive ConfigValue where
  | string (value : String)
  | positiveInteger (value : UInt32)
  | nonNegativeInteger (value : UInt64)
  | boolean (value : Bool)
  | stringList (values : List String)
  deriving DecidableEq

def ConfigValue.kind : ConfigValue → ConfigValueKind
  | .string _ => .string
  | .positiveInteger _ => .positiveInteger
  | .nonNegativeInteger _ => .nonNegativeInteger
  | .boolean _ => .boolean
  | .stringList _ => .stringList

/-! ## Errors -/

inductive ConfigErrorCategory where
  | unknownObject
  | wrongType
  | invalidValue
  | readOnlyScope
  | revisionConflict
  | secretReadForbidden
  | repairRequired
  | resourceBusy
  | io
  deriving DecidableEq

structure ConfigRepairIssue where
  scope : ConfigScope
  category : ConfigErrorCategory
  backupAvailable : Bool
  deriving DecidableEq

/-- A text, or the error of another part, which the source writes out. -/
inductive Reason where
  | text (text : String)
  | config (source : ConfigError)
  | provider (source : ProviderError)
  | pricing (source : PricingError)
  | usage (source : UsageError)
  deriving DecidableEq

/-- A SHA-256 digest. -/
abbrev ConfigRevision := List Byte

inductive ConfigRuntimeError where
  | unknownObject (path : String)
  | wrongType (path : String) (expected actual : ConfigValueKind)
  | invalidValue (path : String) (reason : Reason)
  | readOnlyScope (scope : ConfigScope)
  | revisionConflict (expected actual : ConfigRevision)
  | secretReadForbidden (path : String)
  | repairRequired (issues : List ConfigRepairIssue)
  | backupUnavailable (scope : ConfigScope)
  | unsupportedSchema (supported actual : UInt16)
  | parse (detail : String)
  | locked
  | io
  /-- An `expect` that failed. -/
  | panicked (message : String)
  deriving DecidableEq

def ConfigRuntimeError.category : ConfigRuntimeError → ConfigErrorCategory
  | .unknownObject _ => .unknownObject
  | .wrongType _ _ _ => .wrongType
  | .invalidValue _ _ | .backupUnavailable _ | .unsupportedSchema _ _ | .parse _ => .invalidValue
  | .readOnlyScope _ => .readOnlyScope
  | .revisionConflict _ _ => .revisionConflict
  | .secretReadForbidden _ => .secretReadForbidden
  | .repairRequired _ => .repairRequired
  | .locked => .resourceBusy
  | .io | .panicked _ => .io

def invalid (path reason : String) : ConfigRuntimeError := .invalidValue path (.text reason)

/-! ## Schema -/

/-- The pattern of a path is kept as its segments. -/
structure ConfigSchemaEntry where
  pathPattern : List String
  valueKind : ConfigValueKind
  scopes : List ConfigScope
  timing : ConfigApplicationTiming
  credentialReference : Bool
  editor : String
  deriving DecidableEq

def allScopes : List ConfigScope := [.builtIn, .user, .project, .cli]
def fileScopes : List ConfigScope := [.user, .project]

def configSchema : List ConfigSchemaEntry := [
  ⟨["provider", "profile"], .string, allScopes, .nextProviderEpoch, false, "provider_selector"⟩,
  ⟨["provider", "model"], .string, allScopes, .nextProviderEpoch, false, "model_selector"⟩,
  ⟨["runtime", "max_output_bytes"], .positiveInteger, allScopes, .nextTurn, false, "integer"⟩,
  ⟨["agent", "default_model_preset"], .string, fileScopes, .nextTurn, false, "preset_selector"⟩,
  ⟨["providers", "<id>", "template"], .string, fileScopes, .nextProviderEpoch, false, "provider_template"⟩,
  ⟨["providers", "<id>", "credential"], .string, fileScopes, .nextProviderEpoch, true, "credential_binding"⟩,
  ⟨["providers", "<id>", "base_url"], .string, fileScopes, .nextProviderEpoch, false, "url"⟩,
  ⟨["providers", "<id>", "routes", "responses"], .string, fileScopes, .nextProviderEpoch, false, "route"⟩,
  ⟨["providers", "<id>", "routes", "chat_completions"], .string, fileScopes, .nextProviderEpoch, false, "route"⟩,
  ⟨["providers", "<id>", "routes", "messages"], .string, fileScopes, .nextProviderEpoch, false, "route"⟩,
  ⟨["providers", "<id>", "routes", "models"], .string, fileScopes, .nextProviderEpoch, false, "route"⟩,
  ⟨["providers", "<id>", "dialects"], .stringList, fileScopes, .nextProviderEpoch, false, "dialect_list"⟩,
  ⟨["providers", "<id>", "catalog", "mode"], .string, fileScopes, .nextProviderEpoch, false, "catalog_mode"⟩,
  ⟨["providers", "<id>", "pricing", "source"], .string, fileScopes, .nextProviderEpoch, false, "pricing_source"⟩,
  ⟨["providers", "<id>", "allow_insecure_loopback"], .boolean, fileScopes, .nextProviderEpoch, false, "toggle"⟩,
  ⟨["model_presets", "<id>", "provider"], .string, fileScopes, .nextTurnAndProviderEpoch, false, "provider_selector"⟩,
  ⟨["model_presets", "<id>", "model"], .string, fileScopes, .nextTurnAndProviderEpoch, false, "model_selector"⟩,
  ⟨["model_presets", "<id>", "dialect"], .string, fileScopes, .nextTurnAndProviderEpoch, false, "dialect"⟩,
  ⟨["model_presets", "<id>", "reasoning_effort"], .string, fileScopes, .nextTurn, false, "reasoning_effort"⟩,
  ⟨["model_presets", "<id>", "service_tier"], .string, fileScopes, .nextTurn, false, "service_tier"⟩,
  ⟨["model_presets", "<id>", "max_output_tokens"], .positiveInteger, fileScopes, .nextTurn, false, "integer"⟩,
  ⟨["model_presets", "<id>", "context_mode"], .string, fileScopes, .nextTurn, false, "context_mode"⟩,
  ⟨["model_presets", "<id>", "favorite"], .boolean, fileScopes, .nextConfigEpoch, false, "toggle"⟩,
  ⟨["model_presets", "<id>", "fallback"], .stringList, fileScopes, .nextTurn, false, "preset_list"⟩,
  ⟨["model_presets", "<id>", "starter", "catalog_key"], .string, fileScopes, .nextConfigEpoch, false, "starter_provenance"⟩,
  ⟨["model_presets", "<id>", "starter", "seed_revision"], .string, fileScopes, .nextConfigEpoch, false, "starter_provenance"⟩,
  ⟨["model_presets", "<id>", "starter", "provider"], .string, fileScopes, .nextConfigEpoch, false, "starter_provenance"⟩,
  ⟨["model_presets", "<id>", "starter", "model"], .string, fileScopes, .nextConfigEpoch, false, "starter_provenance"⟩,
  ⟨["model_presets", "<id>", "starter", "dialect"], .string, fileScopes, .nextConfigEpoch, false, "starter_provenance"⟩,
  ⟨["price_schedules", "<id>", "version"], .string, fileScopes, .nextConfigEpoch, false, "price_schedule_version"⟩,
  ⟨["price_schedules", "<id>", "currency"], .string, fileScopes, .nextConfigEpoch, false, "currency"⟩,
  ⟨["price_schedules", "<id>", "provider"], .string, fileScopes, .nextConfigEpoch, false, "provider_selector"⟩,
  ⟨["price_schedules", "<id>", "model"], .string, fileScopes, .nextConfigEpoch, false, "model_selector"⟩,
  ⟨["price_schedules", "<id>", "dialect"], .string, fileScopes, .nextConfigEpoch, false, "dialect"⟩,
  ⟨["price_schedules", "<id>", "service_tier"], .string, fileScopes, .nextConfigEpoch, false, "service_tier"⟩,
  ⟨["price_schedules", "<id>", "minimum_context_tokens"], .nonNegativeInteger, fileScopes, .nextConfigEpoch, false, "non_negative_integer"⟩,
  ⟨["price_schedules", "<id>", "maximum_context_tokens"], .nonNegativeInteger, fileScopes, .nextConfigEpoch, false, "non_negative_integer"⟩,
  ⟨["price_schedules", "<id>", "effective_from"], .string, fileScopes, .nextConfigEpoch, false, "utc_timestamp"⟩,
  ⟨["price_schedules", "<id>", "effective_until"], .string, fileScopes, .nextConfigEpoch, false, "utc_timestamp"⟩,
  ⟨["price_schedules", "<id>", "source"], .string, fileScopes, .nextConfigEpoch, false, "pricing_source"⟩,
  ⟨["price_schedules", "<id>", "source_ref"], .string, fileScopes, .nextConfigEpoch, false, "source_reference"⟩,
  ⟨["price_schedules", "<id>", "rates", "input_micros_per_million"], .nonNegativeInteger, fileScopes, .nextConfigEpoch, false, "price_rate"⟩,
  ⟨["price_schedules", "<id>", "rates", "cached_input_micros_per_million"], .nonNegativeInteger, fileScopes, .nextConfigEpoch, false, "price_rate"⟩,
  ⟨["price_schedules", "<id>", "rates", "cache_write_micros_per_million"], .nonNegativeInteger, fileScopes, .nextConfigEpoch, false, "price_rate"⟩,
  ⟨["price_schedules", "<id>", "rates", "output_micros_per_million"], .nonNegativeInteger, fileScopes, .nextConfigEpoch, false, "price_rate"⟩,
  ⟨["price_schedules", "<id>", "rates", "reasoning_output_micros_per_million"], .nonNegativeInteger, fileScopes, .nextConfigEpoch, false, "price_rate"⟩,
  ⟨["ui", "statusline", "preset"], .string, fileScopes, .immediate, false, "statusline_preset"⟩,
  ⟨["ui", "statusline", "expand"], .string, fileScopes, .immediate, false, "expansion_policy"⟩,
  ⟨["ui", "statusline", "primary_usage_window"], .string, fileScopes, .immediate, false, "usage_window_selector"⟩,
  ⟨["ui", "statusline", "custom", "left"], .stringList, fileScopes, .immediate, false, "segment_list"⟩,
  ⟨["ui", "statusline", "custom", "right"], .stringList, fileScopes, .immediate, false, "segment_list"⟩,
  ⟨["stats", "windows", "<id>", "start"], .string, fileScopes, .nextConfigEpoch, false, "local_time"⟩,
  ⟨["stats", "windows", "<id>", "end"], .string, fileScopes, .nextConfigEpoch, false, "local_time"⟩,
  ⟨["stats", "windows", "<id>", "days"], .stringList, fileScopes, .nextConfigEpoch, false, "weekday_list"⟩,
  ⟨["stats", "windows", "<id>", "timezone"], .string, fileScopes, .nextConfigEpoch, false, "timezone"⟩]

def validateString (path value : String) : Except ConfigRuntimeError Unit := do
  require (isBlank value = false) (invalid path "value cannot be empty")
  require (trim value = value) (invalid path "value has surrounding whitespace")
  require (byteLen value ≤ maxConfigStringBytes) (invalid path "value exceeds the supported size")
  require (value.toList.any isControl = false) (invalid path "value contains control characters")

/-- Lower-case letters, digits and, after the first character, hyphens. -/
def IdText (id : String) : Prop := id ≠ "" ∧ byteLen id ≤ maxConfigIdBytes ∧ isIdText id.toList = true

instance (id : String) : Decidable (IdText id) := inferInstanceAs (Decidable (_ ∧ _ ∧ _))

def validateId (path id : String) : Except ConfigRuntimeError Unit :=
  require (IdText id) (invalid path
    "ID must start with a lowercase letter or digit and contain only lowercase ASCII letters, digits, or hyphens")

def pathMatches (pattern path : List String) : Bool :=
  pattern.length == path.length && (pattern.zip path).all fun (expected, actual) => expected == "<id>" || expected == actual

def requireSchemaEntry (path : String) : Except ConfigRuntimeError ConfigSchemaEntry := do
  require ("credentials.".toList.isPrefixOf path.toList = false ∧ "credential_values.".toList.isPrefixOf path.toList = false)
    (.secretReadForbidden path)
  let entry ← okOr (configSchema.find? fun entry => pathMatches entry.pathPattern (segments path)) (.unknownObject path)
  (entry.pathPattern.zip (segments path)).forM fun (expected, actual) =>
    if expected = "<id>" then validateId path actual else .ok ()
  return entry

def validateValue (path : String) : ConfigValue → Except ConfigRuntimeError Unit
  | .string value => do
    validateString path value
    require (pathMatches ["model_presets", "<id>", "reasoning_effort"] (segments path) = true →
      (ReasoningEffort.parse value).isSome = true) (invalid path "unknown reasoning effort")
    require (pathMatches ["model_presets", "<id>", "service_tier"] (segments path) = true →
      (ServiceTier.parse value).isSome = true) (invalid path "unknown service tier")
    require (pathMatches ["model_presets", "<id>", "context_mode"] (segments path) = true →
      (ContextMode.parse value).isSome = true) (invalid path "unknown context mode")
  | .positiveInteger value => do
    require (value ≠ 0) (invalid path "value must be greater than zero")
    require (path = "runtime.max_output_bytes" → value ≤ maxOutputBytes)
      (invalid path "value exceeds the supported output limit")
    require (pathMatches ["model_presets", "<id>", "max_output_tokens"] (segments path) = true → value ≤ maxOutputTokens)
      (invalid path "value exceeds the supported output-token limit")
  | .nonNegativeInteger _ => .ok ()
  | .boolean _ => .ok ()
  | .stringList values => do
    require (values.length ≤ maxConfigListItems) (invalid path "list exceeds the supported item count")
    validateItems path [] values
where
  validateItems (path : String) (unique : List String) : List String → Except ConfigRuntimeError Unit
    | [] => .ok ()
    | value :: values => do
      validateString path value
      require (value ∉ unique) (invalid path "list items must be unique")
      validateItems path (value :: unique) values

end GreenTyper.Config
