/-
  GreenTyper.Config.Layers — the layers that a Turn's configuration is resolved from
  (`ConfigLayer`, `ConfigLayers::resolve` of `config.rs`).

  Each value comes from the last layer that sets it, and remembers which one that was.
-/

import GreenTyper.Lib.Result
import GreenTyper.Lib.Text

namespace GreenTyper.Config

open Lib

def defaultMaxOutputBytes : UInt32 := 64 * 1024
def maxOutputBytes : UInt32 := 512 * 1024
def maxOutputTokens : UInt32 := 1024 * 1024
def maxConfigIdBytes : Nat := 64
def maxConfigStringBytes : Nat := 512

inductive ReasoningEffort where
  | none
  | minimal
  | low
  | medium
  | high
  | xHigh
  | max
  deriving DecidableEq

def ReasoningEffort.parse : String → Option ReasoningEffort
  | "none" => some .none
  | "minimal" => some .minimal
  | "low" => some .low
  | "medium" => some .medium
  | "high" => some .high
  | "xhigh" => some .xHigh
  | "max" => some .max
  | _ => Option.none

inductive ServiceTier where
  | auto
  | default
  | flex
  | scale
  | priority
  | fast
  deriving DecidableEq

def ServiceTier.parse : String → Option ServiceTier
  | "auto" => some .auto
  | "default" => some .default
  | "flex" => some .flex
  | "scale" => some .scale
  | "priority" => some .priority
  | "fast" => some .fast
  | _ => none

inductive ContextMode where
  | canonical
  | providerNative
  deriving DecidableEq

def ContextMode.parse : String → Option ContextMode
  | "canonical" => some .canonical
  | "provider_native" => some .providerNative
  | _ => none

inductive ConfigSource where
  | builtIn
  | user
  | project
  | cli
  deriving DecidableEq

inductive ConfigError where
  | missingRequired (key : String)
  | emptyString (key : String)
  | surroundingWhitespace (key : String)
  | stringTooLong (key : String)
  | zeroMaxOutputBytes
  | zeroMaxOutputTokens
  | maxOutputBytesTooLarge
  | maxOutputTokensTooLarge
  | tooManyUsageWindows
  | duplicateUsageWindow
  deriving DecidableEq

structure ConfigLayer where
  providerProfile : Option String
  providerModel : Option String
  maxOutputBytes : Option UInt32
  maxOutputTokens : Option UInt32
  reasoningEffort : Option ReasoningEffort
  serviceTier : Option ServiceTier
  contextMode : Option ContextMode
  deriving DecidableEq

def ConfigLayer.default : ConfigLayer := ⟨none, none, none, none, none, none, none⟩

structure ConfigLayers where
  builtIn : ConfigLayer
  user : ConfigLayer
  project : ConfigLayer
  cli : ConfigLayer
  deriving DecidableEq

structure Sourced (α : Type) where
  value : α
  source : ConfigSource
  deriving DecidableEq

structure ResolvedConfig where
  providerProfile : Sourced String
  providerModel : Sourced String
  maxOutputBytes : Sourced UInt32
  maxOutputTokens : Option (Sourced UInt32)
  reasoningEffort : Option (Sourced ReasoningEffort)
  serviceTier : Option (Sourced ServiceTier)
  contextMode : Sourced ContextMode
  deriving DecidableEq

namespace ConfigLayer

def validateText (key value : String) : Except ConfigError Unit := do
  require (isBlank value = false) (.emptyString key)
  require (trim value = value) (.surroundingWhitespace key)
  require (byteLen value ≤ maxConfigStringBytes) (.stringTooLong key)

def validateBytes (value : UInt32) : Except ConfigError Unit := do
  require (value ≠ 0) .zeroMaxOutputBytes
  require (value ≤ Config.maxOutputBytes) .maxOutputBytesTooLarge

def validateTokens (value : UInt32) : Except ConfigError Unit := do
  require (value ≠ 0) .zeroMaxOutputTokens
  require (value ≤ Config.maxOutputTokens) .maxOutputTokensTooLarge

/-- `validate_layer`. -/
def validate (layer : ConfigLayer) : Except ConfigError Unit := do
  layer.providerProfile.forM (validateText "provider.profile")
  layer.providerModel.forM (validateText "provider.model")
  layer.maxOutputBytes.forM validateBytes
  layer.maxOutputTokens.forM validateTokens

end ConfigLayer

namespace ConfigLayers

/-- `resolve_optional`: the value of the last layer that has one. -/
def resolveOptional {α : Type} (layers : ConfigLayers) (read : ConfigLayer → Option α) : Option (Sourced α) :=
  [(read layers.builtIn, ConfigSource.builtIn), (read layers.user, .user), (read layers.project, .project),
    (read layers.cli, .cli)].foldl (fun found entry => (entry.1.map (Sourced.mk · entry.2)).or found) none

def resolve (layers : ConfigLayers) : Except ConfigError ResolvedConfig := do
  layers.builtIn.validate
  layers.user.validate
  layers.project.validate
  layers.cli.validate
  let providerProfile ← okOr (layers.resolveOptional (·.providerProfile)) (.missingRequired "provider.profile")
  let providerModel ← okOr (layers.resolveOptional (·.providerModel)) (.missingRequired "provider.model")
  let maxOutputBytes ← okOr (layers.resolveOptional (·.maxOutputBytes)) (.missingRequired "runtime.max_output_bytes")
  ConfigLayer.validateBytes maxOutputBytes.value
  let maxOutputTokens := layers.resolveOptional (·.maxOutputTokens)
  maxOutputTokens.forM fun tokens => ConfigLayer.validateTokens tokens.value
  let contextMode ← okOr (layers.resolveOptional (·.contextMode)) (.missingRequired "context.mode")
  return ⟨providerProfile, providerModel, maxOutputBytes, maxOutputTokens, layers.resolveOptional (·.reasoningEffort),
    layers.resolveOptional (·.serviceTier), contextMode⟩

/-- A value that is resolved is one of a layer. -/
theorem resolveOptional_mem {α : Type} {layers : ConfigLayers} {read : ConfigLayer → Option α} {value : Sourced α}
    (h : layers.resolveOptional read = some value) :
    ∃ layer ∈ [layers.builtIn, layers.user, layers.project, layers.cli], read layer = some value.value := by
  unfold resolveOptional at h
  simp only [List.foldl_cons, List.foldl_nil, Option.or_eq_some_iff, Option.map_eq_some_iff] at h
  rcases h with ⟨_, hread, rfl⟩ | ⟨_, ⟨_, hread, rfl⟩ | ⟨_, ⟨_, hread, rfl⟩ | ⟨_, ⟨_, hread, rfl⟩ | ⟨_, hnone⟩⟩⟩⟩
  · exact ⟨layers.cli, by simp, hread⟩
  · exact ⟨layers.project, by simp, hread⟩
  · exact ⟨layers.user, by simp, hread⟩
  · exact ⟨layers.builtIn, by simp, hread⟩
  · cases hnone

end ConfigLayers

/-- What the checks of the layers say of a resolved configuration. -/
structure ResolvedConfig.Checked (config : ResolvedConfig) : Prop where
  providerProfile : byteLen config.providerProfile.value ≤ maxConfigStringBytes
  providerModel : byteLen config.providerModel.value ≤ maxConfigStringBytes
  maxOutputTokens : ∀ tokens, config.maxOutputTokens = some tokens → tokens.value ≤ Config.maxOutputTokens

theorem ConfigLayers.resolve_checked {layers : ConfigLayers} {config : ResolvedConfig} (h : layers.resolve = .ok config) :
    config.Checked := by
  unfold resolve at h
  simp only [bind_ok, exists_unit, okOr_ok, pure, Except.pure, Except.ok.injEq] at h
  obtain ⟨hbuiltIn, huser, hproject, hcli, profile, hprofile, model, hmodel, _, _, _, htokens, _, _, rfl⟩ := h
  have hlayers : ∀ layer ∈ [layers.builtIn, layers.user, layers.project, layers.cli], layer.validate = .ok () := by
    simp only [List.forall_mem_cons, List.not_mem_nil, false_implies, implies_true, and_true]
    exact ⟨hbuiltIn, huser, hproject, hcli⟩
  have htext : ∀ {key value : String}, ConfigLayer.validateText key value = .ok () → byteLen value ≤ maxConfigStringBytes := by
    intro key value hvalid
    unfold ConfigLayer.validateText at hvalid
    simp only [seq_ok, require_ok] at hvalid
    exact hvalid.2.2
  refine ⟨?_, ?_, ?_⟩
  · obtain ⟨layer, hmem, hread⟩ := resolveOptional_mem hprofile
    have hlayer := hlayers layer hmem
    unfold ConfigLayer.validate at hlayer
    simp only [seq_ok] at hlayer
    exact htext (option_forM_ok.mp hlayer.1 _ hread)
  · obtain ⟨layer, hmem, hread⟩ := resolveOptional_mem hmodel
    have hlayer := hlayers layer hmem
    unfold ConfigLayer.validate at hlayer
    simp only [seq_ok] at hlayer
    exact htext (option_forM_ok.mp hlayer.2.1 _ hread)
  · intro tokens hread
    have hvalid := option_forM_ok.mp htokens tokens hread
    unfold ConfigLayer.validateTokens at hvalid
    simp only [seq_ok, require_ok] at hvalid
    exact hvalid.2

end GreenTyper.Config
