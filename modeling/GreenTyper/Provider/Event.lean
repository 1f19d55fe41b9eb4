/-
  GreenTyper.Provider.Event — what a Provider answers, whatever its dialect (`provider.rs`).

  Tool calls and usage records exist only as their constructors make them, so each carries
  the check it passed.
-/

import GreenTyper.Lib.Result
import GreenTyper.Lib.Text

namespace GreenTyper.Provider

open Lib

def maxProviderIdBytes : Nat := 512
def maxProviderErrorBytes : Nat := 4096
def maxProviderToolArgumentBytes : Nat := 64 * 1024
def maxProviderToolOutputBytes : Nat := 256 * 1024
def maxServiceTierBytes : Nat := 64

/-- `MAX_OUTPUT_BYTES` of the configuration. -/
def maxOutputBytes : Nat := 512 * 1024

inductive ProviderDialect where
  | responses
  | chatCompletions
  | messages
deriving DecidableEq, Repr

def ProviderDialect.asStr : ProviderDialect → String
  | .responses => "responses"
  | .chatCompletions => "chat_completions"
  | .messages => "messages"

inductive ProviderUnavailableStage where
  | beforeResponse
  | beforeFirstEvent
  | afterFirstEvent
deriving DecidableEq, Repr

inductive ProviderError where
  | invalidConfiguration (reason : String)
  | invalidRequest (reason : String)
  | invalidResponse (reason : String)
  | unavailable (stage : ProviderUnavailableStage) (diagnosticBytes : Nat)
deriving DecidableEq, Repr

def ProviderError.unavailableDuring (stage : ProviderUnavailableStage) (message : String) : ProviderError :=
  .unavailable stage (min (byteLen message) maxProviderErrorBytes)

/-- `ProviderError::unavailable`. -/
def ProviderError.unavailableNow (message : String) : ProviderError := .unavailableDuring .beforeResponse message

def ProviderError.unavailableStage : ProviderError → Option ProviderUnavailableStage
  | .unavailable stage _ => some stage
  | _ => none

/-- Text that a Provider reports: trimmed, not empty, bounded and without control characters. -/
def ProviderText (maxBytes : Nat) (value : String) : Prop :=
  isBlank value = false ∧ trim value = value ∧ byteLen value ≤ maxBytes ∧ value.toList.any isControl = false

instance (maxBytes : Nat) (value : String) : Decidable (ProviderText maxBytes value) :=
  inferInstanceAs (Decidable (_ ∧ _ ∧ _ ∧ _))

def validateProviderText (field value : String) (maxBytes : Nat) : Except ProviderError Unit :=
  if isBlank value ∨ trim value ≠ value ∨ byteLen value > maxBytes ∨ value.toList.any isControl then
    .error (.invalidResponse field)
  else .ok ()

theorem validateProviderText_ok {field value : String} {maxBytes : Nat} :
    validateProviderText field value maxBytes = .ok () ↔ ProviderText maxBytes value := by
  rw [validateProviderText, ProviderText]
  split
  · rename_i h
    simp only [reduceCtorEq, false_iff]
    rintro ⟨hblank, htrim, hlen, hcontrol⟩
    rcases h with h | h | h | h
    · rw [hblank] at h
      cases h
    · exact h htrim
    · omega
    · rw [hcontrol] at h
      cases h
  · rename_i h
    simp only [not_or, Bool.not_eq_true, Decidable.not_not, Nat.not_lt] at h
    exact ⟨fun _ => h, fun _ => rfl⟩

theorem validateProviderText_error {field value : String} {maxBytes : Nat} (h : ¬ ProviderText maxBytes value) :
    validateProviderText field value maxBytes = .error (.invalidResponse field) := by
  rw [validateProviderText]
  split
  · rfl
  · rename_i hno
    refine absurd ?_ h
    apply (@validateProviderText_ok field value maxBytes).mp
    rw [validateProviderText, if_neg hno]

inductive UsageAccuracy where
  | exact
  | estimated
deriving DecidableEq, Repr

structure UsageRecord where
  inputTokens : Option UInt64
  cachedInputTokens : Option UInt64
  cacheWriteInputTokens : Option UInt64
  outputTokens : Option UInt64
  reasoningOutputTokens : Option UInt64
  totalTokens : Option UInt64
  serviceTier : Option String
  accuracy : UsageAccuracy
  tier : ∀ value ∈ serviceTier, ProviderText maxServiceTierBytes value
deriving DecidableEq

def UsageRecord.default : UsageRecord := ⟨none, none, none, none, none, none, none, .exact, by simp⟩

def UsageRecord.new (inputTokens cachedInputTokens cacheWriteInputTokens outputTokens reasoningOutputTokens totalTokens :
    Option UInt64) (serviceTier : Option String) : Except ProviderError UsageRecord :=
  if h : ∀ value ∈ serviceTier, ProviderText maxServiceTierBytes value then
    .ok ⟨inputTokens, cachedInputTokens, cacheWriteInputTokens, outputTokens, reasoningOutputTokens, totalTokens, serviceTier,
      .exact, h⟩
  else .error (.invalidResponse "service tier")

structure ProviderToolCall where
  callId : String
  tool : String
  argumentsJson : String
  id : ProviderText maxProviderIdBytes callId
  name : ProviderText maxProviderIdBytes tool
  arguments : ProviderText maxProviderToolArgumentBytes argumentsJson
deriving DecidableEq

def ProviderToolCall.new (callId tool argumentsJson : String) : Except ProviderError ProviderToolCall :=
  if hid : ProviderText maxProviderIdBytes callId then
    if hname : ProviderText maxProviderIdBytes tool then
      if hargs : ProviderText maxProviderToolArgumentBytes argumentsJson then
        .ok ⟨callId, tool, argumentsJson, hid, hname, hargs⟩
      else .error (.invalidResponse "Provider Tool arguments")
    else .error (.invalidResponse "Provider Tool name")
  else .error (.invalidResponse "Provider Tool call ID")

inductive ProviderEvent where
  | textDelta (text : String)
  | functionCall (call : ProviderToolCall)
  | completed (usage : UsageRecord)
deriving DecidableEq

end GreenTyper.Provider
