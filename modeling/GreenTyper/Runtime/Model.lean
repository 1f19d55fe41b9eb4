/-
  GreenTyper.Runtime.Model — the identities, the frozen snapshots and the events of the
  Runtime kernel (`runtime.rs`, `model.rs`).

  An identity is a positive number, as `nonzero_id!` makes it. A Config Epoch is what
  `freeze_with_observability` makes of layers, and it exists with the checks it passed; its
  fingerprint is computed from it. A Provider Epoch is kept without its fingerprint, which
  only the event codec reads.
-/

import GreenTyper.Config.Epoch
import GreenTyper.Config.Schema
import GreenTyper.Context.Model
import GreenTyper.Context.Pressure
import GreenTyper.Provider.Profile
import GreenTyper.Team.Codec
import GreenTyper.Tool.Model
import Mathlib.Data.PNat.Basic

namespace GreenTyper.Runtime

open Lib Config Context Provider Usage
open GreenTyper.Ledger (LedgerHead)
open GreenTyper.Team (AgentId DurableTeamError TeamOperationId)
open GreenTyper.Tool (ToolRuntimeError ToolCallId ToolCallStatus)

def maxInputBytes : Nat := 512 * 1024
def maxBlockReasonBytes : Nat := 4096
def maxUsageRecordsPerTurn : Nat := 64

abbrev ThreadId := ℕ+
abbrev TurnId := ℕ+
abbrev ItemId := ℕ+
abbrev DeliveryId := ℕ+
abbrev ConfigEpochId := ℕ+
abbrev ProviderEpochId := ℕ+

inductive ModelError where
  | zeroId (kind : String)
  | emptyItem
  | itemTooLarge
  deriving DecidableEq

inductive RecoveryStatus where
  | ready
  | resumeRequired (turn : TurnId)
  | reconciliationRequired (turn : TurnId) (delivery : DeliveryId)
  | blocked (turn : TurnId) (reason : String) (retryable : Bool)
  deriving DecidableEq

inductive RuntimeError where
  | config (source : ConfigError)
  | context (source : ContextViewError)
  | model (source : ModelError)
  | provider (source : ProviderError)
  | usage (source : UsageError)
  /-- The codec or the Ledger refused a transaction. -/
  | ledger
  | invalidInput (reason : String)
  | invalidModelSelection (reason : String)
  | unsupportedContextMode (mode : ContextMode)
  | invalidProviderOutput (reason : String)
  | busy (status : RecoveryStatus)
  | unknownDelivery (delivery : DeliveryId)
  | unknownTurn (turn : TurnId)
  | turnCancellationNotAllowed (turn : TurnId)
  | turnRetryNotAllowed (turn : TurnId)
  | contextAdmissionBlocked (pressure : ContextPressureSnapshot)
  | contextCheckpointNotAtSafeBarrier
  | staleContextCheckpoint (expected actual : LedgerHead)
  | team (source : DurableTeamError)
  | tool (source : ToolRuntimeError)
  | teamUnavailable
  | toolUnavailable
  | teamOperationReconciliationRequired (operation : TeamOperationId)
  | toolReconciliationRequired (call : ToolCallId)
  | providerToolCallTerminated (call : ToolCallId) (status : ToolCallStatus)
  | providerToolResultUnavailable (call : ToolCallId)
  | corruptEvent (reason : String)
  | corruptState (reason : String)
  | integerOverflow
  /-- A panic. -/
  | indexOutOfBounds
  deriving DecidableEq

/-- `ThreadId::new` and its like. -/
def nonzeroId (kind : String) (value : Nat) : Except RuntimeError ℕ+ :=
  if h : 0 < value then .ok ⟨value, h⟩ else .error (.model (.zeroId kind))

/-- `CanonicalItem::new`. -/
def canonicalItem (id : ItemId) (turn : TurnId) (role : ItemRole) (text : String) : Except RuntimeError CanonicalItem :=
  if shown : isBlank text = false then
    if fits : byteLen text ≤ maxItemTextBytes then .ok ⟨id, turn, role, text, id.pos, turn.pos, shown, fits⟩
    else .error (.model .itemTooLarge)
  else .error (.model .emptyItem)

/-! ## Snapshots -/

structure ConfigEpoch where
  id : ConfigEpochId
  resolved : ResolvedConfig
  usageWindows : List UsageWindow
  priceSchedules : PriceScheduleBook
  bounded : resolved.maxOutputBytes.value ≤ Config.maxOutputBytes
  distinct : (usageWindows.map (·.id)).Nodup
  few : usageWindows.length ≤ maxUsageWindows

def ConfigEpoch.fingerprint (epoch : ConfigEpoch) : UInt64 := Config.fingerprint epoch.resolved epoch.usageWindows epoch.priceSchedules

/-- What a frozen Turn lets its output have. -/
def ConfigEpoch.maxOutputBytes (epoch : ConfigEpoch) : Nat := epoch.resolved.maxOutputBytes.value.toNat

theorem validateBytes_le {value : UInt32} (h : ConfigLayer.validateBytes value = .ok ()) : value ≤ Config.maxOutputBytes := by
  unfold ConfigLayer.validateBytes at h
  exact require_ok.mp (seq_ok.mp h).2

theorem resolve_bounded {layers : ConfigLayers} {resolved : ResolvedConfig} (h : layers.resolve = .ok resolved) :
    resolved.maxOutputBytes.value ≤ Config.maxOutputBytes := by
  unfold ConfigLayers.resolve at h
  simp only [bind_ok, exists_unit, pure, Except.pure, Except.ok.injEq] at h
  obtain ⟨_, _, _, _, _, _, _, _, _, _, hbytes, _, _, _, rfl⟩ := h
  exact validateBytes_le hbytes

/-- `freeze_with_observability`. Ids are distinct where no neighbours in their order share one. -/
def ConfigEpoch.freeze (id : ConfigEpochId) (layers : ConfigLayers) (usageWindows : List UsageWindow)
    (priceSchedules : PriceScheduleBook) : Except ConfigError ConfigEpoch :=
  match hresolve : layers.resolve with
  | .error e => .error e
  | .ok resolved =>
    let sorted := usageWindows.insertionSort fun left right => left.id ≤ right.id
    if few : sorted.length ≤ maxUsageWindows then
      if distinct : (sorted.map (·.id)).Nodup then .ok ⟨id, resolved, sorted, priceSchedules, resolve_bounded hresolve, distinct, few⟩
      else .error .duplicateUsageWindow
    else .error .tooManyUsageWindows

structure ProviderEpoch where
  id : ProviderEpochId
  profile : String
  model : String
  profileSnapshot : Option ProviderProfileSnapshot
  dialect : Option ProviderDialect
  deriving DecidableEq

def ProviderEpoch.new (id : ProviderEpochId) (profile model : String) : Except ProviderError ProviderEpoch := do
  validateProviderId "provider profile" profile
  validateProviderId "provider model" model
  return ⟨id, profile, model, none, none⟩

def ProviderEpoch.withProfileSnapshotAndDialect (id : ProviderEpochId) (profile model : String) (snapshot : ProviderProfileSnapshot)
    (dialect : Option ProviderDialect) : Except ProviderError ProviderEpoch := do
  validateProviderId "provider profile" profile
  validateProviderId "provider model" model
  require (snapshot.profile = profile) (.invalidConfiguration "Provider Profile snapshot identity mismatch")
  require (dialect.all snapshot.supports = true) (.invalidConfiguration "Provider dialect is not supported by its frozen Profile")
  return ⟨id, profile, model, some snapshot, dialect⟩

/-! ## Selections -/

def validPresetId (id : String) : Bool := decide (IdText id)

structure ModelSelection where
  presetId : String
  configFingerprint : UInt64
  providerProfile : String
  providerModel : String
  preferredDialect : ProviderDialect
  deriving DecidableEq

def ModelSelection.validate (selection : ModelSelection) : Except RuntimeError Unit := do
  require (validPresetId selection.presetId = true) (.invalidModelSelection "Preset ID is invalid")
  [selection.providerProfile, selection.providerModel].forM fun value =>
    require (ProviderText maxProviderIdBytes value) (.invalidModelSelection "Provider identity is invalid")

/-- The configuration is the one that was selected. -/
def ModelSelection.Matches (selection : ModelSelection) (config : ConfigEpoch) : Prop :=
  config.fingerprint = selection.configFingerprint ∧ config.resolved.providerProfile.value = selection.providerProfile ∧
    config.resolved.providerModel.value = selection.providerModel

instance (selection : ModelSelection) (config : ConfigEpoch) : Decidable (selection.Matches config) :=
  inferInstanceAs (Decidable (_ ∧ _ ∧ _))

structure PendingModelSelection where
  agent : AgentId
  selection : ModelSelection
  deriving DecidableEq

/-! ## Events -/

inductive FrozenCostEvaluation where
  | known (scheduleId : String) (scheduleFingerprint : UInt64) (amountPicoUnits : Nat)
  | unknown (reason : CostEstimateUnknownReason)
  deriving DecidableEq

def FrozenCostEvaluation.fromOutcome : CostEstimateOutcome → FrozenCostEvaluation
  | .known estimate => .known estimate.schedule.id estimate.schedule.fingerprint estimate.amountPicoUnits
  | .unknown reason => .unknown reason

def FrozenCostEvaluation.matches (evaluation : FrozenCostEvaluation) (outcome : CostEstimateOutcome) : Bool :=
  match evaluation, outcome with
  | .known scheduleId scheduleFingerprint amountPicoUnits, .known estimate =>
    scheduleId = estimate.schedule.id ∧ scheduleFingerprint = estimate.schedule.fingerprint ∧
      amountPicoUnits = estimate.amountPicoUnits
  | .unknown left, .unknown right => left = right
  | _, _ => false

theorem FrozenCostEvaluation.matches_iff {evaluation : FrozenCostEvaluation} {outcome : CostEstimateOutcome} :
    evaluation.matches outcome = true ↔ evaluation = .fromOutcome outcome := by
  cases evaluation <;> cases outcome <;> simp [FrozenCostEvaluation.matches, fromOutcome]

structure FrozenProviderFallback where
  presetId : String
  config : ConfigEpochId
  provider : ProviderEpochId
  deriving DecidableEq

inductive TurnBlockOrigin where
  | legacy
  | provider
  | other
  deriving DecidableEq

structure ContextCheckpoint where
  view : ReducedContextView
  deriving DecidableEq

/-- The head that the checkpoint was made at. -/
def ContextCheckpoint.sourceHead (checkpoint : ContextCheckpoint) : LedgerHead :=
  ⟨checkpoint.view.source.transaction, checkpoint.view.source.lastSequence.getD 0⟩

inductive RuntimeEvent where
  | contextCheckpointPublished (checkpoint : ContextCheckpoint)
  | modelSelectionStaged (agent : AgentId) (selection : ModelSelection)
  | threadCreated (thread : ThreadId)
  | configFrozen (epoch : ConfigEpoch)
  | providerFrozen (epoch : ProviderEpoch)
  | turnAdmitted (thread : ThreadId) (turn : TurnId) (userItem : ItemId) (config : ConfigEpochId) (provider : ProviderEpochId)
      (fallbacks : List FrozenProviderFallback) (agent : Option AgentId) (input : String)
  | assistantItemStarted (turn : TurnId) (item : ItemId)
  | assistantTextDelta (turn : TurnId) (item : ItemId) (delta : String)
  | outputPrepared (turn : TurnId) (item : ItemId) (delivery : DeliveryId) (text : String) (usageRecords : List UsageRecord)
      (legacyUsage : Bool)
  | outputAcknowledged (turn : TurnId) (delivery : DeliveryId)
  | turnCompleted (turn : TurnId)
  | turnBlocked (turn : TurnId) (reason : String) (origin : TurnBlockOrigin)
      (providerUnavailableStage : Option ProviderUnavailableStage)
  | turnCancelled (turn : TurnId)
  | turnRetryRequested (turn : TurnId)
  | providerFallbackRequested (turn : TurnId) (fallbackIndex : Nat)
  | usageAttemptStarted (turn : TurnId) (attempt : Nat) (startedAt : UsageTimestamp)
  | usageAttemptFinished (turn : TurnId) (attempt : Nat) (completedAt : UsageTimestamp) (outcome : UsageAttemptOutcome)
      (usage : Option UsageRecord) (namedWindows : List String) (costEvaluationRequired : Bool)
  | usageAttemptCostEvaluated (turn : TurnId) (attempt : Nat) (evaluation : FrozenCostEvaluation)

end GreenTyper.Runtime
