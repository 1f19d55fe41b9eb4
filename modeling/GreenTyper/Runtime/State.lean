/-
  GreenTyper.Runtime.State — the state of the Runtime kernel and what each event does to it
  (`RuntimeState::apply`, `validate_quiescent` and `replay_runtime` of `runtime.rs`).

  A Ledger is here its transactions, each a list of decoded events; the head before a
  transaction counts the transactions and the events before it. Every event has a function
  of its own, and `apply` is their table behind the one rule that all of them obey: a cost
  evaluation that is due comes first.
-/

import GreenTyper.Lib.OrdMap
import GreenTyper.Runtime.Model
import GreenTyper.Usage.Projection

namespace GreenTyper.Runtime

open Lib Config Context Provider Usage
open GreenTyper.Ledger (LedgerHead)
open GreenTyper.Team (AgentId)

structure TurnRecord where
  userItem : ItemId
  config : ConfigEpochId
  provider : ProviderEpochId
  fallbacks : List FrozenProviderFallback
  agent : Option AgentId
  assistantItem : Option ItemId
  delivery : Option DeliveryId
  completed : Bool
  cancelled : Bool

inductive PendingPhase where
  | admitted
  | streaming
  | prepared
  | blocked
  deriving DecidableEq

structure PreparedState where
  item : ItemId
  delivery : DeliveryId
  usageRecords : List UsageRecord

structure OpenUsageAttempt where
  attempt : Nat
  startedAt : UsageTimestamp
  deriving DecidableEq

structure PendingTurn where
  turn : TurnId
  config : ConfigEpochId
  provider : ProviderEpochId
  fallbackIndex : Nat
  agent : Option AgentId
  input : String
  phase : PendingPhase
  assistantItem : Option ItemId
  streamedText : String
  prepared : Option PreparedState
  acknowledged : Bool
  blockedReason : Option String
  blockOrigin : Option TurnBlockOrigin
  providerUnavailableStage : Option ProviderUnavailableStage
  nextUsageAttempt : Nat
  openUsageAttempt : Option OpenUsageAttempt

structure RuntimeState where
  thread : Option ThreadId
  configs : OrdMap ConfigEpochId ConfigEpoch
  providers : OrdMap ProviderEpochId ProviderEpoch
  turns : OrdMap TurnId TurnRecord
  items : List CanonicalItem
  pending : Option PendingTurn
  pendingModelSelection : Option PendingModelSelection
  contextCheckpoint : Option ContextCheckpoint
  acknowledged : Finset DeliveryId
  usage : UsageProjection
  pendingCostEvaluation : Option (TurnId × Nat)
  nextThread : Nat
  nextTurn : Nat
  nextItem : Nat
  nextDelivery : Nat
  nextConfig : Nat
  nextProvider : Nat

structure UsageContext where
  thread : ThreadId
  agent : Option AgentId
  profile : String
  model : String
  dialect : Option ProviderDialect
  contextMode : ContextMode
  reasoningEffort : Option ReasoningEffort
  serviceTier : Option ServiceTier

def providerStageIsRetryable : Option ProviderUnavailableStage → Bool
  | some .beforeResponse | some .beforeFirstEvent => true
  | some .afterFirstEvent | none => false

def validateInput (input : String) : Except RuntimeError Unit := do
  require (isBlank input = false) (.invalidInput "input cannot be empty")
  require (byteLen input ≤ maxInputBytes) (.invalidInput "input is too large")

def observeId (next observed : Nat) : Except RuntimeError Nat := do
  let candidate ← okOr (checkedAdd 64 observed 1) .integerOverflow
  return max next candidate

namespace PendingTurn

/-- Blocked by the Provider before any output. -/
def Recoverable (pending : PendingTurn) : Prop :=
  pending.phase = .blocked ∧ pending.blockOrigin = some .provider ∧ pending.openUsageAttempt = none ∧
    pending.prepared.isNone = true ∧ pending.assistantItem = none ∧ pending.streamedText = "" ∧ pending.acknowledged = false

instance (pending : PendingTurn) : Decidable pending.Recoverable := inferInstanceAs (Decidable (_ ∧ _ ∧ _ ∧ _ ∧ _ ∧ _ ∧ _))

def unblocked (pending : PendingTurn) : PendingTurn :=
  { pending with phase := .admitted, blockedReason := none, blockOrigin := none, providerUnavailableStage := none }

end PendingTurn

namespace RuntimeState

def default : RuntimeState where
  thread := none
  configs := .empty
  providers := .empty
  turns := .empty
  items := []
  pending := none
  pendingModelSelection := none
  contextCheckpoint := none
  acknowledged := ∅
  usage := .default
  pendingCostEvaluation := none
  nextThread := 1
  nextTurn := 1
  nextItem := 1
  nextDelivery := 1
  nextConfig := 1
  nextProvider := 1

def status (state : RuntimeState) : RecoveryStatus :=
  match state.pending with
  | none => .ready
  | some pending =>
    match pending.phase with
    | .admitted => .resumeRequired pending.turn
    -- A prepared Turn has its output, and a blocked one its reason.
    | .prepared => .reconciliationRequired pending.turn ((pending.prepared.map (·.delivery)).getD Inhabited.default)
    | .blocked => .blocked pending.turn (pending.blockedReason.getD "") (providerStageIsRetryable pending.providerUnavailableStage)
    | .streaming => .blocked pending.turn "incomplete output transaction" false

def pendingFor (state : RuntimeState) (turn : TurnId) : Except RuntimeError PendingTurn :=
  okOr (state.pending.filter (·.turn = turn)) (.corruptState "event targets a non-pending Turn")

def itemExists (state : RuntimeState) (item : ItemId) : Bool :=
  state.items.any (·.id = item) || state.pending.bind (·.assistantItem) = some item

def usageContext (state : RuntimeState) (turn : TurnId) : Except RuntimeError UsageContext := do
  let thread ← okOr state.thread (.corruptState "usage Thread is missing")
  let record ← okOr (state.turns.get turn) (.corruptState "usage Turn is missing")
  let (config, provider) := ((state.pending.filter (·.turn = turn)).map fun pending => (pending.config, pending.provider)).getD
    (record.config, record.provider)
  let provider ← okOr (state.providers.get provider) (.corruptState "usage Provider Epoch is missing")
  let config ← okOr (state.configs.get config) (.corruptState "usage Config Epoch is missing")
  return {
    thread
    agent := record.agent
    profile := provider.profile
    model := provider.model
    dialect := provider.dialect
    contextMode := config.resolved.contextMode.value
    reasoningEffort := config.resolved.reasoningEffort.map (·.value)
    serviceTier := config.resolved.serviceTier.map (·.value)
  }

/-- A new attempt as both events record it. -/
def usageAttempt (context : UsageContext) (turn : TurnId) (attempt : Nat) (startedAt completedAt : Option UsageTimestamp)
    (outcome : UsageAttemptOutcome) (usage : Option UsageRecord) (windows : List UsageWindow) : Except RuntimeError UsageAttempt := do
  let created ← (UsageAttempt.new attempt context.thread turn context.agent context.profile context.model context.dialect
    startedAt completedAt outcome usage windows).mapError .usage
  return created.withRequestedPolicy (some context.contextMode.asStr) (context.reasoningEffort.map (·.asStr))
    (context.serviceTier.map (·.asStr))

/-! ## Events -/

section Apply

variable (sha256 : Sha256) (state : RuntimeState)

def contextCheckpointPublished (checkpoint : ContextCheckpoint) : Except RuntimeError RuntimeState := do
  require (state.pending.isNone = true) (.corruptState "Context checkpoint was published outside a Safe Barrier")
  (checkpoint.view.validateAgainstItems sha256 state.items).mapError .context
  return { state with contextCheckpoint := some checkpoint }

def modelSelectionStaged (agent : AgentId) (selection : ModelSelection) : Except RuntimeError RuntimeState := do
  require (state.pending.isNone = true) (.corruptState "Model selection was staged during an active Turn")
  require (state.pendingModelSelection.all (·.agent = agent) = true) (.corruptState "Model selection changed Agent ownership")
  return { state with pendingModelSelection := some ⟨agent, selection⟩ }

def threadCreated (thread : ThreadId) : Except RuntimeError RuntimeState := do
  require (state.thread = none ∧ state.turns.entries.isEmpty = true) (.corruptState "Thread was created more than once")
  let nextThread ← observeId state.nextThread thread
  return { state with thread := some thread, nextThread }

def configFrozen (epoch : ConfigEpoch) : Except RuntimeError RuntimeState := do
  require ((state.configs.get epoch.id).isNone = true) (.corruptState "duplicate Config Epoch")
  let nextConfig ← observeId state.nextConfig epoch.id
  return { state with configs := state.configs.insert epoch.id epoch, nextConfig }

def providerFrozen (epoch : ProviderEpoch) : Except RuntimeError RuntimeState := do
  require ((state.providers.get epoch.id).isNone = true) (.corruptState "duplicate Provider Epoch")
  let nextProvider ← observeId state.nextProvider epoch.id
  return { state with providers := state.providers.insert epoch.id epoch, nextProvider }

/-- The loop over the fallbacks of an admission: no snapshot is missing, the primary's or taken twice. -/
def ValidFallbacks (config : ConfigEpochId) (provider : ProviderEpochId) (fallbacks : List FrozenProviderFallback) : Prop :=
  (∀ fallback ∈ fallbacks, validPresetId fallback.presetId = true ∧ fallback.config ≠ config ∧ fallback.provider ≠ provider ∧
    state.configs.contains fallback.config = true ∧ state.providers.contains fallback.provider = true) ∧
  (fallbacks.map (·.config)).Nodup ∧ (fallbacks.map (·.provider)).Nodup

instance (config : ConfigEpochId) (provider : ProviderEpochId) (fallbacks : List FrozenProviderFallback) :
    Decidable (ValidFallbacks state config provider fallbacks) :=
  inferInstanceAs (Decidable (_ ∧ _ ∧ _))

/-- A selection that is staged is the one that the next Turn is admitted with. -/
def takesSelection (config : ConfigEpochId) (agent : Option AgentId) : Except RuntimeError Unit :=
  state.pendingModelSelection.forM fun pending => do
    let epoch ← okOr (state.configs.get config) (.corruptState "Turn snapshot is missing")
    require (agent = some pending.agent ∧ pending.selection.Matches epoch) (.corruptState "Turn does not match pending Model selection")

def turnAdmitted (thread : ThreadId) (turn : TurnId) (userItem : ItemId) (config : ConfigEpochId) (provider : ProviderEpochId)
    (fallbacks : List FrozenProviderFallback) (agent : Option AgentId) (input : String) : Except RuntimeError RuntimeState := do
  require (state.thread = some thread ∧ state.pending.isNone = true) (.corruptState "invalid Turn admission")
  require (state.configs.contains config = true ∧ state.providers.contains provider = true) (.corruptState "Turn snapshot is missing")
  require (fallbacks.length < maxModelPresetFallbackCandidates) (.corruptState "Provider fallback count is invalid")
  require (state.ValidFallbacks config provider fallbacks) (.corruptState "Provider fallback snapshot is invalid")
  state.takesSelection config agent
  require (state.turns.contains turn = false ∧ state.itemExists userItem = false) (.corruptState "duplicate Turn or Item id")
  validateInput input
  let item ← canonicalItem userItem turn .user input
  let nextTurn ← observeId state.nextTurn turn
  let nextItem ← observeId state.nextItem userItem
  return { state with
    pendingModelSelection := none
    items := state.items ++ [item]
    turns := state.turns.insert turn ⟨userItem, config, provider, fallbacks, agent, none, none, false, false⟩
    pending := some {
      turn, config, provider
      fallbackIndex := 0
      agent, input
      phase := .admitted
      assistantItem := none
      streamedText := ""
      prepared := none
      acknowledged := false
      blockedReason := none
      blockOrigin := none
      providerUnavailableStage := none
      nextUsageAttempt := 1
      openUsageAttempt := none
    }
    nextTurn, nextItem }

def assistantItemStarted (turn : TurnId) (item : ItemId) : Except RuntimeError RuntimeState := do
  require (state.itemExists item = false) (.corruptState "duplicate Assistant Item id")
  let pending ← state.pendingFor turn
  require (pending.phase = .admitted ∧ pending.assistantItem = none) (.corruptState "invalid Assistant Item start")
  let nextItem ← observeId state.nextItem item
  return { state with pending := some { pending with phase := .streaming, assistantItem := some item }, nextItem }

def assistantTextDelta (turn : TurnId) (item : ItemId) (delta : String) : Except RuntimeError RuntimeState := do
  require (delta ≠ "") (.corruptState "empty Assistant text delta")
  let pending ← state.pendingFor turn
  require (pending.phase = .streaming ∧ pending.assistantItem = some item) (.corruptState "invalid Assistant text delta")
  let nextLength ← okOr (checkedAdd 64 (byteLen pending.streamedText) (byteLen delta)) .integerOverflow
  require (nextLength ≤ maxInputBytes) (.corruptState "Assistant output is too large")
  return { state with pending := some { pending with streamedText := pending.streamedText ++ delta } }

/-- A usage record of an output of an old schema, as the attempt that it counts as. -/
def legacyAttempt (context : UsageContext) (turn : TurnId) (first : Nat) (usage : UsageProjection) (record : UsageRecord × Nat) :
    Except RuntimeError UsageProjection := do
  let attempt ← okOr (checkedAdd 32 first record.2) .integerOverflow
  let attempt ← usageAttempt context turn attempt none none .succeeded (some record.1) []
  (usage.record attempt).mapError .usage

def recordLegacyUsage (turn : TurnId) (usageRecords : List UsageRecord) : Except RuntimeError RuntimeState := do
  let context ← state.usageContext turn
  let pending ← state.pendingFor turn
  let usage ← usageRecords.zipIdx.foldlM (legacyAttempt context turn pending.nextUsageAttempt) state.usage
  let nextUsageAttempt ← okOr (checkedAdd 32 pending.nextUsageAttempt usageRecords.length) .integerOverflow
  return { state with usage, pending := some { pending with nextUsageAttempt } }

/-- The usage of an output: an old schema has it there, a new one in the attempts before. -/
def recordOutputUsage (turn : TurnId) (pending : PendingTurn) (usageRecords : List UsageRecord) (legacyUsage : Bool) :
    Except RuntimeError RuntimeState :=
  if legacyUsage then state.recordLegacyUsage turn usageRecords
  else do
    require (pending.openUsageAttempt = none) (.corruptState "prepared output has an unfinished usage attempt")
    return state

def outputPrepared (turn : TurnId) (item : ItemId) (delivery : DeliveryId) (text : String) (usageRecords : List UsageRecord)
    (legacyUsage : Bool) : Except RuntimeError RuntimeState := do
  require (delivery ∉ state.acknowledged) (.corruptState "duplicate Delivery id")
  require (usageRecords ≠ [] ∧ usageRecords.length ≤ maxUsageRecordsPerTurn) (.corruptState "invalid prepared usage record count")
  let pending ← state.pendingFor turn
  require (pending.phase = .streaming ∧ pending.assistantItem = some item ∧ pending.streamedText = text ∧ pending.prepared.isNone = true)
    (.corruptState "invalid prepared output")
  let config ← okOr (state.configs.get pending.config) (.corruptState "prepared Config Epoch is missing")
  require (isBlank text = false) (.corruptState "prepared output cannot be empty")
  require (byteLen text ≤ config.maxOutputBytes) (.corruptState "prepared output exceeds the frozen Config Epoch limit")
  let state ← state.recordOutputUsage turn pending usageRecords legacyUsage
  let assistant ← canonicalItem item turn .assistant text
  let pending ← state.pendingFor turn
  let record ← okOr (state.turns.get turn) (.corruptState "prepared Turn is missing")
  let nextDelivery ← observeId state.nextDelivery delivery
  return { state with
    items := state.items ++ [assistant]
    pending := some { pending with phase := .prepared, prepared := some ⟨item, delivery, usageRecords⟩ }
    turns := state.turns.insert turn { record with assistantItem := some item, delivery := some delivery }
    nextDelivery }

def outputAcknowledged (turn : TurnId) (delivery : DeliveryId) : Except RuntimeError RuntimeState := do
  let pending ← state.pendingFor turn
  require (pending.phase = .prepared ∧ pending.acknowledged = false ∧ pending.prepared.map (·.delivery) = some delivery)
    (.corruptState "invalid output acknowledgement")
  require (delivery ∉ state.acknowledged) (.corruptState "duplicate output acknowledgement")
  return { state with
    pending := some { pending with acknowledged := true }
    acknowledged := insert delivery state.acknowledged }

def turnCompleted (turn : TurnId) : Except RuntimeError RuntimeState := do
  let pending ← state.pendingFor turn
  require (pending.phase = .prepared ∧ pending.acknowledged = true) (.corruptState "Turn completed before output ack")
  let record ← okOr (state.turns.get turn) (.corruptState "completed Turn is missing")
  return { state with turns := state.turns.insert turn { record with completed := true }, pending := none }

/-- A reason that a blocked Turn may have. -/
def BlockReason (reason : String) : Prop :=
  isBlank reason = false ∧ byteLen reason ≤ maxBlockReasonBytes ∧ reason.toList.any isControl = false

instance (reason : String) : Decidable (BlockReason reason) := inferInstanceAs (Decidable (_ ∧ _ ∧ _))

def turnBlocked (turn : TurnId) (reason : String) (origin : TurnBlockOrigin)
    (providerUnavailableStage : Option ProviderUnavailableStage) : Except RuntimeError RuntimeState := do
  require (BlockReason reason ∧ (providerUnavailableStage = none ∨ origin = .provider)) (.corruptState "invalid blocked reason")
  let pending ← state.pendingFor turn
  require (pending.phase = .admitted ∧ pending.openUsageAttempt = none) (.corruptState "invalid blocked transition")
  return { state with
    pending := some { pending with
      phase := .blocked, blockedReason := some reason, blockOrigin := some origin, providerUnavailableStage } }

def turnCancelled (turn : TurnId) : Except RuntimeError RuntimeState := do
  let pending ← state.pendingFor turn
  require pending.Recoverable (.corruptState "invalid Turn cancellation")
  let record ← okOr (state.turns.get turn) (.corruptState "cancelled Turn is missing")
  require (record.completed = false ∧ record.cancelled = false) (.corruptState "invalid Turn cancellation")
  return { state with turns := state.turns.insert turn { record with cancelled := true }, pending := none }

def turnRetryRequested (turn : TurnId) : Except RuntimeError RuntimeState := do
  let pending ← state.pendingFor turn
  require (pending.Recoverable ∧ providerStageIsRetryable pending.providerUnavailableStage = true) (.corruptState "invalid Turn retry")
  return { state with pending := some pending.unblocked }

/-- The fallback of a Turn at an index, from one. -/
def frozenFallback (turn : TurnId) (fallbackIndex : Nat) : Option FrozenProviderFallback :=
  (state.turns.get turn).bind fun record => if fallbackIndex = 0 then none else record.fallbacks[fallbackIndex - 1]?

def providerFallbackRequested (turn : TurnId) (fallbackIndex : Nat) : Except RuntimeError RuntimeState := do
  let fallback ← okOr (state.frozenFallback turn fallbackIndex) (.corruptState "Provider fallback index is invalid")
  let pending ← state.pendingFor turn
  require (pending.Recoverable ∧ providerStageIsRetryable pending.providerUnavailableStage = true ∧
    checkedAdd 32 pending.fallbackIndex 1 = some fallbackIndex) (.corruptState "invalid Provider fallback transition")
  return { state with
    pending := some { pending.unblocked with config := fallback.config, provider := fallback.provider, fallbackIndex } }

def usageAttemptStarted (turn : TurnId) (attempt : Nat) (startedAt : UsageTimestamp) : Except RuntimeError RuntimeState := do
  let pending ← state.pendingFor turn
  require (pending.phase = .admitted ∧ pending.openUsageAttempt = none ∧ attempt = pending.nextUsageAttempt ∧ attempt ≠ 0)
    (.corruptState "invalid usage attempt start")
  let nextUsageAttempt ← okOr (checkedAdd 32 pending.nextUsageAttempt 1) .integerOverflow
  return { state with pending := some { pending with nextUsageAttempt, openUsageAttempt := some ⟨attempt, startedAt⟩ } }

/-- The loop over the names of windows: each is one of the configuration's, and none comes twice. -/
def resolveWindows (windows : List UsageWindow) (names : List String) : Except RuntimeError (List UsageWindow) := do
  require names.Nodup (.corruptState "usage attempt named window is invalid")
  names.mapM fun name => okOr (windows.find? (·.id = name)) (.corruptState "usage attempt named window is invalid")

def usageAttemptFinished (turn : TurnId) (attempt : Nat) (completedAt : UsageTimestamp) (outcome : UsageAttemptOutcome)
    (usage : Option UsageRecord) (namedWindows : List String) (costEvaluationRequired : Bool) : Except RuntimeError RuntimeState := do
  require (outcome = .succeeded ↔ usage.isSome = true) (.corruptState "usage attempt outcome and record disagree")
  let pending ← okOr (state.pending.filter fun pending => pending.turn = turn ∧ pending.phase = .admitted)
    (.corruptState "invalid usage attempt finish")
  let opened ← okOr (pending.openUsageAttempt.filter (·.attempt = attempt)) (.corruptState "invalid usage attempt finish")
  require (opened.startedAt.unixMillis ≤ completedAt.unixMillis) (.corruptState "usage attempt completed before it started")
  let config ← okOr (state.configs.get pending.config) (.corruptState "usage Config Epoch is missing")
  let windows ← resolveWindows config.usageWindows namedWindows
  let context ← state.usageContext turn
  let attemptRecord ← usageAttempt context turn attempt (some opened.startedAt) (some completedAt) outcome usage windows
  let usage ← (state.usage.record attemptRecord).mapError .usage
  return { state with
    pending := some { pending with openUsageAttempt := none }
    usage
    pendingCostEvaluation := if costEvaluationRequired then some (turn, attempt) else state.pendingCostEvaluation }

/-- What an attempt with this usage costs by the frozen schedules. -/
def estimateFrozen (context : UsageContext) (config : ConfigEpoch) (startedAt : UsageTimestamp) (usage : Option UsageRecord) :
    CostEstimateOutcome :=
  match usage with
  | none => .unknown .missingUsageRecord
  | some usage => config.priceSchedules.estimateAttempt context.profile context.model context.dialect startedAt usage

/-- The Cost Estimate of an attempt on record, which has a start if it has usage. -/
def expectedCost (context : UsageContext) (config : ConfigEpoch) (record : UsageAttempt) : Except RuntimeError CostEstimateOutcome :=
  match record.usage, record.startedAt with
  | none, _ => .ok (.unknown .missingUsageRecord)
  | some _, none => .error (.corruptState "Cost Estimate usage attempt has no start instant")
  | some usage, some startedAt => .ok (estimateFrozen context config startedAt (some usage))

def usageAttemptCostEvaluated (turn : TurnId) (attempt : Nat) (evaluation : FrozenCostEvaluation) : Except RuntimeError RuntimeState := do
  require (state.pendingCostEvaluation = some (turn, attempt)) (.corruptState "Cost Estimate has no pending Usage Attempt")
  let context ← state.usageContext turn
  let config ← okOr ((state.pending.filter (·.turn = turn)).bind fun pending => state.configs.get pending.config)
    (.corruptState "Cost Estimate Config Epoch is missing")
  let record ← okOr (state.usage.attempt turn attempt) (.corruptState "Cost Estimate usage attempt is missing")
  let expected ← expectedCost context config record
  require (evaluation.matches expected = true) (.corruptState "Cost Estimate does not match frozen usage and pricing evidence")
  let usage ← (state.usage.recordCostEvaluation turn attempt expected).mapError .usage
  return { state with usage, pendingCostEvaluation := none }

/-- Whether the event is the evaluation that is due. -/
def isEvaluationOf (due : TurnId × Nat) : RuntimeEvent → Bool
  | .usageAttemptCostEvaluated turn attempt _ => turn = due.1 ∧ attempt = due.2
  | _ => false

/-- What the event does, where no other evaluation is due. -/
def perform : RuntimeEvent → Except RuntimeError RuntimeState
  | .contextCheckpointPublished checkpoint => state.contextCheckpointPublished sha256 checkpoint
  | .modelSelectionStaged agent selection => state.modelSelectionStaged agent selection
  | .threadCreated thread => state.threadCreated thread
  | .configFrozen epoch => state.configFrozen epoch
  | .providerFrozen epoch => state.providerFrozen epoch
  | .turnAdmitted thread turn userItem config provider fallbacks agent input =>
    state.turnAdmitted thread turn userItem config provider fallbacks agent input
  | .assistantItemStarted turn item => state.assistantItemStarted turn item
  | .assistantTextDelta turn item delta => state.assistantTextDelta turn item delta
  | .outputPrepared turn item delivery text usageRecords legacyUsage =>
    state.outputPrepared turn item delivery text usageRecords legacyUsage
  | .outputAcknowledged turn delivery => state.outputAcknowledged turn delivery
  | .turnCompleted turn => state.turnCompleted turn
  | .turnBlocked turn reason origin stage => state.turnBlocked turn reason origin stage
  | .turnCancelled turn => state.turnCancelled turn
  | .turnRetryRequested turn => state.turnRetryRequested turn
  | .providerFallbackRequested turn fallbackIndex => state.providerFallbackRequested turn fallbackIndex
  | .usageAttemptStarted turn attempt startedAt => state.usageAttemptStarted turn attempt startedAt
  | .usageAttemptFinished turn attempt completedAt outcome usage namedWindows costEvaluationRequired =>
    state.usageAttemptFinished turn attempt completedAt outcome usage namedWindows costEvaluationRequired
  | .usageAttemptCostEvaluated turn attempt evaluation => state.usageAttemptCostEvaluated turn attempt evaluation

def apply (event : RuntimeEvent) : Except RuntimeError RuntimeState := do
  require (state.pendingCostEvaluation.all (isEvaluationOf · event) = true)
    (.corruptState "Usage cost evaluation must immediately follow its attempt")
  state.perform sha256 event

end Apply

/-! ## Transactions -/

/-- The record of a Turn has its snapshots and its input, and ends in one way or is pending. -/
def validateTurn (state : RuntimeState) (turn : TurnId) (record : TurnRecord) : Except RuntimeError Unit := do
  require (state.configs.contains record.config = true ∧ state.providers.contains record.provider = true ∧
      (∀ fallback ∈ record.fallbacks, state.configs.contains fallback.config = true ∧ state.providers.contains fallback.provider = true) ∧
      state.items.any (fun item => item.id = record.userItem ∧ item.turn = turn) = true)
    (.corruptState "Turn record is incomplete")
  require (record.completed = false ∨ record.delivery ≠ none) (.corruptState "completed Turn has no delivery")
  require (record.completed = false ∨ record.cancelled = false) (.corruptState "Turn has conflicting terminal states")
  require (record.cancelled = false ∨ record.assistantItem = none ∧ record.delivery = none)
    (.corruptState "cancelled Turn has prepared output")
  require (state.pending.any (·.turn = turn) = !(record.completed || record.cancelled))
    (.corruptState "Turn terminal state disagrees with pending state")

/-- The snapshots that the Turns have: one each, and one a fallback. -/
def expectedSnapshots (state : RuntimeState) : Except RuntimeError Nat :=
  state.turns.values.foldlM (fun total record => do
    let total ← okOr (checkedAdd 64 total 1) .integerOverflow
    okOr (checkedAdd 64 total record.fallbacks.length) .integerOverflow) 0

def validateQuiescent (state : RuntimeState) : Except RuntimeError Unit := do
  require (state.turns.entries.isEmpty = state.thread.isNone) (.corruptState "Thread and Turn history disagree")
  let expected ← state.expectedSnapshots
  require (state.configs.size = expected ∧ state.providers.size = expected) (.corruptState "snapshot and Turn counts disagree")
  require (state.pending.all (·.phase ≠ .streaming) = true) (.corruptState "output transaction ended while streaming")
  require (state.pendingCostEvaluation = none) (.corruptState "Usage transaction ended before cost evaluation")
  state.turns.entries.forM fun (turn, record) => state.validateTurn turn record

section Replay

variable (sha256 : Sha256)

def applyAll (state : RuntimeState) (events : List RuntimeEvent) : Except RuntimeError RuntimeState :=
  events.foldlM (fun state event => state.apply sha256 event) state

/-- A checkpoint is alone in its transaction and made at the head before it. -/
def checkpointBound (prior : LedgerHead) (transaction : List RuntimeEvent) : RuntimeEvent → Except RuntimeError Unit
  | .contextCheckpointPublished checkpoint =>
    require (transaction.length = 1 ∧ checkpoint.sourceHead = prior)
      (.corruptEvent "Context checkpoint is not bound to the prior Ledger head")
  | _ => .ok ()

def replayTransaction (prior : LedgerHead) (state : RuntimeState) (transaction : List RuntimeEvent) :
    Except RuntimeError RuntimeState := do
  let candidate ← transaction.foldlM (fun state event => do
    checkpointBound prior transaction event
    state.apply sha256 event) state
  candidate.validateQuiescent
  return candidate

/-- The head after transactions. -/
def headOf (ledger : List (List RuntimeEvent)) : LedgerHead := ⟨ledger.length, ledger.flatten.length⟩

/-- `replay_runtime`, on the transactions after `done`. -/
def replayFrom (done : List (List RuntimeEvent)) (state : RuntimeState) : List (List RuntimeEvent) → Except RuntimeError RuntimeState
  | [] => .ok state
  | transaction :: rest => do
    let state ← replayTransaction sha256 (headOf done) state transaction
    replayFrom (done ++ [transaction]) state rest

def replay (ledger : List (List RuntimeEvent)) : Except RuntimeError RuntimeState := replayFrom sha256 [] default ledger

end Replay

end RuntimeState

end GreenTyper.Runtime
