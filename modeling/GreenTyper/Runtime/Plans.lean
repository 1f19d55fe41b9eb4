/-
  GreenTyper.Runtime.Plans — what the Runtime kernel (`RuntimeKernel` of `runtime.rs`) reads
  before it writes: its guards, the requests that it makes of its state, and the events that
  each operation plans.

  A `Host` says how each write ends and what the clock and the calendar answer, by how often
  it was asked. A Ledger is here its transactions. Providers are functions, which may answer
  differently every time.
-/

import GreenTyper.Context.Pressure
import GreenTyper.Runtime.State
import GreenTyper.Team.Durable
import GreenTyper.Tool.Arguments
import GreenTyper.Tool.Runtime
import GreenTyper.Usage.Windows

/-! ## Agents -/

namespace GreenTyper.Team

open Lib

structure AgentExecutionContext where
  agent : AgentId
  capabilities : CapabilitySnapshot
  stored : ValidId agent

/-- An Agent of a Team has an identity that can be stored. -/
def TeamRuntime.trustedActiveAgentContext (r : TeamRuntime) (session : AgentSession) : Except TeamError AgentExecutionContext := do
  let agent ← r.authenticate session
  let record ← r.requireActive agent
  if stored : agent ≠ 0 ∧ agent < maxIdentifier then return ⟨agent, record.capabilities, stored⟩ else throw (.unknownAgent agent)

end GreenTyper.Team

namespace GreenTyper.Runtime

open Lib Config Context Provider Usage
open GreenTyper.Ledger (LedgerHead WriteOutcome)
open GreenTyper.Team (AgentId AgentSession AgentExecutionContext DurableTeamRuntime KernelTeam.KernelTeamError TeamCommand
  TeamOperationId TeamOperationCommit TeamOperationAcknowledgeOutcome)
open GreenTyper.Tool (DurableToolRuntime ToolArguments ToolIntent ToolPrincipal ToolResources ToolRequestOutcome ToolCallOutcome
  ToolCallRecord ToolCallId ToolApprovalRequest ApprovalDecision AuthorizedToolCall ToolExecution ToolReconciliationDecision
  ToolRuntimeError ToolState JsonLibrary)

/-! ## The world outside -/

/-- How the append of a transaction ends: it is stored, it is refused, or the write fails and the file has all of it or none. -/
inductive AppendFate where
  | stored
  | refused
  | torn (kept : Bool)

/-- What the kernel gets from outside, by how often it has asked. -/
structure Host where
  sha256 : Sha256
  json : JsonLibrary
  time : TimeLibrary
  localTime : String → UsageTimestamp → Except UsageError LocalTime
  now : Nat → Except UsageError UsageTimestamp
  toolNow : Nat → Except ToolRuntimeError UInt64
  append : Nat → AppendFate
  teamWrite : Nat → WriteOutcome
  toolWrite : Nat → WriteOutcome

/-- The Ledger as the process knows it, and as a process that opens the file finds it. -/
structure RuntimeLedger where
  stored : List (List RuntimeEvent)
  file : List (List RuntimeEvent)
  poisoned : Bool

namespace RuntimeLedger

def opened (file : List (List RuntimeEvent)) : RuntimeLedger := ⟨file, file, false⟩

def head (ledger : RuntimeLedger) : LedgerHead := RuntimeState.headOf ledger.stored

def append (ledger : RuntimeLedger) (events : List RuntimeEvent) (fate : AppendFate) : Except RuntimeError LedgerHead × RuntimeLedger :=
  if ledger.poisoned then (.error .ledger, ledger)
  else
    match fate with
    | .stored => (.ok (RuntimeState.headOf (ledger.stored ++ [events])), .opened (ledger.stored ++ [events]))
    | .refused => (.error .ledger, ledger)
    | .torn kept => (.error .ledger, ⟨ledger.stored, if kept then ledger.stored ++ [events] else ledger.stored, true⟩)

end RuntimeLedger

/-- The digest of the Tool runtime. -/
def Host.toolSha256 (host : Host) (bytes : List Byte) : Tool.Digest := ⟨(host.sha256 bytes).toList, Vector.length_toList⟩

/-! ## Providers -/

structure ProviderRequest where
  thread : ThreadId
  turn : TurnId
  config : ConfigEpoch
  provider : ProviderEpoch
  context : Option ContextRequestView
  input : String

structure ProviderToolOutput where
  callId : String
  output : String

def ProviderToolOutput.new (callId output : String) : Except ProviderError ProviderToolOutput := do
  validateProviderText "Provider Tool call ID" callId maxProviderIdBytes
  require (byteLen output ≤ maxProviderToolOutputBytes) (.invalidResponse "Provider Tool output exceeds the byte limit")
  return ⟨callId, output⟩

structure ProviderRuntime where
  profileSnapshot : Option ProviderProfileSnapshot
  dialect : Option ProviderDialect
  run : Nat → ProviderRequest → Except ProviderError (List ProviderEvent)
  continueAfterTool : Nat → ProviderRequest → ProviderToolOutput → Except ProviderError (List ProviderEvent)

structure ProviderFallbackCandidate where
  selection : ModelSelection
  layers : ConfigLayers
  providerSnapshot : Option ProviderProfileSnapshot
  providerDialect : Option ProviderDialect
  valid : selection.validate = .ok ()

structure PreparedOutput where
  delivery : DeliveryId
  turn : TurnId
  text : String
  usageRecords : List UsageRecord
  receipt : LedgerHead

/-- A Tool call that waits for approval, with what the Provider said before it. -/
structure ProviderToolApproval where
  request : ToolApprovalRequest
  providerRequest : ProviderRequest
  providerCallId : String
  leadingDeltas : List String
  usageRecords : List UsageRecord

inductive ProviderTurnOutcome where
  | prepared (output : PreparedOutput)
  | approvalRequired (approval : ProviderToolApproval)

/-- A call out of the process. -/
inductive OutsideCall where
  | executed (call : AuthorizedToolCall)
  | asked (request : ProviderRequest)
  | continued (request : ProviderRequest) (output : ProviderToolOutput)

/-- The kernel, with how often it has asked its host and what it has called outside, each call with what the Tool runtime knew
    then. -/
structure Kernel where
  ledger : RuntimeLedger
  state : RuntimeState
  team : Option DurableTeamRuntime
  tools : Option DurableToolRuntime
  tick : Nat
  calls : List (OutsideCall × Option ToolState)

def RuntimeError.ofKernelTeam : Team.KernelTeam.KernelTeamError → RuntimeError
  | .team source => .team source
  | .teamOperationReconciliationRequired operation => .teamOperationReconciliationRequired operation

/-! ## Texts -/

def requireContextModeExecution : ContextMode → Except RuntimeError Unit
  | .canonical => .ok ()
  | .providerNative => .error (.unsupportedContextMode .providerNative)

def requireLayersContextModeExecution (layers : ConfigLayers) : Except RuntimeError Unit := do
  let resolved ← layers.resolve.mapError .config
  requireContextModeExecution resolved.contextMode.value

/-- The loop of `bounded_reason`. -/
def boundReason : List Char → List Char → List Char
  | [], bounded => bounded
  | character :: rest, bounded =>
    let character := if isControl character then ' ' else character
    if maxBlockReasonBytes < byteLen (String.ofList bounded) + character.utf8Size then bounded
    else boundReason rest (bounded ++ [character])

def boundedReason (reason : String) : String :=
  let bounded := String.ofList (boundReason reason.toList [])
  if isBlank bounded then "provider failure" else bounded

def providerBlockReason : ProviderError → String
  | .invalidConfiguration _ => "Provider configuration was rejected"
  | .invalidRequest _ => "Provider request was rejected"
  | .invalidResponse _ => "Provider response was rejected"
  | .unavailable .beforeResponse _ => "Provider became unavailable before a response"
  | .unavailable .beforeFirstEvent _ => "Provider stream failed before its first event"
  | .unavailable .afterFirstEvent _ => "Provider stream was interrupted after a partial response"

def providerToolIdentity (sha256 : Sha256) (turn : TurnId) (callId : String) : String :=
  s!"provider-turn-{(turn : Nat)}-" ++ hexDigest (sha256 (utf8 callId))

/-! ## Steps of a Provider -/

inductive ValidatedProviderStep where
  | completed (deltas : List String) (usageRecord : UsageRecord)
  | toolCall (deltas : List String) (call : ProviderToolCall) (usageRecord : UsageRecord)

/-- What the events so far came to. -/
structure ProviderProgress where
  deltas : List String
  text : String
  usage : Option UsageRecord
  toolCall : Option ProviderToolCall

/-- One event, with those after it. -/
def providerStep (maxOutputBytes : Nat) (progress : ProviderProgress) (rest : List ProviderEvent) :
    ProviderEvent → Except String ProviderProgress
  | .textDelta delta => do
    require (progress.usage.isNone = true) "provider emitted text after completion"
    require (delta ≠ "") "provider emitted an empty text delta"
    let nextLength ← okOr (checkedAdd 64 (byteLen progress.text) (byteLen delta)) "provider output length overflow"
    require (nextLength ≤ maxOutputBytes) "provider output exceeds the frozen Config Epoch limit"
    return { progress with text := progress.text ++ delta, deltas := progress.deltas ++ [delta] }
  | .functionCall call => do
    require (progress.usage.isNone = true) "provider emitted a Tool call after completion"
    require (progress.toolCall.isNone = true) "provider emitted more than one Tool call"
    return { progress with toolCall := some call }
  | .completed record => do
    require (progress.usage.isNone = true) "provider emitted completion more than once"
    require (rest = []) "provider completion must be the final event"
    return { progress with usage := some record }

def providerSteps (maxOutputBytes : Nat) : ProviderProgress → List ProviderEvent → Except String ProviderProgress
  | progress, [] => .ok progress
  | progress, event :: rest => do
    let progress ← providerStep maxOutputBytes progress rest event
    providerSteps maxOutputBytes progress rest

def validateProviderEvents (events : List ProviderEvent) (maxOutputBytes : Nat) : Except String ValidatedProviderStep := do
  require (events ≠ []) "provider emitted no events"
  let progress ← providerSteps maxOutputBytes ⟨[], "", none, none⟩ events
  let usage ← okOr progress.usage "provider did not emit completion"
  require (progress.toolCall.isNone = true → isBlank progress.text = false) "provider output cannot be empty"
  match progress.toolCall with
  | some call => return .toolCall progress.deltas call usage
  | none => return .completed progress.deltas usage

def requireProviderSnapshot (provider : ProviderRuntime) (epoch : ProviderEpoch) : Except RuntimeError Unit :=
  require (provider.profileSnapshot = epoch.profileSnapshot ∧ provider.dialect = epoch.dialect)
    (.provider (.invalidConfiguration "Provider Runtime does not match the frozen Provider Profile snapshot"))

def validateFallbackSelection (selection : ModelSelection) (config : ConfigEpoch) : Except RuntimeError Unit :=
  require (selection.Matches config) (.invalidModelSelection "fallback Preset no longer matches its frozen Config")

def freezeProviderEpoch (id : ProviderEpochId) (profile model : String) (snapshot : Option ProviderProfileSnapshot)
    (dialect : Option ProviderDialect) : Except RuntimeError ProviderEpoch :=
  (match snapshot with
  | some snapshot => ProviderEpoch.withProfileSnapshotAndDialect id profile model snapshot dialect
  | none =>
    if profile = "simulator" then
      if dialect = none then ProviderEpoch.new id profile model
      else .error (.invalidConfiguration "simulator Provider cannot select a wire dialect")
    else .error (.invalidConfiguration "non-simulator provider requires a frozen Provider Profile snapshot")).mapError .provider

/-! ## Guards -/

namespace Kernel

variable (host : Host) (k : Kernel)

def requireReady : Except RuntimeError Unit :=
  match k.state.status with
  | .ready => .ok ()
  | status => .error (.busy status)

def requireNoToolReconciliation : Except RuntimeError Unit :=
  match k.tools.bind DurableToolRuntime.pendingReconciliation with
  | some call => .error (.toolReconciliationRequired call)
  | none => .ok ()

def readyTeam (team : DurableTeamRuntime) : Except RuntimeError Unit := (Team.KernelTeam.requireReady team).mapError .ofKernelTeam

def activeAgentContext (team : DurableTeamRuntime) (session : AgentSession) : Except RuntimeError AgentExecutionContext :=
  (team.runtime.trustedActiveAgentContext session).mapError fun source => .team (.team source)

def requireContextSafeBarrier : Except RuntimeError Unit := do
  k.requireReady
  k.requireNoToolReconciliation
  require (k.tools.all (fun tools => !tools.state.calls.values.any (·.status == .awaitingApproval)) = true)
    .contextCheckpointNotAtSafeBarrier
  k.team.forM readyTeam

def requireProviderSession (session : AgentSession) : Except RuntimeError Unit := do
  k.requireNoToolReconciliation
  require (k.tools.isSome = true) .toolUnavailable
  let team ← okOr k.team .teamUnavailable
  readyTeam team
  let _ ← activeAgentContext team session

/-- The Agent that a session of a ready Team stands for. -/
def sessionContext (session : AgentSession) : Except RuntimeError AgentExecutionContext := do
  let team ← okOr k.team .teamUnavailable
  readyTeam team
  activeAgentContext team session

def requirePendingContextModeExecution (turn : TurnId) : Except RuntimeError Unit :=
  match k.state.pending.filter (·.turn = turn) with
  | none => .ok ()
  | some pending => do
    let config ← okOr (k.state.configs.get pending.config) (.corruptState "pending Config Epoch is missing")
    requireContextModeExecution config.resolved.contextMode.value

/-! ## Contexts -/

def providerContextForHistory (history : List CanonicalItem) (mode : ContextMode) : Except RuntimeError (Option ContextRequestView) := do
  requireContextModeExecution mode
  if history.isEmpty then return none
  else
    match k.state.contextCheckpoint with
    | some checkpoint => return some (← (checkpoint.view.materializeRequest host.sha256 history).mapError .context)
    | none => return some (← (ContextRequestView.fromItems k.ledger.head history).mapError .context)

def pendingProviderContext : Except RuntimeError (PendingTurn × ConfigEpoch × ProviderRequest) := do
  let pending ← okOr (k.state.pending.filter (·.phase = .admitted)) (.busy k.state.status)
  let config ← okOr (k.state.configs.get pending.config) (.corruptState "pending Config Epoch is missing")
  let provider ← okOr (k.state.providers.get pending.provider) (.corruptState "pending Provider Epoch is missing")
  let thread ← okOr k.state.thread (.corruptState "pending Thread is missing")
  let turn ← okOr (k.state.turns.get pending.turn) (.corruptState "pending Turn is missing")
  let userIndex ← okOr (k.state.items.findIdx? (·.id = (turn.userItem : Nat))) (.corruptState "pending user Item is missing")
  require (userIndex + 1 = k.state.items.length) (.corruptState "pending user Item is not the latest canonical Item")
  let context ← k.providerContextForHistory host (k.state.items.take userIndex) config.resolved.contextMode.value
  return (pending, config, ⟨thread, pending.turn, config, provider, context, pending.input⟩)

def pendingMaxOutputBytes (turn : TurnId) : Except RuntimeError Nat := do
  let pending ← okOr (k.state.pending.filter fun pending => pending.turn = turn ∧ pending.phase = .admitted) (.busy k.state.status)
  let config ← okOr (k.state.configs.get pending.config) (.corruptState "pending Config Epoch is missing")
  return config.maxOutputBytes

/-! ## Plans -/

/-- The windows that an attempt falls in, by their names. -/
def windowsAt (startedAt : UsageTimestamp) : List UsageWindow → Except RuntimeError (List String)
  | [] => .ok []
  | window :: rest => do
    let inside ← (window.contains host.time host.localTime startedAt).mapError .usage
    let names ← windowsAt startedAt rest
    return if inside then window.id :: names else names

def usageAttemptFinishEvents (turn : TurnId) (attempt : Nat) (completedAt : UsageTimestamp) (outcome : UsageAttemptOutcome)
    (usage : Option UsageRecord) : Except RuntimeError (List RuntimeEvent) := do
  let pending ← okOr (k.state.pending.filter fun pending => pending.turn = turn ∧ pending.phase = .admitted) (.busy k.state.status)
  let opened ← okOr (pending.openUsageAttempt.filter (·.attempt = attempt)) (.corruptState "usage attempt is not active")
  let completedAt := if completedAt.unixMillis < opened.startedAt.unixMillis then opened.startedAt else completedAt
  let config ← okOr (k.state.configs.get pending.config) (.corruptState "pending Config Epoch is missing")
  let namedWindows ← windowsAt host opened.startedAt config.usageWindows
  let context ← k.state.usageContext turn
  let cost := RuntimeState.estimateFrozen context config opened.startedAt usage
  return [.usageAttemptFinished turn attempt completedAt outcome usage namedWindows true,
    .usageAttemptCostEvaluated turn attempt (.fromOutcome cost)]

/-- The events that open the next attempt at a Turn; one that is still open was interrupted. -/
def beginUsageAttemptEvents (turn : TurnId) (startedAt : UsageTimestamp) : Except RuntimeError (Nat × List RuntimeEvent) := do
  let pending ← okOr (k.state.pending.filter fun pending => pending.turn = turn ∧ pending.phase = .admitted) (.busy k.state.status)
  let config ← okOr (k.state.configs.get pending.config) (.corruptState "pending Config Epoch is missing")
  config.usageWindows.forM fun window => (window.requireCurrentRuleset host.time).mapError .usage
  let interrupted ← match pending.openUsageAttempt with
    | some opened => k.usageAttemptFinishEvents host turn opened.attempt startedAt .interrupted none
    | none => .ok []
  return (pending.nextUsageAttempt, interrupted ++ [.usageAttemptStarted turn pending.nextUsageAttempt startedAt])

/-- The identities that an output gets. -/
def outputIds : Except RuntimeError (ItemId × DeliveryId) := do
  let item ← nonzeroId "ItemId" k.state.nextItem
  let delivery ← nonzeroId "DeliveryId" k.state.nextDelivery
  return (item, delivery)

def outputEvents (turn : TurnId) (item : ItemId) (delivery : DeliveryId) (deltas : List String) (text : String)
    (usageRecords : List UsageRecord) : List RuntimeEvent :=
  .assistantItemStarted turn item :: deltas.map (.assistantTextDelta turn item) ++
    [.outputPrepared turn item delivery text usageRecords false]

structure TurnAdmission where
  usageWindows : List UsageWindow
  priceSchedules : PriceScheduleBook
  contextPressure : Option ContextPressureSnapshot
  input : String
  providerSnapshot : Option ProviderProfileSnapshot
  providerDialect : Option ProviderDialect
  primarySelection : Option ModelSelection
  fallbacks : List ProviderFallbackCandidate
  agent : Option AgentId

/-- A fallback with its snapshots. -/
structure FrozenFallback where
  frozen : FrozenProviderFallback
  config : ConfigEpoch
  provider : ProviderEpoch

/-- The loop over the fallbacks, from an offset to the next identities on. -/
def freezeFallbacks (usageWindows : List UsageWindow) (priceSchedules : PriceScheduleBook) :
    Nat → List ProviderFallbackCandidate → Except RuntimeError (List FrozenFallback)
  | _, [] => .ok []
  | offset, fallback :: rest => do
    let nextConfig ← okOr (checkedAdd 64 k.state.nextConfig offset) .integerOverflow
    let configId ← nonzeroId "ConfigEpochId" nextConfig
    let nextProvider ← okOr (checkedAdd 64 k.state.nextProvider offset) .integerOverflow
    let providerId ← nonzeroId "ProviderEpochId" nextProvider
    let config ← (ConfigEpoch.freeze configId fallback.layers usageWindows priceSchedules).mapError .config
    validateFallbackSelection fallback.selection config
    let provider ← freezeProviderEpoch providerId config.resolved.providerProfile.value config.resolved.providerModel.value
      fallback.providerSnapshot fallback.providerDialect
    let frozen ← freezeFallbacks usageWindows priceSchedules (offset + 1) rest
    return ⟨⟨fallback.selection.presetId, configId, providerId⟩, config, provider⟩ :: frozen

/-- A selection that is staged is the one that the Turn is admitted with. -/
def requirePendingSelection (config : ConfigEpoch) (agent : Option AgentId) (primary : Option ModelSelection) : Except RuntimeError Unit :=
  k.state.pendingModelSelection.forM fun pending =>
    require (agent = some pending.agent ∧ pending.selection.Matches config ∧ ∀ selection ∈ primary, selection = pending.selection)
      (.invalidModelSelection "pending Preset no longer matches the next Turn")

def admissionEvents (created : Bool) (thread : ThreadId) (turn : TurnId) (userItem : ItemId) (config : ConfigEpoch)
    (provider : ProviderEpoch) (fallbacks : List FrozenFallback) (agent : Option AgentId) (input : String) : List RuntimeEvent :=
  (if created then [.threadCreated thread] else []) ++ [.configFrozen config, .providerFrozen provider] ++
    fallbacks.flatMap (fun fallback => [.configFrozen fallback.config, .providerFrozen fallback.provider]) ++
    [.turnAdmitted thread turn userItem config.id provider.id (fallbacks.map (·.frozen)) agent input]

/-- The Thread of the next Turn, which the first Turn creates. -/
def admissionThread : Except RuntimeError ThreadId :=
  match k.state.thread with
  | some thread => .ok thread
  | none => nonzeroId "ThreadId" k.state.nextThread

/-- `admit_turn` before its commit. -/
def admitTurnEvents (layers : ConfigLayers) (admission : TurnAdmission) : Except RuntimeError (List RuntimeEvent) := do
  k.requireReady
  k.requireNoToolReconciliation
  validateInput admission.input
  admission.contextPressure.forM fun pressure => require (pressure.admission ≠ .stop) (.contextAdmissionBlocked pressure)
  requireLayersContextModeExecution layers
  admission.fallbacks.forM fun fallback => requireLayersContextModeExecution fallback.layers
  let thread ← k.admissionThread
  let turn ← nonzeroId "TurnId" k.state.nextTurn
  let userItem ← nonzeroId "ItemId" k.state.nextItem
  let configId ← nonzeroId "ConfigEpochId" k.state.nextConfig
  let providerId ← nonzeroId "ProviderEpochId" k.state.nextProvider
  admission.usageWindows.forM fun window => (window.requireCurrentRuleset host.time).mapError .usage
  let config ← (ConfigEpoch.freeze configId layers admission.usageWindows admission.priceSchedules).mapError .config
  let _ ← k.providerContextForHistory host k.state.items config.resolved.contextMode.value
  admission.primarySelection.forM fun selection => validateFallbackSelection selection config
  k.requirePendingSelection config admission.agent admission.primarySelection
  let provider ← freezeProviderEpoch providerId config.resolved.providerProfile.value config.resolved.providerModel.value
    admission.providerSnapshot admission.providerDialect
  let fallbacks ← k.freezeFallbacks admission.usageWindows admission.priceSchedules 1 admission.fallbacks
  return admissionEvents k.state.thread.isNone thread turn userItem config provider fallbacks admission.agent admission.input

/-- What a stored selection needs of the kernel. -/
def stageModelSelectionEvents (session : AgentSession) (selection : ModelSelection) : Except RuntimeError (List RuntimeEvent) := do
  k.requireProviderSession session
  k.requireReady
  selection.validate
  require (k.state.pendingModelSelection.all (·.agent = session.agent) = true)
    (.invalidModelSelection "another Agent already owns the pending selection")
  return [.modelSelectionStaged session.agent selection]

def prepareContextCheckpoint (policy : ContextReductionPolicy) : Except RuntimeError ReducedContextView := do
  k.requireContextSafeBarrier
  (ReducedContextView.fromItems host.sha256 k.ledger.head k.state.items policy).mapError .context

def publishContextCheckpointEvents (draft : ReducedContextView) : Except RuntimeError (List RuntimeEvent) := do
  k.requireContextSafeBarrier
  let checkpoint : ContextCheckpoint := ⟨draft⟩
  require (checkpoint.sourceHead = k.ledger.head) (.staleContextCheckpoint checkpoint.sourceHead k.ledger.head)
  return [.contextCheckpointPublished checkpoint]

/-- The events of an acknowledgement, or none where it was acknowledged. -/
def acknowledgeEvents (delivery : DeliveryId) : Except RuntimeError (Option (List RuntimeEvent)) :=
  if delivery ∈ k.state.acknowledged then .ok none
  else do
    let pending ← okOr k.state.pending (.unknownDelivery delivery)
    let prepared ← okOr pending.prepared (.unknownDelivery delivery)
    require (prepared.delivery = delivery) (.unknownDelivery delivery)
    return some [.outputAcknowledged pending.turn delivery, .turnCompleted pending.turn]

/-- Blocked by the Provider. -/
def providerBlocked (pending : PendingTurn) : Bool := pending.phase = .blocked ∧ pending.blockOrigin = some .provider

/-- The events of a cancellation, or none where it was cancelled. -/
def cancelProviderBlockedTurnEvents (agent : Option AgentId) (turn : TurnId) : Except RuntimeError (Option (List RuntimeEvent)) := do
  let record ← okOr (k.state.turns.get turn) (.unknownTurn turn)
  require (record.agent = agent) (.turnCancellationNotAllowed turn)
  if record.cancelled then return none
  else
    let pending ← okOr (k.state.pending.filter (·.turn = turn)) (.turnCancellationNotAllowed turn)
    require (providerBlocked pending = true) (.turnCancellationNotAllowed turn)
    return some [.turnCancelled turn]

def requestProviderRetryEvents (agent : Option AgentId) (turn : TurnId) : Except RuntimeError (List RuntimeEvent) := do
  k.requirePendingContextModeExecution turn
  let record ← okOr (k.state.turns.get turn) (.unknownTurn turn)
  require (record.agent = agent ∧ record.completed = false ∧ record.cancelled = false) (.turnRetryNotAllowed turn)
  let pending ← okOr (k.state.pending.filter (·.turn = turn)) (.turnRetryNotAllowed turn)
  require (providerBlocked pending = true ∧ providerStageIsRetryable pending.providerUnavailableStage = true) (.turnRetryNotAllowed turn)
  return [.turnRetryRequested turn]

/-- The events of the step to the next fallback, or none where there is no such step. -/
def advanceProviderFallbackEvents (agent : Option AgentId) (turn : TurnId) : Except RuntimeError (Option (List RuntimeEvent)) := do
  k.requirePendingContextModeExecution turn
  let record ← okOr (k.state.turns.get turn) (.unknownTurn turn)
  match k.state.pending.filter (·.turn = turn) with
  | none => return none
  | some pending =>
    let nextIndex ← okOr (checkedAdd 32 pending.fallbackIndex 1) .integerOverflow
    if record.agent = agent ∧ record.completed = false ∧ record.cancelled = false ∧ providerBlocked pending = true ∧
        providerStageIsRetryable pending.providerUnavailableStage = true ∧ nextIndex ≤ record.fallbacks.length then
      return some [.providerFallbackRequested turn nextIndex]
    else return none

end Kernel

end GreenTyper.Runtime
