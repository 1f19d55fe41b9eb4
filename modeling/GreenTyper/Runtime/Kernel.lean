/-
  GreenTyper.Runtime.Kernel — the operations of the Runtime kernel (`RuntimeKernel` of
  `runtime.rs`), and a world in which its process opens, works and crashes.

  An operation plans events from the state and commits them: a commit applies them to a
  copy of the state, appends them, and only then publishes the copy. An operation that fails
  leaves what it did before; a process that dies between two writes is one whose next write
  is refused.
-/

import GreenTyper.Lib.Program
import GreenTyper.Runtime.Plans

namespace GreenTyper.Runtime

open Lib Config Context Provider Usage
open GreenTyper.Ledger (LedgerHead WriteOutcome)
open GreenTyper.Team (AgentId AgentSession AgentExecutionContext DurableTeamRuntime KernelTeam.KernelTeamError TeamCommand
  TeamOperationId TeamOperationCommit TeamOperationAcknowledgeOutcome)
open GreenTyper.Tool (DurableToolRuntime ToolArguments ToolIntent ToolPrincipal ToolResources ToolRequestOutcome ToolCallOutcome
  ToolCallRecord ToolCallId ToolApprovalRequest ApprovalDecision AuthorizedToolCall ToolExecution ToolReconciliationDecision
  ToolRuntimeError)

abbrev KernelM := Program Kernel RuntimeError

namespace Kernel

variable (host : Host)

/-! ## Writing -/

/-- The copy of the state that a commit publishes. -/
def candidate (k : Kernel) (events : List RuntimeEvent) : Except RuntimeError RuntimeState := do
  let candidate ← k.state.applyAll host.sha256 events
  candidate.validateQuiescent
  return candidate

/-- The append of a commit, and what is published after it. -/
def publish (events : List RuntimeEvent) (state : RuntimeState) (k : Kernel) : Except RuntimeError LedgerHead × Kernel :=
  match k.ledger.append events (host.append k.tick) with
  | (.error e, ledger) => (.error e, { k with ledger, tick := k.tick + 1 })
  | (.ok head, ledger) => (.ok head, { k with ledger, state, tick := k.tick + 1 })

def commit (events : List RuntimeEvent) : KernelM LedgerHead := .step fun k =>
  match k.candidate host events with
  | .error e => (.error e, k)
  | .ok state => k.publish host events state

def now : KernelM UsageTimestamp := .step fun k => ((host.now k.tick).mapError .usage, { k with tick := k.tick + 1 })

/-- A part of the Team's work. -/
def teamStep {α : Type} (work : DurableTeamRuntime → WriteOutcome → Except KernelTeam.KernelTeamError α × DurableTeamRuntime) : KernelM α :=
  .step fun k =>
    match k.team with
    | none => (.error .teamUnavailable, k)
    | some team =>
      ((work team (host.teamWrite k.tick)).1.mapError .ofKernelTeam,
        { k with team := some (work team (host.teamWrite k.tick)).2, tick := k.tick + 1 })

/-- A part of the Tool runtime's work. -/
def toolStep {α : Type} (work : DurableToolRuntime → Nat → Except ToolRuntimeError α × DurableToolRuntime) : KernelM α :=
  .step fun k =>
    match k.tools with
    | none => (.error .toolUnavailable, k)
    | some tools => ((work tools k.tick).1.mapError .tool, { k with tools := some (work tools k.tick).2, tick := k.tick + 1 })

/-! ## Calls outside -/

/-- The kernel after a call. -/
def called (k : Kernel) (call : OutsideCall) : Kernel :=
  { k with tick := k.tick + 1, calls := k.calls ++ [(call, k.tools.map (·.state))] }

def callProvider (provider : ProviderRuntime) (request : ProviderRequest) : KernelM (Except ProviderError (List ProviderEvent)) :=
  .step fun k => (.ok (provider.run k.tick request), k.called (.asked request))

def callContinuation (provider : ProviderRuntime) (request : ProviderRequest) (output : ProviderToolOutput) :
    KernelM (Except ProviderError (List ProviderEvent)) :=
  .step fun k => (.ok (provider.continueAfterTool k.tick request output), k.called (.continued request output))

def callExecutor (executor : Nat → AuthorizedToolCall → ToolExecution) (call : AuthorizedToolCall) : KernelM ToolExecution :=
  .step fun k => (.ok (executor k.tick call), k.called (.executed call))

/-! ## Attempts -/

def beginUsageAttempt (turn : TurnId) : KernelM Nat := do
  let startedAt ← now host
  let begun ← .read fun k => k.beginUsageAttemptEvents host turn startedAt
  let _ ← commit host begun.2
  return begun.1

def finishUsageAttempt (turn : TurnId) (attempt : Nat) (outcome : UsageAttemptOutcome) (usage : Option UsageRecord) : KernelM Unit := do
  let completedAt ← now host
  let events ← .read fun k => k.usageAttemptFinishEvents host turn attempt completedAt outcome usage
  let _ ← commit host events
  return ()

def finishUsageAttemptAndBlockWithStage (turn : TurnId) (attempt : Nat) (outcome : UsageAttemptOutcome) (usage : Option UsageRecord)
    (reason : String) (providerUnavailableStage : Option ProviderUnavailableStage) : KernelM Unit := do
  let completedAt ← now host
  let events ← .read fun k => k.usageAttemptFinishEvents host turn attempt completedAt outcome usage
  let _ ← commit host (events ++ [.turnBlocked turn (boundedReason reason) .provider providerUnavailableStage])
  return ()

def finishUsageAttemptAndBlock (turn : TurnId) (attempt : Nat) (outcome : UsageAttemptOutcome) (usage : Option UsageRecord)
    (reason : String) : KernelM Unit :=
  finishUsageAttemptAndBlockWithStage host turn attempt outcome usage reason none

def finishUsageAttemptAndBlockForProviderError (turn : TurnId) (attempt : Nat) (source : ProviderError) : KernelM Unit :=
  finishUsageAttemptAndBlockWithStage host turn attempt .failed none (providerBlockReason source) source.unavailableStage

def blockPending (turn : TurnId) (reason : String) : KernelM Unit := do
  let _ ← commit host [.turnBlocked turn (boundedReason reason) .other none]
  return ()

/-- Ends the attempt, blocks its Turn and fails. -/
def rejectOutput {α : Type} (turn : TurnId) (attempt : Nat) (outcome : UsageAttemptOutcome) (usage : Option UsageRecord)
    (reason text : String) : KernelM α := do
  finishUsageAttemptAndBlock host turn attempt outcome usage reason
  .fail (.invalidProviderOutput text)

/-- Blocks the Turn and fails. -/
def blockAndFail {α : Type} (turn : TurnId) (reason : String) (error : RuntimeError) : KernelM α := do
  blockPending host turn reason
  .fail error

/-! ## Output -/

inductive JoinFailure where
  | overflow
  | tooLarge

/-- The text of the deltas, or why the loop over them stops. -/
def joinDeltas (maxOutputBytes : Nat) : String → List String → Except JoinFailure String
  | text, [] => .ok text
  | text, delta :: rest => do
    let nextLength ← okOr (checkedAdd 64 (byteLen text) (byteLen delta)) .overflow
    require (nextLength ≤ maxOutputBytes) .tooLarge
    joinDeltas maxOutputBytes (text ++ delta) rest

/-- The rest of `prepare_output` once its text is known. -/
def prepareText (turn : TurnId) (deltas : List String) (text : String) (usageRecords : List UsageRecord) (attempt : Nat)
    (currentUsage : UsageRecord) : KernelM PreparedOutput := do
  let ids ← .read fun k => k.outputIds
  let completedAt ← now host
  let finish ← .read fun k => k.usageAttemptFinishEvents host turn attempt completedAt .succeeded (some currentUsage)
  let receipt ← commit host (finish ++ outputEvents turn ids.1 ids.2 deltas text usageRecords)
  return ⟨ids.2, turn, text, usageRecords, receipt⟩

def prepareOutput (turn : TurnId) (deltas : List String) (usageRecords : List UsageRecord) (attempt : Nat)
    (currentUsage : UsageRecord) : KernelM PreparedOutput :=
  if usageRecords = [] ∨ maxUsageRecordsPerTurn < usageRecords.length then
    rejectOutput host turn attempt .succeeded (some currentUsage) "Provider usage record count is invalid"
      "Provider usage record count is invalid"
  else do
    let maxOutputBytes ← .read fun k => k.pendingMaxOutputBytes turn
    match joinDeltas maxOutputBytes "" deltas with
    | .error .overflow => .fail .integerOverflow
    | .error .tooLarge =>
      rejectOutput host turn attempt .succeeded (some currentUsage) "Provider output exceeds the frozen Config Epoch limit"
        "Provider output exceeds the frozen Config Epoch limit"
    | .ok text =>
      if isBlank text then
        rejectOutput host turn attempt .succeeded (some currentUsage) "Provider output cannot be empty" "Provider output cannot be empty"
      else prepareText host turn deltas text usageRecords attempt currentUsage

/-! ## Turns -/

def admitTurn (layers : ConfigLayers) (admission : TurnAdmission) : KernelM Unit := do
  let events ← .read fun k => k.admitTurnEvents host layers admission
  let _ ← commit host events
  return ()

/-- What a Provider is asked about a Turn. -/
structure Asked where
  pending : PendingTurn
  config : ConfigEpoch
  request : ProviderRequest
  attempt : Nat
  events : List ProviderEvent

/-- `drive_pending` and `drive_provider_turn` up to the Provider's answer. -/
def askProvider (provider : ProviderRuntime) : KernelM Asked := do
  let planned ← .read fun k => k.pendingProviderContext host
  .read fun _ => requireProviderSnapshot provider planned.2.2.provider
  let attempt ← beginUsageAttempt host planned.1.turn
  match ← callProvider provider planned.2.2 with
  | .ok events => return ⟨planned.1, planned.2.1, planned.2.2, attempt, events⟩
  | .error source => do
    finishUsageAttemptAndBlockForProviderError host planned.1.turn attempt source
    .fail (.provider source)

def drivePending (provider : ProviderRuntime) : KernelM PreparedOutput := do
  let asked ← askProvider host provider
  match validateProviderEvents asked.events asked.config.maxOutputBytes with
  | .ok (.completed deltas usageRecord) => prepareOutput host asked.pending.turn deltas [usageRecord] asked.attempt usageRecord
  | .ok (.toolCall _ _ usageRecord) =>
    rejectOutput host asked.pending.turn asked.attempt .succeeded (some usageRecord) "Provider requested an unavailable Tool"
      "Provider requested a Tool through the text-only interface"
  | .error reason => rejectOutput host asked.pending.turn asked.attempt .failed none reason reason

/-! ## Tools -/

def requestToolCall (session : AgentSession) (intent : ToolIntent) : KernelM ToolRequestOutcome := do
  .read fun k => k.requireNoToolReconciliation
  let context ← .read fun k => k.sessionContext session
  toolStep fun tools tick =>
    tools.request host.toolSha256 ⟨session, context.agent, context.capabilities, context.stored⟩ intent (host.toolWrite tick)

/-- `resolve` of the Tool runtime: the call of the executor is between two of its writes. -/
def resolveAuthorized (context : AgentExecutionContext) (request : ToolApprovalRequest) (decision : ApprovalDecision)
    (executor : Nat → AuthorizedToolCall → ToolExecution) : KernelM ToolCallOutcome := do
  let authorization ← toolStep fun tools tick =>
    tools.authorize host.toolSha256 ⟨request.session, context.agent, context.capabilities, context.stored⟩ request decision
      (host.toolNow tick) (host.toolWrite tick)
  match authorization with
  | .denied outcome => return outcome
  | .authorized call => do
    let execution ← callExecutor executor call
    toolStep fun tools tick => tools.recordExecution host.toolSha256 request execution (host.toolWrite tick)

def resolveToolCall (request : ToolApprovalRequest) (decision : ApprovalDecision)
    (executor : Nat → AuthorizedToolCall → ToolExecution) : KernelM ToolCallOutcome := do
  .read fun k => k.requireNoToolReconciliation
  let context ← .read fun k => k.sessionContext request.session
  resolveAuthorized host context request decision executor

def reconcileToolCall (session : AgentSession) (call : ToolCallId) (decision : ToolReconciliationDecision) :
    KernelM ToolCallRecord := do
  let team ← .read fun k => okOr k.team .teamUnavailable
  let context ← .read fun _ => activeAgentContext team session
  toolStep fun tools tick =>
    tools.reconcile ⟨session, context.agent, context.capabilities, context.stored⟩ call decision (host.toolWrite tick)

/-- The intent that a Tool call of a Provider stands for. -/
def providerToolIntent (turn : TurnId) (call : ProviderToolCall) (arguments : ToolArguments) (resources : ToolResources) :
    Except ToolRuntimeError ToolIntent := do
  let intent : ToolIntent := ⟨providerToolIdentity host.sha256 turn call.callId, call.tool, arguments, resources⟩
  intent.validate
  return intent

/-- `drive_provider_turn` from the Tool call that the Provider asked for on. -/
def driveToolCall (session : AgentSession) (asked : Asked) (deltas : List String) (call : ProviderToolCall) (usageRecord : UsageRecord)
    (mapResources : ProviderToolCall → Except RuntimeError ToolResources) : KernelM ProviderTurnOutcome := do
  finishUsageAttempt host asked.pending.turn asked.attempt .succeeded (some usageRecord)
  match ToolArguments.parse host.json call.argumentsJson with
  | .error error => blockAndFail host asked.pending.turn "Provider Tool arguments were rejected" (.tool error)
  | .ok arguments =>
    match mapResources call with
    | .error error => blockAndFail host asked.pending.turn "Provider Tool resources were rejected" error
    | .ok resources =>
      match providerToolIntent host asked.pending.turn call arguments resources with
      | .error error => blockAndFail host asked.pending.turn "Provider Tool intent was rejected" (.tool error)
      | .ok intent => do
        match ← requestToolCall host session intent with
        | .approvalRequired request =>
          return .approvalRequired ⟨request, asked.request, call.callId, deltas, [usageRecord]⟩
        | .existing record =>
          if record.status = .reconciliationRequired then .fail (.toolReconciliationRequired record.call)
          else if record.status = .succeeded then
            blockAndFail host asked.pending.turn "Provider Tool result is unavailable after recovery"
              (.providerToolResultUnavailable record.call)
          else
            blockAndFail host asked.pending.turn "Provider Tool call already terminated"
              (.providerToolCallTerminated record.call record.status)

def driveProviderTurn (session : AgentSession) (provider : ProviderRuntime)
    (mapResources : ProviderToolCall → Except RuntimeError ToolResources) : KernelM ProviderTurnOutcome := do
  let asked ← askProvider host provider
  match validateProviderEvents asked.events asked.config.maxOutputBytes with
  | .ok (.completed deltas usageRecord) => do
    let output ← prepareOutput host asked.pending.turn deltas [usageRecord] asked.attempt usageRecord
    return .prepared output
  | .ok (.toolCall deltas call usageRecord) => driveToolCall host session asked deltas call usageRecord mapResources
  | .error reason => rejectOutput host asked.pending.turn asked.attempt .failed none reason reason

/-- `resolve_provider_tool_call` from the Tool's output on. -/
def continueProviderTurn (approval : ProviderToolApproval) (output : ProviderToolOutput) (provider : ProviderRuntime) :
    KernelM PreparedOutput := do
  let turn := approval.providerRequest.turn
  let attempt ← beginUsageAttempt host turn
  match ← callContinuation provider approval.providerRequest output with
  | .error source => do
    finishUsageAttemptAndBlock host turn attempt .failed none (providerBlockReason source)
    .fail (.provider source)
  | .ok events => do
    let maxOutputBytes ← .read fun k => k.pendingMaxOutputBytes turn
    match validateProviderEvents events maxOutputBytes with
    | .ok (.completed deltas usageRecord) =>
      prepareOutput host turn (approval.leadingDeltas ++ deltas) (approval.usageRecords ++ [usageRecord]) attempt usageRecord
    | .ok (.toolCall _ _ usageRecord) =>
      rejectOutput host turn attempt .succeeded (some usageRecord) "Provider continuation requested another Tool call"
        "Provider continuation requested more than one Tool call"
    | .error reason => rejectOutput host turn attempt .failed none reason reason

/-- The bytes that a Tool returned, as a Provider gets them. -/
def resolveProviderToolOutput (approval : ProviderToolApproval) (output : List Byte) (provider : ProviderRuntime) :
    KernelM PreparedOutput :=
  match fromUtf8 output with
  | none =>
    blockAndFail host approval.providerRequest.turn "Provider Tool output is not UTF-8"
      (.invalidProviderOutput "Provider Tool output is not UTF-8")
  | some text =>
    match ProviderToolOutput.new approval.providerCallId text with
    | .error source => blockAndFail host approval.providerRequest.turn (providerBlockReason source) (.provider source)
    | .ok output => continueProviderTurn host approval output provider

def resolveProviderToolCall (approval : ProviderToolApproval) (decision : ApprovalDecision)
    (executor : Nat → AuthorizedToolCall → ToolExecution) (provider : ProviderRuntime) : KernelM PreparedOutput := do
  .read fun _ => requireContextModeExecution approval.providerRequest.config.resolved.contextMode.value
  .read fun _ => requireProviderSnapshot provider approval.providerRequest.provider
  match ← resolveToolCall host approval.request decision executor with
  | .succeeded _ output => resolveProviderToolOutput host approval output provider
  | .denied record | .failed record =>
    blockAndFail host approval.providerRequest.turn "Provider Tool call did not succeed"
      (.providerToolCallTerminated record.call record.status)
  | .reconciliationRequired record => .fail (.toolReconciliationRequired record.call)

/-! ## Recovery of a Turn -/

/-- The commit of events that there may be none of. -/
def commitSome : Option (List RuntimeEvent) → KernelM (Option LedgerHead)
  | none => return none
  | some events => do
    let receipt ← commit host events
    return some receipt

def acknowledge (delivery : DeliveryId) : KernelM (Option LedgerHead) := do
  let events ← .read fun k => k.acknowledgeEvents delivery
  commitSome host events

def cancelProviderBlockedTurn (agent : Option AgentId) (turn : TurnId) : KernelM (Option LedgerHead) := do
  let events ← .read fun k => k.cancelProviderBlockedTurnEvents agent turn
  commitSome host events

def requestProviderRetry (agent : Option AgentId) (turn : TurnId) : KernelM LedgerHead := do
  let events ← .read fun k => k.requestProviderRetryEvents agent turn
  commit host events

def advanceProviderFallback (agent : Option AgentId) (turn : TurnId) : KernelM (Option LedgerHead) := do
  let events ← .read fun k => k.advanceProviderFallbackEvents agent turn
  commitSome host events

/-- The next fallback where there is one, and a retry where there is none. -/
def requestProviderRecovery (agent : Option AgentId) (turn : TurnId) : KernelM LedgerHead := do
  match ← advanceProviderFallback host agent turn with
  | some receipt => return receipt
  | none => requestProviderRetry host agent turn

/-- The loop over the Providers of a Turn, each driven until one does not fail. -/
def driveCandidates {α : Type} (agent : Option AgentId) (drive : ProviderRuntime → KernelM α) : List ProviderRuntime → KernelM α
  | [] => .fail .indexOutOfBounds
  | provider :: rest => do
    match ← (drive provider).attempt with
    | .ok outcome => return outcome
    | .error (.provider source) => do
      let turn ← .read fun k => okOr (k.state.pending.map (·.turn)) (.corruptState "Provider fallback Turn is missing")
      match ← advanceProviderFallback host agent turn with
      | none => .fail (.provider source)
      | some _ => driveCandidates agent drive rest
    | .error source => .fail source

/-- Each candidate is the one of its Provider. -/
def requireCandidates (candidates : List ProviderFallbackCandidate) (providers : List ProviderRuntime) : Except RuntimeError Unit :=
  (candidates.zip providers).forM fun pair =>
    require (pair.1.providerSnapshot = pair.2.profileSnapshot ∧ pair.1.providerDialect = pair.2.dialect)
      (.provider (.invalidConfiguration "Provider Runtime does not match its fallback candidate"))

def admitProviderFallbackTurn (candidates : List ProviderFallbackCandidate) (usageWindows : List UsageWindow)
    (priceSchedules : PriceScheduleBook) (input : String) (providers : List ProviderRuntime) (agent : Option AgentId) : KernelM Unit :=
  match candidates with
  | [] => .fail (.invalidModelSelection "Provider fallback plan is invalid")
  | primary :: fallbacks => do
    .read fun _ => require (candidates.length ≤ maxModelPresetFallbackCandidates ∧ candidates.length = providers.length)
      (.invalidModelSelection "Provider fallback plan is invalid")
    .read fun _ => requireCandidates candidates providers
    admitTurn host primary.layers {
      usageWindows, priceSchedules
      contextPressure := none
      input
      providerSnapshot := primary.providerSnapshot
      providerDialect := primary.providerDialect
      primarySelection := some primary.selection
      fallbacks, agent
    }

/-! ## Operations -/

/-- The admission of a Turn for one Provider. -/
def singleAdmission (usageWindows : List UsageWindow) (priceSchedules : PriceScheduleBook)
    (contextPressure : Option ContextPressureSnapshot) (input : String) (provider : ProviderRuntime) (agent : Option AgentId) :
    TurnAdmission where
  usageWindows := usageWindows
  priceSchedules := priceSchedules
  contextPressure := contextPressure
  input := input
  providerSnapshot := provider.profileSnapshot
  providerDialect := provider.dialect
  primarySelection := none
  fallbacks := []
  agent := agent

def executeWithObservability (layers : ConfigLayers) (usageWindows : List UsageWindow) (priceSchedules : PriceScheduleBook)
    (input : String) (provider : ProviderRuntime) : KernelM PreparedOutput := do
  admitTurn host layers (singleAdmission usageWindows priceSchedules none input provider none)
  drivePending host provider

def executeWithUsageWindows (layers : ConfigLayers) (usageWindows : List UsageWindow) (input : String) (provider : ProviderRuntime) :
    KernelM PreparedOutput :=
  executeWithObservability host layers usageWindows .default input provider

def execute (layers : ConfigLayers) (input : String) (provider : ProviderRuntime) : KernelM PreparedOutput :=
  executeWithUsageWindows host layers [] input provider

def executeWithProviderFallbacks (candidates : List ProviderFallbackCandidate) (usageWindows : List UsageWindow)
    (priceSchedules : PriceScheduleBook) (input : String) (providers : List ProviderRuntime) : KernelM PreparedOutput := do
  admitProviderFallbackTurn host candidates usageWindows priceSchedules input providers none
  driveCandidates host none (drivePending host) providers

def executeProviderTurnWithFallbacks (session : AgentSession) (candidates : List ProviderFallbackCandidate)
    (usageWindows : List UsageWindow) (priceSchedules : PriceScheduleBook) (input : String) (providers : List ProviderRuntime)
    (mapResources : ProviderToolCall → Except RuntimeError ToolResources) : KernelM ProviderTurnOutcome := do
  .read fun k => k.requireProviderSession session
  admitProviderFallbackTurn host candidates usageWindows priceSchedules input providers (some session.agent)
  driveCandidates host (some session.agent) (driveProviderTurn host session · mapResources) providers

def publishContextCheckpoint (draft : ReducedContextView) : KernelM LedgerHead := do
  let events ← .read fun k => k.publishContextCheckpointEvents draft
  commit host events

/-- Soft pressure asks for a checkpoint. -/
def relievePressure (layers : ConfigLayers) (pressure : ContextPressureSnapshot) (input : String) : KernelM Unit :=
  if pressure.admission = .reduce then do
    .read fun _ => validateInput input
    .read fun _ => requireLayersContextModeExecution layers
    let draft ← .read fun k => k.prepareContextCheckpoint host .default
    let _ ← publishContextCheckpoint host draft
    return ()
  else return ()

def executeWithContextPressure (layers : ConfigLayers) (pressure : ContextPressureSnapshot) (input : String)
    (provider : ProviderRuntime) : KernelM PreparedOutput := do
  relievePressure host layers pressure input
  admitTurn host layers (singleAdmission [] .default (some pressure) input provider none)
  drivePending host provider

def executeProviderTurnWithObservability (session : AgentSession) (layers : ConfigLayers) (usageWindows : List UsageWindow)
    (priceSchedules : PriceScheduleBook) (input : String) (provider : ProviderRuntime)
    (mapResources : ProviderToolCall → Except RuntimeError ToolResources) : KernelM ProviderTurnOutcome := do
  .read fun k => k.requireProviderSession session
  admitTurn host layers (singleAdmission usageWindows priceSchedules none input provider (some session.agent))
  driveProviderTurn host session provider mapResources

/-- Only a Turn that waits for its Provider is resumed. -/
def requireResumable (k : Kernel) : Except RuntimeError Unit :=
  match k.state.status with
  | .resumeRequired _ => .ok ()
  | status => .error (.busy status)

def resume (provider : ProviderRuntime) : KernelM PreparedOutput := do
  .read fun k => k.requireNoToolReconciliation
  .read requireResumable
  drivePending host provider

def resumeProviderTurn (session : AgentSession) (provider : ProviderRuntime)
    (mapResources : ProviderToolCall → Except RuntimeError ToolResources) : KernelM ProviderTurnOutcome := do
  .read fun k => k.requireProviderSession session
  .read requireResumable
  driveProviderTurn host session provider mapResources

def stageModelSelection (session : AgentSession) (selection : ModelSelection) : KernelM LedgerHead := do
  let events ← .read fun k => k.stageModelSelectionEvents session selection
  commit host events

def dispatchTeam (command : TeamCommand) : KernelM TeamOperationCommit := do
  .read fun k => k.requireNoToolReconciliation
  .read fun k => k.requireReady
  teamStep host fun team write => Team.KernelTeam.dispatch team command write

def acknowledgeTeamOperation (operation : TeamOperationId) : KernelM TeamOperationAcknowledgeOutcome := do
  .read fun k => k.requireNoToolReconciliation
  .read fun k => k.requireReady
  teamStep host fun team write => Team.KernelTeam.acknowledge team operation write

def cancelBlockedTurn (turn : TurnId) : KernelM (Option LedgerHead) := cancelProviderBlockedTurn host none turn

def cancelBlockedProviderTurn (session : AgentSession) (turn : TurnId) : KernelM (Option LedgerHead) := do
  .read fun k => k.requireProviderSession session
  cancelProviderBlockedTurn host (some session.agent) turn

def requestBlockedTurnRetry (turn : TurnId) : KernelM LedgerHead := do
  .read fun k => k.requireNoToolReconciliation
  requestProviderRetry host none turn

def requestBlockedProviderTurnRetry (session : AgentSession) (turn : TurnId) : KernelM LedgerHead := do
  .read fun k => k.requireProviderSession session
  requestProviderRetry host (some session.agent) turn

def requestBlockedTurnRecovery (turn : TurnId) : KernelM LedgerHead := do
  .read fun k => k.requireNoToolReconciliation
  requestProviderRecovery host none turn

def requestBlockedProviderTurnRecovery (session : AgentSession) (turn : TurnId) : KernelM LedgerHead := do
  .read fun k => k.requireProviderSession session
  requestProviderRecovery host (some session.agent) turn

end Kernel

end GreenTyper.Runtime
