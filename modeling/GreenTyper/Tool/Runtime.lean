/-
  GreenTyper.Tool.Runtime — the durable Tool runtime (`DurableToolRuntime` of
  `tool_runtime.rs`): opening a Ledger and replaying it, requesting a call, resolving its
  approval, and reconciling it.

  `resolve` calls the executor between two appends. It is here in two parts, `authorize`
  up to the call and `recordExecution` from what the executor returned, so that a crash
  can fall between any two of its steps. The clock's answer is an argument.
-/

import GreenTyper.Tool.Codec

namespace GreenTyper.Tool

open GreenTyper.Lib
open GreenTyper.Ledger (StoredEvent FileLedger ReplayReport WriteOutcome DurabilityReceipt)
open GreenTyper.Team (AgentId Capability CapabilitySnapshot)

/-! ## Replay -/

/-- The stored events of the transaction that `first` begins, at `position` of the log. -/
def storedTransaction (position : Nat) (first : StoredEvent) (rest : List StoredEvent) :
    Except ToolRuntimeError (List StoredEvent) := do
  let _ ← okOr (checkedAdd 64 position first.eventsInTransaction) .integerOverflow
  require (first.eventsInTransaction ≠ 0 ∧ first.eventsInTransaction ≤ rest.length + 1)
    (.corruptEvent "incomplete Tool Event transaction")
  let stored := (first :: rest).take first.eventsInTransaction
  require (stored.any (fun event => event.transaction != first.transaction) = false)
    (.corruptEvent "mixed Tool Ledger transactions")
  return stored

/-- The loop of `replay_state`, on the events from `position` on. -/
def replayFrom (json : PayloadReader) (position : Nat) (events : List StoredEvent) (state : ToolState) :
    Except ToolRuntimeError ToolState :=
  match events with
  | [] => .ok state
  | first :: rest =>
    match storedTransaction position first rest with
    | .error e => .error e
    | .ok stored => do
      let decoded ← stored.mapM (decodeEvent json)
      let state ← state.applyTransaction decoded
      -- The transaction is not empty: its first event is gone from what is left.
      replayFrom json (position + first.eventsInTransaction) (rest.drop (first.eventsInTransaction - 1)) state
termination_by events.length
decreasing_by simp only [List.length_drop, List.length_cons]; omega

def replayState (json : PayloadReader) (events : List StoredEvent) : Except ToolRuntimeError ToolState :=
  replayFrom json 0 events .default

/-! ## Authority -/

def validateToolCapability (capabilities : CapabilitySnapshot) (tool : String) : Except ToolRuntimeError Unit :=
  require (Capability.tool tool ∈ capabilities) (.capabilityDenied (.tool tool))

def validateAuthority (capabilities : CapabilitySnapshot) (intent : ToolIntent) : Except ToolRuntimeError Unit := do
  validateToolCapability capabilities intent.tool
  intent.resources.requireCapabilities capabilities

def validateRecordAuthority (capabilities : CapabilitySnapshot) (record : ToolCallRecord) : Except ToolRuntimeError Unit := do
  validateToolCapability capabilities record.tool
  record.resourceBinding.requireCapabilities capabilities

def recordMatches (sha256 : List Byte → Digest) (record : ToolCallRecord) (agent : AgentId) (intent : ToolIntent)
    (argumentsHash : ToolArgumentsHash) : Prop :=
  record.agent = agent ∧ record.tool = intent.tool ∧ record.argumentsHash = argumentsHash ∧
    record.resourceBinding = intent.resources.binding sha256

instance (sha256 : List Byte → Digest) (record : ToolCallRecord) (agent : AgentId) (intent : ToolIntent)
    (argumentsHash : ToolArgumentsHash) : Decidable (recordMatches sha256 record agent intent argumentsHash) :=
  inferInstanceAs (Decidable (_ ∧ _))

/-! ## The runtime -/

structure DurableToolRuntime where
  ledger : FileLedger
  state : ToolState
  recoveredTailBytes : Nat

namespace DurableToolRuntime

section Open

variable (json : PayloadReader)

def fromOpenedLedger (opened : FileLedger × ReplayReport) : Except ToolRuntimeError DurableToolRuntime := do
  let state ← replayState json opened.2.events
  return ⟨opened.1, state, opened.2.truncatedTailBytes⟩

/-- `open`, on a file with these bytes. -/
def openFile (file : List Byte) : Except ToolRuntimeError DurableToolRuntime := do
  let opened ← (FileLedger.openFile file).mapError .ledger
  fromOpenedLedger json opened

def openExistingStrict (file : List Byte) : Except ToolRuntimeError DurableToolRuntime := do
  let opened ← (FileLedger.openExistingStrict file).mapError .ledger
  fromOpenedLedger json opened

end Open

def record (d : DurableToolRuntime) (call : ToolCallId) : Except ToolRuntimeError ToolCallRecord :=
  okOr (d.state.calls.get call) (.unknownCall call)

def pendingReconciliation (d : DurableToolRuntime) : Option ToolCallId :=
  (d.state.calls.values.find? fun record => record.status == .reconciliationRequired).map (·.call)

def appendEvents (d : DurableToolRuntime) (events : List ToolEvent) (write : WriteOutcome) :
    Except ToolRuntimeError DurabilityReceipt × DurableToolRuntime :=
  match (do validateTransaction events; d.state.applyTransaction events) with
  | .error e => (.error e, d)
  | .ok candidate =>
    match d.ledger.append d.ledger.head (events.map encodeEvent) write with
    | (.error e, ledger) => (.error (.ledger e), { d with ledger := ledger })
    | (.ok receipt, ledger) => (.ok receipt, { d with ledger := ledger, state := candidate })

/-- An operation's append and what it returns after it. -/
def commit {α : Type} (d : DurableToolRuntime) (events : List ToolEvent) (write : WriteOutcome)
    (result : DurableToolRuntime → Except ToolRuntimeError α) : Except ToolRuntimeError α × DurableToolRuntime :=
  match d.appendEvents events write with
  | (.error e, d) => (.error e, d)
  | (.ok _, d) => (result d, d)

section Operations

variable (sha256 : List Byte → Digest)

/-! ## Requests -/

/-- `request` where the identity is known. -/
def requestKnown (d : DurableToolRuntime) (principal : ToolPrincipal) (intent : ToolIntent) (call : ToolCallId) :
    Except ToolRuntimeError ToolRequestOutcome := do
  let argumentsHash := intent.arguments.hash sha256
  let record ← okOr (d.state.calls.get call) (.corruptState "Tool identity points to a missing call")
  require (recordMatches sha256 record principal.agent intent argumentsHash) (.identityConflict intent.identity)
  if record.status = .awaitingApproval then return .approvalRequired ⟨call, principal.session, intent, argumentsHash⟩
  else return .existing record

/-- The call that a new identity gets. -/
def requestFresh (d : DurableToolRuntime) : Except ToolRuntimeError ToolCallId :=
  match d.pendingReconciliation with
  | some call => .error (.reconciliationRequired call)
  | none => newCallId d.state.nextCall

def request (d : DurableToolRuntime) (principal : ToolPrincipal) (intent : ToolIntent) (write : WriteOutcome) :
    Except ToolRuntimeError ToolRequestOutcome × DurableToolRuntime :=
  match (do intent.validate; validateAuthority principal.capabilities intent) with
  | .error e => (.error e, d)
  | .ok () =>
    match d.state.identities.lookup intent.identity with
    | some call => (d.requestKnown sha256 principal intent call, d)
    | none =>
      match d.requestFresh with
      | .error e => (.error e, d)
      | .ok call =>
        let argumentsHash := intent.arguments.hash sha256
        d.commit [.callRequested call intent.identity principal.agent intent.tool argumentsHash (intent.resources.binding sha256)]
          write fun _ => .ok (.approvalRequired ⟨call, principal.session, intent, argumentsHash⟩)

/-! ## Approvals -/

def validateRequest (d : DurableToolRuntime) (principal : ToolPrincipal) (request : ToolApprovalRequest) :
    Except ToolRuntimeError Unit := do
  require (principal.session = request.session ∧ principal.agent = request.session.agent) .staleApprovalRequest
  request.intent.validate
  validateAuthority principal.capabilities request.intent
  require (request.argumentsHash = request.intent.arguments.hash sha256) .staleApprovalRequest
  let record ← d.record request.call
  require (record.status = .awaitingApproval ∧
    recordMatches sha256 record principal.agent request.intent request.argumentsHash) .staleApprovalRequest

/-- What an approval's resolution comes to before any effect. -/
inductive Authorization where
  | denied (outcome : ToolCallOutcome)
  | authorized (call : AuthorizedToolCall)

def checkExpiry (expiresAtUnixMs : UInt64) (now : Except ToolRuntimeError UInt64) : Except ToolRuntimeError Unit := do
  let now ← now
  require (now < expiresAtUnixMs) .approvalExpired

def denied (request : ToolApprovalRequest) (d : DurableToolRuntime) : Except ToolRuntimeError Authorization := do
  let record ← d.record request.call
  return .denied (.denied record)

def grantEvents (principal : ToolPrincipal) (request : ToolApprovalRequest) (expiresAtUnixMs : UInt64) : List ToolEvent :=
  [.approvalGranted request.call principal.agent request.argumentsHash (request.intent.resources.binding sha256) expiresAtUnixMs,
    .effectPrepared request.call request.argumentsHash]

def authorized (request : ToolApprovalRequest) (d : DurableToolRuntime) : Except ToolRuntimeError Authorization := do
  let record ← d.record request.call
  return .authorized ⟨record, request.intent.arguments, request.intent.resources⟩

/-- `resolve` up to the call of the executor. -/
def authorize (d : DurableToolRuntime) (principal : ToolPrincipal) (request : ToolApprovalRequest) (decision : ApprovalDecision)
    (now : Except ToolRuntimeError UInt64) (write : WriteOutcome) :
    Except ToolRuntimeError Authorization × DurableToolRuntime :=
  match d.validateRequest sha256 principal request with
  | .error e => (.error e, d)
  | .ok () =>
    match decision with
    | .deny reason =>
      match validateBoundedText reason maxReasonBytes "denial reason" with
      | .error e => (.error e, d)
      | .ok () => d.commit [.approvalDenied request.call approvalDeniedReason] write (denied request)
    | .grant expiresAtUnixMs =>
      match checkExpiry expiresAtUnixMs now with
      | .error e => (.error e, d)
      | .ok () => d.commit (grantEvents sha256 principal request expiresAtUnixMs) write (authorized request)

/-- `resolve` from what the executor returned on. -/
def recordExecution (d : DurableToolRuntime) (request : ToolApprovalRequest) (execution : ToolExecution) (write : WriteOutcome) :
    Except ToolRuntimeError ToolCallOutcome × DurableToolRuntime :=
  match execution with
  | .succeeded output =>
    if output.length ≤ maxOutputBytes then
      d.commit [.effectSucceeded request.call (sha256 output)] write fun d => do
        let record ← d.record request.call
        return .succeeded record output
    else
      d.commit [.effectAmbiguous request.call "Tool output exceeded the durable result boundary"] write fun d => do
        let record ← d.record request.call
        return .reconciliationRequired record
  | .failed _ =>
    d.commit [.effectFailed request.call effectFailedReason] write fun d => do
      let record ← d.record request.call
      return .failed record
  | .ambiguous _ =>
    d.commit [.effectAmbiguous request.call effectAmbiguousReason] write fun d => do
      let record ← d.record request.call
      return .reconciliationRequired record

/-- `resolve`, with the calls that the executor got. -/
def resolve (d : DurableToolRuntime) (principal : ToolPrincipal) (request : ToolApprovalRequest) (decision : ApprovalDecision)
    (now : Except ToolRuntimeError UInt64) (executor : AuthorizedToolCall → ToolExecution)
    (prepareWrite outcomeWrite : WriteOutcome) :
    Except ToolRuntimeError ToolCallOutcome × DurableToolRuntime × List AuthorizedToolCall :=
  match d.authorize sha256 principal request decision now prepareWrite with
  | (.error e, d) => (.error e, d, [])
  | (.ok (.denied outcome), d) => (.ok outcome, d, [])
  | (.ok (.authorized call), d) =>
    let (outcome, d) := d.recordExecution sha256 request (executor call) outcomeWrite
    (outcome, d, [call])

/-! ## Reconciliation -/

def reconciliationEvent (call : ToolCallId) : ToolReconciliationDecision → Except ToolRuntimeError ToolEvent
  | .observedSucceeded resultDigest => return .effectReconciledSucceeded call resultDigest
  | .observedFailed reason => do
    validateBoundedText reason maxReasonBytes "reconciliation reason"
    return .effectReconciledFailed call reconciledFailedReason

/-- `reconcile` before its append: the record of a call that is settled, or the event. -/
def prepareReconcile (d : DurableToolRuntime) (principal : ToolPrincipal) (call : ToolCallId)
    (decision : ToolReconciliationDecision) : Except ToolRuntimeError (ToolCallRecord ⊕ ToolEvent) := do
  let record ← d.record call
  require (record.agent = principal.agent) (.reconciliationAuthorityDenied call)
  validateRecordAuthority principal.capabilities record
  if record.status = .succeeded ∨ record.status = .failed then return .inl record
  else
    require (record.status = .reconciliationRequired) (.invalidTransition call "reconcile")
    let event ← reconciliationEvent call decision
    return .inr event

def reconcile (d : DurableToolRuntime) (principal : ToolPrincipal) (call : ToolCallId)
    (decision : ToolReconciliationDecision) (write : WriteOutcome) :
    Except ToolRuntimeError ToolCallRecord × DurableToolRuntime :=
  match d.prepareReconcile principal call decision with
  | .error e => (.error e, d)
  | .ok (.inl record) => (.ok record, d)
  | .ok (.inr event) => d.commit [event] write fun d => d.record call

end Operations

end DurableToolRuntime

end GreenTyper.Tool
