/-
  GreenTyper.Team.Runtime — commands (`TeamRuntime` of `agent_team.rs`): planning one,
  preparing its transaction, publishing it, and recovering a Runtime from its events.

  A command is planned into events, the events are applied to a copy of the state, the
  copy is reconciled and validated, and only then does it become the Runtime's state.
  An operation's transaction starts with a journal marker, and its acknowledgement is
  prepared the same way as a command.

  A Runtime's authority is a number no other Runtime has; the source draws it from a
  process-wide counter, and here it is an argument.
-/

import GreenTyper.Team.State

namespace GreenTyper.Team

open GreenTyper.Lib

/-! ## The journal's framing -/

def TeamEventKind.isOperationCommitted : TeamEventKind → Bool
  | .operationCommitted _ _ => true
  | _ => false

def TeamEventKind.isOperationAcknowledged : TeamEventKind → Bool
  | .operationAcknowledged _ _ _ => true
  | _ => false

/-- The command kind an event tells of, if any. -/
def TeamEventKind.operationKind : TeamEventKind → Option TeamOperationKind
  | .agentCreated _ _ none _ _ _ => some .rootAdmission
  | .agentCreated _ _ (some _) _ _ _ => some .delegation
  | .messageSent _ _ _ _ => some .message
  | .completionCapsuleSubmitted _ _ _ => some .completion
  | .taskFailed _ _ => some .failure
  | .taskCancelled _ _ => some .cancellation
  | .agentRetryRequested _ _ => some .retry
  | _ => none

def classifyOperationTransaction (events : List TeamEvent) : Option TeamOperationKind :=
  match events.filterMap (fun event => event.kind.operationKind) with
  | [kind] => some kind
  | _ => none

/-- The marker names the transaction it is in. -/
def checkCommitted (event : TeamEvent) : Except TeamError Unit :=
  match event.kind with
  | .operationCommitted _ transaction =>
    require (transaction = event.transaction) (violation "Team operation marker transaction does not match its frame")
  | _ => .ok ()

def checkAcknowledged (event : TeamEvent) : Except TeamError Unit :=
  match event.kind with
  | .operationAcknowledged _ committedTransaction acknowledgementTransaction =>
    require (acknowledgementTransaction = event.transaction ∧ committedTransaction < acknowledgementTransaction)
      (violation "Team operation acknowledgement transaction is invalid")
  | _ => .ok ()

def validateOperationTransaction (events : List TeamEvent) : Except TeamError Unit :=
  let committed := events.filter (fun event => event.kind.isOperationCommitted)
  let acknowledged := events.filter (fun event => event.kind.isOperationAcknowledged)
  match committed.head? with
  | some event => do
    require (committed.length = 1 ∧ acknowledged = [] ∧ event.indexInTransaction = 0)
      (violation "Team operation command transaction has invalid journal framing")
    checkCommitted event
    require ((classifyOperationTransaction events).isSome = true)
      (violation "Team operation transaction must contain exactly one command kind")
  | none =>
    match acknowledged.head? with
    | some event => do
      require (acknowledged.length = 1 ∧ events.length = 1)
        (violation "Team operation acknowledgement must be its own transaction")
      checkAcknowledged event
    | none => .ok ()

/-! ## The Runtime -/

structure TeamRuntime where
  maxActiveAgents : Nat
  runtimeAuthority : Nat
  state : TeamState
  eventLog : List TeamEvent
  nextTask : Nat
  nextAgent : Nat
  nextMessage : Nat
  nextTransaction : Nat
  deriving DecidableEq

structure PreparedTeamEvents where
  candidate : TeamState
  transaction : TransactionId
  revision : EventSeq
  events : List TeamEvent
  nextTransaction : Nat
  nextTask : Nat
  nextAgent : Nat
  nextMessage : Nat
  deriving DecidableEq

namespace TeamRuntime

def new (maxActiveAgents authority : Nat) : Except TeamError TeamRuntime := do
  require (maxActiveAgents ≠ 0) .invalidActiveAgentLimit
  return ⟨maxActiveAgents, authority, .default, [], 1, 1, 1, 1⟩

def session (r : TeamRuntime) (agent : AgentId) : AgentSession := ⟨agent, r.runtimeAuthority⟩

def authenticate (r : TeamRuntime) (session : AgentSession) : Except TeamError AgentId := do
  require (session.runtimeAuthority = r.runtimeAuthority) (.invalidAgentSession session.agent)
  require (r.state.agents.contains session.agent = true) (.unknownAgent session.agent)
  return session.agent

def requireActive (r : TeamRuntime) (agent : AgentId) : Except TeamError AgentRecord := do
  let record ← r.state.agent agent
  require (record.status = .active) (.agentNotActive agent)
  return record

def requireNoOutstandingChildren (r : TeamRuntime) (parent : AgentId) : Except TeamError Unit :=
  require (r.state.agents.values.any (fun agent => agent.parent == some parent && !agent.status.isTerminal) = false)
    (.outstandingChildren parent)

def freshTaskId (r : TeamRuntime) : Except TeamError TaskId := freshIdentifier r.nextTask
def freshAgentId (r : TeamRuntime) : Except TeamError AgentId := freshIdentifier r.nextAgent
def freshMessageId (r : TeamRuntime) : Except TeamError MessageId := freshIdentifier r.nextMessage
def freshTransactionId (r : TeamRuntime) : Except TeamError TransactionId := freshIdentifier r.nextTransaction

/-! ## Planning -/

/-- The walk over the windows of the sorted dependencies. -/
def checkDuplicates : List TaskId → Except TeamError Unit
  | a :: b :: rest => do
    require (a ≠ b) (.duplicateDependency a)
    checkDuplicates (b :: rest)
  | _ => .ok ()

def validateTaskSpec (r : TeamRuntime) (task : TaskSpec) : Except TeamError TaskSpec := do
  let title := trim task.title
  require (title ≠ "") .invalidTaskTitle
  require (byteLen title ≤ maxTaskTitleBytes) .taskTitleTooLarge
  validateScope task.scope
  require (task.dependencies.length ≤ maxTaskDependencies) .tooManyDependencies
  let dependencies := task.dependencies.mergeSort (· ≤ ·)
  checkDuplicates dependencies
  dependencies.forM fun dependency => require (r.state.tasks.contains dependency = true) (.unknownTask dependency)
  return ⟨title, task.scope, dependencies⟩

def planRoot (r : TeamRuntime) (task : TaskSpec) (budget : ResourceBudget) (capabilities : CapabilitySnapshot) :
    Except TeamError (List TeamEventKind × CommandOutcome) := do
  require (r.state.root = none) .rootAlreadyAdmitted
  let task ← r.validateTaskSpec task
  require (task.dependencies = []) .rootDependenciesNotAllowed
  validateBudget budget
  validateCapabilities capabilities
  let taskId ← r.freshTaskId
  let agentId ← r.freshAgentId
  return ([.taskCreated taskId task, .agentCreated agentId taskId none budget capabilities none,
    .taskOwnerAssigned taskId agentId], .rootAdmitted taskId agentId (r.session agentId))

def planDelegation (r : TeamRuntime) (parent : AgentId) (task : TaskSpec) (budget : ResourceBudget)
    (capabilities : CapabilitySnapshot) (inheritedModelPreset : Option InheritedModelPreset) :
    Except TeamError (List TeamEventKind × CommandOutcome) := do
  let parentAgent ← r.state.agent parent
  require (parentAgent.status = .active) (.agentNotActive parent)
  let parentTask ← r.state.task parentAgent.task
  let task ← r.validateTaskSpec task
  let dependency ← r.state.ancestorDependency parent task.dependencies
  TeamState.requireNoCycle dependency
  require (task.scope ⊆ parentTask.spec.scope) (.scopeExpansion parent)
  validateCapabilities capabilities
  validatePreset inheritedModelPreset
  require (capabilities ⊆ parentAgent.capabilities) (.capabilityExpansion parent)
  validateBudget budget
  let remaining ← okOr (parentAgent.budget.remainingAfter parentAgent.reservedBudget)
    (violation s!"Agent {parent} reserved budget exceeds its budget")
  require (remaining.contains budget) (.budgetExpansion parent)
  let taskId ← r.freshTaskId
  let agentId ← r.freshAgentId
  return ([.taskCreated taskId task, .agentCreated agentId taskId (some parent) budget capabilities inheritedModelPreset,
    .taskOwnerAssigned taskId agentId, .delegationGranted parent agentId],
    .delegated taskId agentId (r.session agentId))

def planMessage (r : TeamRuntime) (sender : AgentId) (recipient : MessageRecipient) (body : String) :
    Except TeamError (List TeamEventKind × CommandOutcome) := do
  let _ ← r.requireActive sender
  require (isBlank body = false) .invalidMessage
  require (byteLen body ≤ maxMessageBytes) .messageTooLarge
  r.state.checkRecipient (fun agent status => .invalidTransition agent status "receive a message") recipient
  let message ← r.freshMessageId
  return ([.messageSent message sender recipient body], .messageAccepted message)

def planCompletion (r : TeamRuntime) (agent : AgentId) (capsule : CompletionCapsule) :
    Except TeamError (List TeamEventKind × CommandOutcome) := do
  let record ← r.requireActive agent
  r.requireNoOutstandingChildren agent
  validateCapsule capsule
  return ([.completionCapsuleSubmitted record.task agent capsule, .taskSucceeded record.task, .agentSucceeded agent],
    .stateChanged record.task agent)

def planFailure (r : TeamRuntime) (agent : AgentId) (reason : String) :
    Except TeamError (List TeamEventKind × CommandOutcome) := do
  let record ← r.requireActive agent
  r.requireNoOutstandingChildren agent
  validateReason reason
  return ([.taskFailed record.task reason, .agentFailed agent], .stateChanged record.task agent)

def planCancellation (r : TeamRuntime) (agent : AgentId) (reason : String) :
    Except TeamError (List TeamEventKind × CommandOutcome) := do
  let record ← r.state.agent agent
  require (record.status.isTerminal = false) (.invalidTransition agent record.status "cancel")
  r.requireNoOutstandingChildren agent
  validateReason reason
  return ([.taskCancelled record.task reason, .agentCancelled agent], .stateChanged record.task agent)

def planRetry (r : TeamRuntime) (requester agent : AgentId) : Except TeamError (List TeamEventKind × CommandOutcome) := do
  let _ ← r.requireActive requester
  let target ← r.state.agent agent
  require (target.parent = some requester) (.invalidTransition agent target.status "retry from this parent")
  require (target.status.isRetryable = true) (.invalidTransition agent target.status "retry")
  let failed ← r.state.firstFailedDependency target.task
  require (failed = none) (.invalidTransition agent target.status "retry while a dependency is still blocked")
  r.requireNoOutstandingChildren agent
  return ([.taskRetryRequested target.task, .agentRetryRequested requester agent], .stateChanged target.task agent)

def plan (r : TeamRuntime) : TeamCommand → Except TeamError (List TeamEventKind × CommandOutcome)
  | .admitRoot task budget capabilities => r.planRoot task budget capabilities
  | .delegate parent task budget capabilities => do
    let parent ← r.authenticate parent
    r.planDelegation parent task budget capabilities none
  | .delegateWithModelPreset parent task budget capabilities preset => do
    let parent ← r.authenticate parent
    r.planDelegation parent task budget capabilities preset
  | .sendMessage sender recipient body => do
    let sender ← r.authenticate sender
    r.planMessage sender recipient body
  | .complete agent capsule => do
    let agent ← r.authenticate agent
    r.planCompletion agent capsule
  | .fail agent reason => do
    let agent ← r.authenticate agent
    r.planFailure agent reason
  | .cancel agent reason => do
    let agent ← r.authenticate agent
    r.planCancellation agent reason
  | .retry requester agent => do
    let requester ← r.authenticate requester
    r.planRetry requester agent

/-! ## Preparing and publishing -/

/-- The events of one transaction, numbered from `firstSequence` on. -/
def number (transaction : TransactionId) (firstSequence count : Nat) (kinds : List TeamEventKind) : List TeamEvent :=
  kinds.zipIdx.map fun (kind, index) => ⟨firstSequence + index, transaction, index, count, kind⟩

def prepareEvents (r : TeamRuntime) (transaction : TransactionId) (baseEvents : List TeamEventKind) :
    Except TeamError PreparedTeamEvents := do
  let candidate ← r.state.applyAll r.maxActiveAgents baseEvents
  let (candidate, added) ← candidate.reconcile r.maxActiveAgents
  let kinds := baseEvents ++ added
  candidate.validate r.maxActiveAgents
  candidate.validateQuiescent r.maxActiveAgents
  require (kinds.length < 2 ^ 32) .identifierExhausted
  let firstSequence ← okOr (checkedAdd 64 r.eventLog.length 1) .identifierExhausted
  let lastSequence ← okOr (checkedAdd 64 firstSequence (kinds.length - 1)) .identifierExhausted
  let events := number transaction firstSequence kinds.length kinds
  validateOperationTransaction events
  let nextTransaction ← okOr (checkedAdd 64 r.nextTransaction 1) .identifierExhausted
  let nextTask ← nextIdentifier candidate.tasks.keys
  let nextAgent ← nextIdentifier candidate.agents.keys
  let nextMessage ← nextIdentifier (candidate.messages.map (·.id))
  return ⟨candidate, transaction, lastSequence, events, nextTransaction, nextTask, nextAgent, nextMessage⟩

def prepare (r : TeamRuntime) (command : TeamCommand) : Except TeamError (PreparedTeamEvents × CommandOutcome) := do
  let (events, outcome) ← r.plan command
  let transaction ← r.freshTransactionId
  let prepared ← r.prepareEvents transaction events
  return (prepared, outcome)

def prepareOperation (r : TeamRuntime) (operation : TeamOperationId) (command : TeamCommand) :
    Except TeamError (PreparedTeamEvents × CommandOutcome) := do
  let transaction ← r.freshTransactionId
  let (events, outcome) ← r.plan command
  let prepared ← r.prepareEvents transaction (.operationCommitted operation transaction :: events)
  return (prepared, outcome)

def prepareOperationAcknowledgement (r : TeamRuntime) (operation : TeamOperationId) :
    Except TeamError PreparedTeamEvents := do
  let record ← okOr (r.state.operations.get operation) (.unknownOperation operation)
  let acknowledgementTransaction ← r.freshTransactionId
  r.prepareEvents acknowledgementTransaction
    [.operationAcknowledged operation record.transaction acknowledgementTransaction]

def nextOperationId (r : TeamRuntime) : Except TeamError TeamOperationId := do
  let next ← nextIdentifier r.state.operations.keys
  freshIdentifier next

def publishEvents (r : TeamRuntime) (prepared : PreparedTeamEvents) : TeamRuntime :=
  { r with
    eventLog := r.eventLog ++ prepared.events
    state := prepared.candidate
    nextTransaction := prepared.nextTransaction
    nextTask := prepared.nextTask
    nextAgent := prepared.nextAgent
    nextMessage := prepared.nextMessage }

def dispatch (r : TeamRuntime) (command : TeamCommand) : Except TeamError (TeamRuntime × CommandOutcome) := do
  let (prepared, outcome) ← r.prepare command
  return (r.publishEvents prepared, outcome)

end TeamRuntime

/-! ## Snapshots -/

structure TaskView where
  id : TaskId
  title : String
  scope : TaskScope
  dependencies : List TaskId
  owner : Option AgentId
  status : TaskStatus
  completion : Option CompletionCapsule
  deriving DecidableEq

/-- `AgentView` has the fields of the record. -/
abbrev AgentView := AgentRecord

structure TeamSnapshot where
  revision : EventSeq
  tasks : List TaskView
  agents : List AgentView
  messages : List MessageView
  deriving DecidableEq

def TaskRecord.view (task : TaskRecord) : TaskView :=
  ⟨task.id, task.spec.title, task.spec.scope, task.spec.dependencies, task.owner, task.status, task.completion⟩

def TeamRuntime.snapshot (r : TeamRuntime) : TeamSnapshot where
  revision := (r.eventLog.getLast?.map (·.sequence)).getD 0
  tasks := r.state.tasks.values.map TaskRecord.view
  agents := r.state.agents.values
  messages := r.state.messages

/-! ## Operation records -/

inductive TeamOperationStatus where
  | committedAwaitingAcknowledgement
  | acknowledged
  deriving DecidableEq

structure TeamOperationRecord where
  operation : TeamOperationId
  kind : TeamOperationKind
  agent : Option AgentId
  transaction : TransactionId
  firstSequence : EventSeq
  lastSequence : EventSeq
  eventCount : Nat
  acknowledgementTransaction : Option TransactionId
  status : TeamOperationStatus
  deriving DecidableEq

/-- The Agent whose Session gave the command, where an event names it. -/
def TeamEventKind.requester : TeamEventKind → Option AgentId
  | .delegationGranted parent _ => some parent
  | .agentRetryRequested requester _ => some requester
  | _ => none

/-- The Agent an event is about. -/
def TeamEventKind.subject (s : TeamState) : TeamEventKind → Option AgentId
  | .agentCreated agent _ _ _ _ _ | .agentSucceeded agent | .agentFailed agent | .agentCancelled agent
  | .agentBlocked agent _ | .agentRetryRequested _ agent | .completionCapsuleSubmitted _ agent _
  | .messageSent _ agent _ _ => some agent
  | .taskFailed task _ | .taskCancelled task _ => (s.tasks.get task).bind (·.owner)
  | _ => none

def operationAgent (events : List TeamEvent) (s : TeamState) : Option AgentId :=
  match events.findSome? (·.kind.requester) with
  | some parent => some parent
  | none => events.findSome? (·.kind.subject s)

namespace TeamRuntime

/-- The record of an event that commits an operation. It is `none` for any other event,
    and where one of the source's three `expect`s would fail, which no run comes to
    (`operationRecord_committed`). -/
def operationRecord (r : TeamRuntime) (event : TeamEvent) : Option TeamOperationRecord :=
  match event.kind with
  | .operationCommitted operation transaction => do
    let record ← r.state.operations.get operation
    let lastSequence ← checkedAdd 64 event.sequence (event.eventsInTransaction - 1)
    let events := r.eventLog.filter (fun candidate => candidate.transaction == transaction)
    let kind ← classifyOperationTransaction events
    return ⟨operation, kind, operationAgent events r.state, transaction, event.sequence, lastSequence,
      event.eventsInTransaction, record.acknowledgementTransaction,
      if record.acknowledgementTransaction.isSome then .acknowledged else .committedAwaitingAcknowledgement⟩
  | _ => none

def operationRecords (r : TeamRuntime) : List TeamOperationRecord := r.eventLog.filterMap r.operationRecord

end TeamRuntime

/-! ## Recovery -/

inductive RecoveryError where
  | invalidActiveAgentLimit
  | runtimeAuthorityExhausted
  | sequenceMismatch (expected actual : Nat)
  | transactionMismatch (expected actual : Nat)
  | invalidTransactionPosition (transaction : TransactionId) (expectedIndex actualIndex : Nat)
  | invalidTransactionSize (transaction : TransactionId)
  | incompleteTransaction (transaction : TransactionId) (expectedEvents availableEvents : Nat)
  | invalidEvent (sequence : EventSeq) (source : TeamError)
  deriving DecidableEq

/-- `result.map_err(|source| InvalidEvent { sequence, source })?`. -/
def atEvent {α : Type} (sequence : EventSeq) : Except TeamError α → Except RecoveryError α
  | .ok a => .ok a
  | .error e => .error (.invalidEvent sequence e)

/-- What the replay loop carries from one transaction to the next. -/
structure Replay where
  state : TeamState
  eventLog : List TeamEvent
  expectedSequence : Nat
  expectedTransaction : Nat
  replayActiveLimit : Nat

/-- The inner loop: one transaction's events from `offset` on. -/
def replayEvents (first : TeamEvent) (expectedSequence maxActiveAgents : Nat) :
    Nat → List TeamEvent → TeamState → Except RecoveryError TeamState
  | _, [], candidate => return candidate
  | offset, event :: events, candidate => do
    let expected ← okOr (checkedAdd 64 expectedSequence offset) (.invalidEvent event.sequence .identifierExhausted)
    require (event.sequence = expected) (.sequenceMismatch expected event.sequence)
    require (event.transaction = first.transaction) (.transactionMismatch first.transaction event.transaction)
    require (event.indexInTransaction = offset)
      (.invalidTransactionPosition first.transaction offset event.indexInTransaction)
    require (event.eventsInTransaction = first.eventsInTransaction) (.invalidTransactionSize first.transaction)
    let candidate ← atEvent event.sequence (candidate.apply event.kind maxActiveAgents)
    replayEvents first expectedSequence maxActiveAgents (offset + 1) events candidate

/-- One turn of the replay loop, on the events left from a transaction's first one on. -/
def replayTransaction (maxActiveAgents : Nat) (replay : Replay) (first : TeamEvent) (rest : List TeamEvent) :
    Except RecoveryError Replay := do
  require (first.sequence = replay.expectedSequence) (.sequenceMismatch replay.expectedSequence first.sequence)
  require (first.transaction = replay.expectedTransaction)
    (.transactionMismatch replay.expectedTransaction first.transaction)
  require (first.indexInTransaction = 0) (.invalidTransactionPosition first.transaction 0 first.indexInTransaction)
  require (first.eventsInTransaction ≠ 0) (.invalidTransactionSize first.transaction)
  let eventCount := first.eventsInTransaction
  let available := (first :: rest).length
  require (eventCount ≤ available) (.incompleteTransaction first.transaction eventCount available)
  let events := (first :: rest).take eventCount
  let lastEvent := (events.getLast?.map (·.sequence)).getD first.sequence
  atEvent first.sequence (validateOperationTransaction events)
  let candidate ← replayEvents first replay.expectedSequence maxActiveAgents 0 events replay.state
  atEvent lastEvent (candidate.validate maxActiveAgents)
  let replayActiveLimit := max replay.replayActiveLimit candidate.activeAgentCount
  atEvent lastEvent (candidate.validateQuiescent replayActiveLimit)
  let expectedSequence ← okOr (checkedAdd 64 replay.expectedSequence eventCount)
    (.invalidEvent first.sequence .identifierExhausted)
  let expectedTransaction ← okOr (checkedAdd 64 replay.expectedTransaction 1)
    (.invalidEvent first.sequence .identifierExhausted)
  return ⟨candidate, replay.eventLog ++ events, expectedSequence, expectedTransaction, replayActiveLimit⟩

/-- The replay loop. Each turn takes a transaction of one event or more, so `fuel` turns
    are enough for `fuel` events. -/
def replayAll (maxActiveAgents : Nat) : Nat → List TeamEvent → Replay → Except RecoveryError Replay
  | 0, _, replay => return replay
  | _ + 1, [], replay => return replay
  | fuel + 1, first :: rest, replay => do
    let next ← replayTransaction maxActiveAgents replay first rest
    replayAll maxActiveAgents fuel ((first :: rest).drop first.eventsInTransaction) next

def TeamRuntime.recover (maxActiveAgents authority : Nat) (events : List TeamEvent) : Except RecoveryError TeamRuntime := do
  require (maxActiveAgents ≠ 0) .invalidActiveAgentLimit
  let replay ← replayAll maxActiveAgents events.length events ⟨.default, [], 1, 1, 1⟩
  let lastSequence := (replay.eventLog.getLast?.map (·.sequence)).getD 0
  let nextTask ← atEvent lastSequence (nextIdentifier replay.state.tasks.keys)
  let nextAgent ← atEvent lastSequence (nextIdentifier replay.state.agents.keys)
  let nextMessage ← atEvent lastSequence (nextIdentifier (replay.state.messages.map (·.id)))
  return ⟨maxActiveAgents, authority, replay.state, replay.eventLog, nextTask, nextAgent, nextMessage,
    replay.expectedTransaction⟩

end GreenTyper.Team
