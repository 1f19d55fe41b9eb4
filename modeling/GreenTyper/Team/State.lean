/-
  GreenTyper.Team.State — the Team's state: applying an event, the two validators, and
  the reconciler (`TeamState` and `reconcile` of `agent_team.rs`).

  Applying an event either gives the next state or fails; the source works on a copy
  that it drops on failure. Each event has its own function, and `apply` selects it.

  Two loops of the source are bounded here. `ancestorDependency` climbs from child to
  parent, and a state has no more ancestors than Agents. The activation loop of the
  reconciler starts a Ready Task each time round, and a state has no more of those than
  Tasks. Both run with that bound, and both are proved to be over by then.
-/

import GreenTyper.Team.Model

namespace GreenTyper.Team

open GreenTyper.Lib

structure OperationRecord where
  transaction : TransactionId
  acknowledgementTransaction : Option TransactionId
  deriving DecidableEq

structure TaskRecord where
  id : TaskId
  spec : TaskSpec
  owner : Option AgentId
  status : TaskStatus
  completion : Option CompletionCapsule
  deriving DecidableEq

structure AgentRecord where
  id : AgentId
  parent : Option AgentId
  task : TaskId
  status : AgentStatus
  budget : ResourceBudget
  reservedBudget : ResourceBudget
  capabilities : CapabilitySnapshot
  inheritedModelPreset : Option InheritedModelPreset
  deriving DecidableEq

structure TeamState where
  root : Option AgentId
  tasks : OrdMap Nat TaskRecord
  agents : OrdMap Nat AgentRecord
  messages : List MessageView
  operations : OrdMap Nat OperationRecord
  deriving DecidableEq

namespace TeamState

def default : TeamState := ⟨none, .empty, .empty, [], .empty⟩

/-! ## Lookups -/

def task (s : TeamState) (task : TaskId) : Except TeamError TaskRecord := okOr (s.tasks.get task) (.unknownTask task)

def agent (s : TeamState) (agent : AgentId) : Except TeamError AgentRecord := okOr (s.agents.get agent) (.unknownAgent agent)

def setTask (s : TeamState) (task : TaskId) (record : TaskRecord) : TeamState :=
  { s with tasks := s.tasks.insert task record }

def setAgent (s : TeamState) (agent : AgentId) (record : AgentRecord) : TeamState :=
  { s with agents := s.agents.insert agent record }

def activeAgentCount (s : TeamState) : Nat := s.agents.values.countP (fun agent => agent.status == .active)

def dependenciesSucceeded (s : TeamState) (task : TaskId) : Except TeamError Bool := do
  let record ← s.task task
  record.spec.dependencies.foldlM
    (fun all dependency => do
      let dependencyRecord ← s.task dependency
      return all && dependencyRecord.status == .succeeded) true

def firstFailedOf (s : TeamState) : List TaskId → Except TeamError (Option TaskId)
  | [] => return none
  | dependency :: dependencies => do
    let dependencyRecord ← s.task dependency
    if dependencyRecord.status.blocksDependents then return some dependency
    else s.firstFailedOf dependencies

def firstFailedDependency (s : TeamState) (task : TaskId) : Except TeamError (Option TaskId) := do
  let record ← s.task task
  s.firstFailedOf record.spec.dependencies

/-- The climb from `current` up, for at most `fuel` Agents. -/
def climbDependency (s : TeamState) (dependencies : List TaskId) :
    Nat → Option AgentId → Except TeamError (Option TaskId)
  | _, none => return none
  | 0, some _ => return none
  | fuel + 1, some agent => do
    let record ← s.agent agent
    if record.task ∈ dependencies then return some record.task
    else s.climbDependency dependencies fuel record.parent

def ancestorDependency (s : TeamState) (parent : AgentId) (dependencies : List TaskId) :
    Except TeamError (Option TaskId) :=
  s.climbDependency dependencies (s.agents.size + 1) (some parent)

/-! ## Creation -/

def applyTaskCreated (s : TeamState) (task : TaskId) (spec : TaskSpec) : Except TeamError TeamState := do
  validateStoredIdentifier task "Task"
  let expected ← nextIdentifier s.tasks.keys
  require (task = expected) (violation s!"expected Task identifier {expected}, found {task}")
  require (s.tasks.contains task = false) (violation s!"Task {task} was created twice")
  validateStoredTaskSpec spec
  spec.dependencies.forM fun dependency =>
    require (s.tasks.contains dependency = true)
      (violation s!"Task {task} references unknown dependency {dependency}")
  return s.setTask task ⟨task, spec, none, .pending, none⟩

/-- `if let Some(dependency) = … { return Err(DependencyCycle) }`. -/
def requireNoCycle : Option TaskId → Except TeamError Unit
  | some dependency => .error (.dependencyCycle dependency)
  | none => .ok ()

/-- The checks of `AgentCreated` against the parent. -/
def checkParent (s : TeamState) (taskRecord : TaskRecord) (parent : AgentId) (capabilities : CapabilitySnapshot) :
    Except TeamError Unit := do
  let parentAgent ← s.agent parent
  require (parentAgent.status = .active) (violation s!"parent Agent {parent} was not Active at Delegation")
  let parentTask ← s.task parentAgent.task
  require (taskRecord.spec.scope ⊆ parentTask.spec.scope) (.scopeExpansion parent)
  require (capabilities ⊆ parentAgent.capabilities) (.capabilityExpansion parent)
  let dependency ← s.ancestorDependency parent taskRecord.spec.dependencies
  requireNoCycle dependency

/-- The `match parent` of `AgentCreated`: its checks, and the root after it. -/
def admitAgent (s : TeamState) (agent : AgentId) (taskRecord : TaskRecord) (capabilities : CapabilitySnapshot) :
    Option AgentId → Except TeamError (Option AgentId)
  | some parent => do
    s.checkParent taskRecord parent capabilities
    return s.root
  | none => do
    require (s.root = none) .rootAlreadyAdmitted
    require (taskRecord.spec.dependencies = []) .rootDependenciesNotAllowed
    return some agent

def applyAgentCreated (s : TeamState) (agent : AgentId) (task : TaskId) (parent : Option AgentId)
    (budget : ResourceBudget) (capabilities : CapabilitySnapshot)
    (inheritedModelPreset : Option InheritedModelPreset) : Except TeamError TeamState := do
  validateStoredIdentifier agent "Agent"
  let expected ← nextIdentifier s.agents.keys
  require (agent = expected) (violation s!"expected Agent identifier {expected}, found {agent}")
  require (s.agents.contains agent = false) (violation s!"Agent {agent} was created twice")
  let taskRecord ← s.task task
  require (taskRecord.owner = none) (violation s!"Task {task} already has an Owner")
  validateBudget budget
  validateCapabilities capabilities
  validatePreset inheritedModelPreset
  let root ← s.admitAgent agent taskRecord capabilities parent
  return { s.setAgent agent ⟨agent, parent, task, .dormant, budget, .default, capabilities, inheritedModelPreset⟩ with
    root := root }

def applyTaskOwnerAssigned (s : TeamState) (task : TaskId) (agent : AgentId) : Except TeamError TeamState := do
  let agentRecord ← s.agent agent
  require (agentRecord.task = task) (violation s!"Agent {agent} was assigned to the wrong Task")
  let taskRecord ← s.task task
  require (taskRecord.owner = none) (violation s!"Task {task} received more than one Owner")
  return s.setTask task { taskRecord with owner := some agent }

def applyDelegationGranted (s : TeamState) (parent child : AgentId) : Except TeamError TeamState := do
  let childRecord ← s.agent child
  require (childRecord.parent = some parent) (violation s!"Agent {child} has a different parent")
  let parentRecord ← s.agent parent
  require (parentRecord.status = .active) (.agentNotActive parent)
  let reserved ← okOr (parentRecord.reservedBudget.checkedAdd childRecord.budget) (.budgetExpansion parent)
  require (parentRecord.budget.contains reserved) (.budgetExpansion parent)
  return s.setAgent parent { parentRecord with reservedBudget := reserved }

/-! ## Scheduling -/

def applyTaskReady (s : TeamState) (task : TaskId) : Except TeamError TeamState := do
  let ready ← s.dependenciesSucceeded task
  let record ← s.task task
  require (record.status = .pending ∧ ready = true) (violation s!"Task {task} cannot become Ready")
  return s.setTask task { record with status := .ready }

def applyAgentActivated (s : TeamState) (agent : AgentId) (maxActiveAgents : Nat) : Except TeamError TeamState := do
  require (s.activeAgentCount < maxActiveAgents) (violation "Active Agent limit exceeded")
  let record ← s.agent agent
  require (record.status = .dormant)
    (.invariantViolation (.agentStatus s!"Agent {agent} cannot become Active from " record.status))
  let task ← s.task record.task
  require (task.status = .ready ∧ task.owner = some agent) (violation s!"Agent {agent} does not own a Ready Task")
  return s.setAgent agent { record with status := .active }

def applyTaskStarted (s : TeamState) (task : TaskId) : Except TeamError TeamState := do
  let record ← s.task task
  require (record.status = .ready)
    (.invariantViolation (.taskStatus s!"Task {task} cannot start from " record.status))
  let owner ← okOr record.owner (violation s!"Task {task} has no Owner")
  let agent ← s.agent owner
  require (agent.status = .active) (violation s!"Task {task} Owner is not Active")
  return s.setTask task { record with status := .running }

def applyTaskBlocked (s : TeamState) (task blockedBy : TaskId) : Except TeamError TeamState := do
  let blocker ← s.task blockedBy
  require (blocker.status.blocksDependents = true) (violation s!"Task {blockedBy} does not block dependents")
  let record ← s.task task
  require ((record.status = .pending ∨ record.status = .ready) ∧ blockedBy ∈ record.spec.dependencies)
    (violation s!"Task {task} cannot be blocked by Task {blockedBy}")
  return s.setTask task { record with status := .blocked blockedBy }

def applyAgentBlocked (s : TeamState) (agent : AgentId) (blockedBy : TaskId) : Except TeamError TeamState := do
  let record ← s.agent agent
  require (record.status = .dormant)
    (.invariantViolation (.agentStatus s!"Agent {agent} cannot become Blocked from " record.status))
  let task ← s.task record.task
  require (task.status = .blocked blockedBy) (violation s!"Agent {agent} Task has a different blocker")
  return s.setAgent agent { record with status := .blocked }

/-! ## Messages -/

/-- The recipient is there and open; `e` is the caller's error for a terminal one. -/
def checkRecipient (s : TeamState) (e : AgentId → AgentStatus → TeamError) : MessageRecipient → Except TeamError Unit
  | .agent target => do
    let targetRecord ← s.agent target
    require (targetRecord.status.isTerminal = false) (e target targetRecord.status)
  | .team => .ok ()

def applyMessageSent (s : TeamState) (message : MessageId) (sender : AgentId) (recipient : MessageRecipient)
    (body : String) : Except TeamError TeamState := do
  validateStoredIdentifier message "Message"
  let expected ← nextIdentifier (s.messages.map (·.id))
  require (message = expected) (violation s!"expected Message identifier {expected}, found {message}")
  let senderRecord ← s.agent sender
  require (senderRecord.status = .active) (.agentNotActive sender)
  require (isBlank body = false ∧ byteLen body ≤ maxMessageBytes) .invalidMessage
  require (s.messages.any (fun existing => existing.id == message) = false)
    (violation s!"Message {message} was recorded twice")
  s.checkRecipient (fun _ _ => violation "terminal Agent received a message") recipient
  return { s with messages := s.messages ++ [⟨message, sender, recipient, body⟩] }

/-! ## Endings and retries -/

def applyCompletionCapsuleSubmitted (s : TeamState) (task : TaskId) (agent : AgentId) (capsule : CompletionCapsule) :
    Except TeamError TeamState := do
  validateCapsule capsule
  let record ← s.task task
  require (record.status = .running ∧ record.owner = some agent ∧ record.completion = none)
    (violation s!"Task {task} cannot accept this Completion Capsule")
  let owner ← s.agent agent
  require (owner.status = .active) (.agentNotActive agent)
  return s.setTask task { record with completion := some capsule }

def applyTaskSucceeded (s : TeamState) (task : TaskId) : Except TeamError TeamState := do
  let record ← s.task task
  require (record.status = .running ∧ record.completion ≠ none) (violation s!"Task {task} cannot succeed")
  return s.setTask task { record with status := .succeeded }

def applyAgentSucceeded (s : TeamState) (agent : AgentId) : Except TeamError TeamState := do
  let record ← s.agent agent
  require (record.status = .active) (.agentNotActive agent)
  let task ← s.task record.task
  require (task.status = .succeeded) (violation s!"Agent {agent} Task did not succeed")
  return s.setAgent agent { record with status := .succeeded }

def applyTaskFailed (s : TeamState) (task : TaskId) (reason : String) : Except TeamError TeamState := do
  validateReason reason
  let record ← s.task task
  require (record.status = .running)
    (.invariantViolation (.taskStatus s!"Task {task} cannot fail from " record.status))
  return s.setTask task { record with status := .failed reason }

def applyAgentFailed (s : TeamState) (agent : AgentId) : Except TeamError TeamState := do
  let record ← s.agent agent
  require (record.status = .active) (.agentNotActive agent)
  let task ← s.task record.task
  require (task.status.isFailed = true) (violation s!"Agent {agent} Task did not fail")
  return s.setAgent agent { record with status := .failed }

def applyTaskCancelled (s : TeamState) (task : TaskId) (reason : String) : Except TeamError TeamState := do
  validateReason reason
  let record ← s.task task
  require (record.status.isTerminal = false) (violation s!"terminal Task {task} cannot be cancelled")
  return s.setTask task { record with status := .cancelled reason }

def applyAgentCancelled (s : TeamState) (agent : AgentId) : Except TeamError TeamState := do
  let record ← s.agent agent
  require (record.status.isTerminal = false) (violation s!"terminal Agent {agent} cannot be cancelled")
  let task ← s.task record.task
  require (task.status.isCancelled = true) (violation s!"Agent {agent} Task was not cancelled")
  return s.setAgent agent { record with status := .cancelled }

def applyTaskRetryRequested (s : TeamState) (task : TaskId) : Except TeamError TeamState := do
  let record ← s.task task
  require (record.status.blocksDependents = true)
    (.invariantViolation (.taskStatus s!"Task {task} cannot be requeued from " record.status))
  return s.setTask task { record with status := .pending, completion := none }

def applyAgentRetryRequested (s : TeamState) (requester agent : AgentId) : Except TeamError TeamState := do
  let requesterRecord ← s.agent requester
  require (requesterRecord.status = .active) (.agentNotActive requester)
  let record ← s.agent agent
  require (record.parent = some requester ∧ record.status.isRetryable = true)
    (violation s!"Agent {agent} cannot be requeued by Agent {requester}")
  return s.setAgent agent { record with status := .dormant }

/-! ## The operation journal -/

def applyOperationCommitted (s : TeamState) (operation : TeamOperationId) (transaction : TransactionId) :
    Except TeamError TeamState := do
  validateStoredIdentifier operation "Team operation"
  validateStoredIdentifier transaction "Team operation transaction"
  let expected ← nextIdentifier s.operations.keys
  require (operation = expected) (violation s!"expected Team operation identifier {expected}, found {operation}")
  require (s.operations.contains operation = false) (violation s!"Team operation {operation} was committed twice")
  return { s with operations := s.operations.insert operation ⟨transaction, none⟩ }

def applyOperationAcknowledged (s : TeamState) (operation : TeamOperationId)
    (committedTransaction acknowledgementTransaction : TransactionId) : Except TeamError TeamState := do
  validateStoredIdentifier operation "Team operation"
  validateStoredIdentifier committedTransaction "committed Team operation transaction"
  validateStoredIdentifier acknowledgementTransaction "Team operation acknowledgement transaction"
  let record ← okOr (s.operations.get operation) (.unknownOperation operation)
  require (record.transaction = committedTransaction)
    (violation s!"Team operation {operation} acknowledgement targets transaction {committedTransaction}, expected {record.transaction}")
  require (record.acknowledgementTransaction = none)
    (violation s!"Team operation {operation} was acknowledged twice")
  return { s with
    operations := s.operations.insert operation { record with acknowledgementTransaction := some acknowledgementTransaction } }

def apply (s : TeamState) (event : TeamEventKind) (maxActiveAgents : Nat) : Except TeamError TeamState :=
  match event with
  | .taskCreated task spec => s.applyTaskCreated task spec
  | .agentCreated agent task parent budget capabilities preset =>
    s.applyAgentCreated agent task parent budget capabilities preset
  | .taskOwnerAssigned task agent => s.applyTaskOwnerAssigned task agent
  | .delegationGranted parent child => s.applyDelegationGranted parent child
  | .taskReady task => s.applyTaskReady task
  | .agentActivated agent => s.applyAgentActivated agent maxActiveAgents
  | .taskStarted task => s.applyTaskStarted task
  | .messageSent message sender recipient body => s.applyMessageSent message sender recipient body
  | .completionCapsuleSubmitted task agent capsule => s.applyCompletionCapsuleSubmitted task agent capsule
  | .taskSucceeded task => s.applyTaskSucceeded task
  | .agentSucceeded agent => s.applyAgentSucceeded agent
  | .taskFailed task reason => s.applyTaskFailed task reason
  | .agentFailed agent => s.applyAgentFailed agent
  | .taskCancelled task reason => s.applyTaskCancelled task reason
  | .agentCancelled agent => s.applyAgentCancelled agent
  | .taskBlocked task blockedBy => s.applyTaskBlocked task blockedBy
  | .agentBlocked agent blockedBy => s.applyAgentBlocked agent blockedBy
  | .taskRetryRequested task => s.applyTaskRetryRequested task
  | .agentRetryRequested requester agent => s.applyAgentRetryRequested requester agent
  | .operationCommitted operation transaction => s.applyOperationCommitted operation transaction
  | .operationAcknowledged operation committed acknowledgement =>
    s.applyOperationAcknowledged operation committed acknowledgement

/-! ## Validators -/

def validateOperation (entry : (TeamOperationId × OperationRecord) × Nat) : Except TeamError Unit := do
  let ((operation, record), index) := entry
  let expected ← okOr (checkedAdd 64 index 1) .identifierExhausted
  require (operation = expected) (violation s!"Team operation identifiers are not contiguous at {expected}")
  require (record.acknowledgementTransaction.any (· ≤ record.transaction) = false)
    (violation s!"Team operation {operation} acknowledgement precedes its commit")

/-- The Task's and its Owner's statuses that go together. -/
def paired : TaskStatus → AgentStatus → Bool
  | .pending, .dormant | .ready, .dormant | .running, .active | .blocked _, .blocked | .succeeded, .succeeded
  | .failed _, .failed | .cancelled _, .cancelled => true
  | _, _ => false

def validateTask (s : TeamState) (task : TaskRecord) : Except TeamError Unit := do
  let owner ← okOr task.owner (violation s!"Task {task.id} has no Owner")
  let agent ← s.agent owner
  require (agent.task = task.id) (violation s!"Task {task.id} Owner points elsewhere")
  require (paired task.status agent.status = true) (violation s!"Task {task.id} and Agent {agent.id} states disagree")

def childrenOf (s : TeamState) (parent : AgentId) : List AgentRecord :=
  s.agents.values.filter (fun child => child.parent == some parent)

def validateParent (s : TeamState) : Option AgentId → Except TeamError Unit
  | some parent => require (s.agents.contains parent = true) (.unknownAgent parent)
  | none => .ok ()

def validateAgent (s : TeamState) (agent : AgentRecord) : Except TeamError Unit := do
  let task ← s.task agent.task
  require (task.owner = some agent.id) (violation s!"Agent {agent.id} is not the Owner of Task {agent.task}")
  s.validateParent agent.parent
  require (agent.budget.contains agent.reservedBudget) (violation s!"Agent {agent.id} over-reserved its budget")
  let expectedReserved ← okOr
    ((s.childrenOf agent.id).foldlM (fun reserved (child : AgentRecord) => reserved.checkedAdd child.budget) ResourceBudget.default)
    (.budgetExpansion agent.id)
  require (agent.reservedBudget = expectedReserved)
    (violation s!"Agent {agent.id} reserved budget does not match its Delegations")
  require ((agent.status.isTerminal && (s.childrenOf agent.id).any (fun child => !child.status.isTerminal)) = false)
    (.outstandingChildren agent.id)

def validate (s : TeamState) (maxActiveAgents : Nat) : Except TeamError Unit := do
  require (s.activeAgentCount ≤ maxActiveAgents) (violation "Active Agent limit exceeded")
  require (s.root.all s.agents.contains = true) (violation "root Agent is missing")
  s.operations.entries.zipIdx.forM validateOperation
  s.tasks.values.forM s.validateTask
  s.agents.values.forM s.validateAgent

def validatePending (s : TeamState) (task : TaskRecord) : Except TeamError Unit := do
  let failed ← s.firstFailedDependency task.id
  let settled ← if failed.isSome then pure true else s.dependenciesSucceeded task.id
  require (settled = false) (violation s!"Task {task.id} is Pending despite a resolved dependency state")

def validateQuiescent (s : TeamState) (maxActiveAgents : Nat) : Except TeamError Unit := do
  (s.tasks.values.filter (fun task => task.status == .pending)).forM s.validatePending
  require ((decide (s.activeAgentCount < maxActiveAgents) && s.tasks.values.any (fun task => task.status == .ready)) = false)
    (violation "Ready Task was not activated despite available capacity")

/-! ## Reconciliation -/

def applyAll (s : TeamState) (maxActiveAgents : Nat) : List TeamEventKind → Except TeamError TeamState
  | [] => return s
  | event :: events => do
    let s ← s.apply event maxActiveAgents
    s.applyAll maxActiveAgents events

def ownerOf (s : TeamState) (task : TaskId) : Except TeamError AgentId :=
  okOr ((s.tasks.get task).bind (·.owner)) (violation s!"Task {task} has no Owner")

/-- One turn of the reconciler's first loop: the events planned for a Pending Task, and
    the state after them. -/
def settlePending (s : TeamState) (task : TaskId) (maxActiveAgents : Nat) :
    Except TeamError (TeamState × List TeamEventKind) := do
  match ← s.firstFailedDependency task with
  | some blockedBy =>
    let s ← s.apply (.taskBlocked task blockedBy) maxActiveAgents
    let agent ← s.ownerOf task
    let s ← s.apply (.agentBlocked agent blockedBy) maxActiveAgents
    return (s, [.taskBlocked task blockedBy, .agentBlocked agent blockedBy])
  | none =>
    if ← s.dependenciesSucceeded task then
      let s ← s.apply (.taskReady task) maxActiveAgents
      return (s, [.taskReady task])
    else return (s, [])

def settleAll (maxActiveAgents : Nat) : List TaskId → TeamState → Except TeamError (TeamState × List TeamEventKind)
  | [], s => return (s, [])
  | task :: pending, s => do
    let (s, events) ← s.settlePending task maxActiveAgents
    let (s, more) ← settleAll maxActiveAgents pending s
    return (s, events ++ more)

def nextReady (s : TeamState) : Option TaskRecord := s.tasks.values.find? (fun task => task.status == .ready)

/-- One turn of the reconciler's second loop, on a Ready Task. -/
def startReady (s : TeamState) (task : TaskId) (maxActiveAgents : Nat) :
    Except TeamError (TeamState × List TeamEventKind) := do
  let agent ← s.ownerOf task
  let s ← s.apply (.agentActivated agent) maxActiveAgents
  let s ← s.apply (.taskStarted task) maxActiveAgents
  return (s, [.agentActivated agent, .taskStarted task])

def activateReady (maxActiveAgents : Nat) : Nat → TeamState → Except TeamError (TeamState × List TeamEventKind)
  | 0, s => return (s, [])
  | fuel + 1, s =>
    if s.activeAgentCount < maxActiveAgents then
      match s.nextReady with
      | none => return (s, [])
      | some task => do
        let (s, events) ← s.startReady task.id maxActiveAgents
        let (s, more) ← activateReady maxActiveAgents fuel s
        return (s, events ++ more)
    else return (s, [])

def pendingTasks (s : TeamState) : List TaskId :=
  (s.tasks.values.filter (fun task => task.status == .pending)).map (·.id)

/-- The events that reconciliation adds, and the state after them. -/
def reconcile (s : TeamState) (maxActiveAgents : Nat) : Except TeamError (TeamState × List TeamEventKind) := do
  let (s, settled) ← settleAll maxActiveAgents s.pendingTasks s
  let (s, activated) ← activateReady maxActiveAgents s.tasks.size s
  return (s, settled ++ activated)

end TeamState

end GreenTyper.Team
