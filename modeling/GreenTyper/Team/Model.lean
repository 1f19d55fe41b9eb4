/-
  GreenTyper.Team.Model — the data of an Agent Team (`agent_team.rs`): identifiers,
  budgets, Tasks, Agents, events, commands and errors, and the checks on each of them.

  Identifiers are numbers. A budget's fields are a `u64` and a `u32`, which is part of
  the type, so sums of budgets are checked as the source checks them. A violated
  invariant carries its text; where the text ends in a Task's or an Agent's status, it
  carries that status.
-/

import GreenTyper.Lib.OrdMap
import GreenTyper.Lib.Result
import GreenTyper.Lib.Text
import Mathlib.Data.Finset.Card

namespace GreenTyper.Team

open GreenTyper.Lib

def maxMessageBytes : Nat := 64 * 1024
def maxReasonBytes : Nat := 8 * 1024
def maxCapsuleBytes : Nat := 256 * 1024
def maxTaskTitleBytes : Nat := 1024
def maxScopeLabelBytes : Nat := 256
def maxScopeLabels : Nat := 64
def maxToolNameBytes : Nat := 256
def maxModelPresetIdBytes : Nat := 64
def maxCapabilities : Nat := 64
def maxTaskDependencies : Nat := 256
def maxCapsuleEntries : Nat := 1024

abbrev TaskId := Nat
abbrev AgentId := Nat
abbrev MessageId := Nat
abbrev EventSeq := Nat
abbrev TransactionId := Nat
abbrev TeamOperationId := Nat

structure InheritedModelPreset where
  id : String
  deriving DecidableEq

/-- Authority to act as one Agent, for one Runtime instance. -/
structure AgentSession where
  agent : AgentId
  runtimeAuthority : Nat
  deriving DecidableEq

inductive Capability where
  | workspaceRead
  | workspaceWrite
  | process
  | network
  | tool (name : String)
  deriving DecidableEq

abbrev CapabilitySnapshot := Finset Capability

abbrev TaskScope := Finset String

structure ResourceBudget where
  tokenUnits : Nat
  toolCalls : Nat
  tokenUnits_lt : tokenUnits < 2 ^ 64
  toolCalls_lt : toolCalls < 2 ^ 32
  deriving DecidableEq

namespace ResourceBudget

def default : ResourceBudget := ⟨0, 0, by decide, by decide⟩

def contains (budget child : ResourceBudget) : Prop :=
  child.tokenUnits ≤ budget.tokenUnits ∧ child.toolCalls ≤ budget.toolCalls

instance (budget child : ResourceBudget) : Decidable (budget.contains child) := inferInstanceAs (Decidable (_ ∧ _))

def checkedAdd (budget other : ResourceBudget) : Option ResourceBudget :=
  if h : budget.tokenUnits + other.tokenUnits < 2 ^ 64 ∧ budget.toolCalls + other.toolCalls < 2 ^ 32 then
    some ⟨budget.tokenUnits + other.tokenUnits, budget.toolCalls + other.toolCalls, h.1, h.2⟩
  else none

def remainingAfter (budget reserved : ResourceBudget) : Option ResourceBudget :=
  if reserved.tokenUnits ≤ budget.tokenUnits ∧ reserved.toolCalls ≤ budget.toolCalls then
    some ⟨budget.tokenUnits - reserved.tokenUnits, budget.toolCalls - reserved.toolCalls,
      Nat.lt_of_le_of_lt (Nat.sub_le _ _) budget.tokenUnits_lt,
      Nat.lt_of_le_of_lt (Nat.sub_le _ _) budget.toolCalls_lt⟩
  else none

end ResourceBudget

def resourceBudget (tokenUnits toolCalls : Nat) : ResourceBudget :=
  ⟨tokenUnits % 2 ^ 64, toolCalls % 2 ^ 32, Nat.mod_lt _ (by decide), Nat.mod_lt _ (by decide)⟩

structure TaskSpec where
  title : String
  scope : TaskScope
  dependencies : List TaskId
  deriving DecidableEq

structure CompletionCapsule where
  outcome : String
  evidence : List String
  changes : List String
  tests : List String
  decisions : List String
  blockers : List String
  artifacts : List String
  residualRisks : List String
  deriving DecidableEq

namespace CompletionCapsule

def lists (capsule : CompletionCapsule) : List (List String) :=
  [capsule.evidence, capsule.changes, capsule.tests, capsule.decisions, capsule.blockers, capsule.artifacts,
    capsule.residualRisks]

def approximateBytes (capsule : CompletionCapsule) : Option Nat :=
  capsule.lists.foldlM (fun total values => values.foldlM (fun total value => checkedAdd 64 total (byteLen value)) total)
    (byteLen capsule.outcome)

def entryCount (capsule : CompletionCapsule) : Option Nat :=
  capsule.lists.foldlM (fun total values => checkedAdd 64 total values.length) 0

end CompletionCapsule

inductive MessageRecipient where
  | agent (agent : AgentId)
  | team
  deriving DecidableEq

inductive TeamCommand where
  | admitRoot (task : TaskSpec) (budget : ResourceBudget) (capabilities : CapabilitySnapshot)
  | delegate (parent : AgentSession) (task : TaskSpec) (budget : ResourceBudget) (capabilities : CapabilitySnapshot)
  | delegateWithModelPreset (parent : AgentSession) (task : TaskSpec) (budget : ResourceBudget)
      (capabilities : CapabilitySnapshot) (inheritedModelPreset : Option InheritedModelPreset)
  | sendMessage (sender : AgentSession) (recipient : MessageRecipient) (body : String)
  | complete (agent : AgentSession) (capsule : CompletionCapsule)
  | fail (agent : AgentSession) (reason : String)
  | cancel (agent : AgentSession) (reason : String)
  | retry (requester : AgentSession) (agent : AgentId)
  deriving DecidableEq

inductive AgentStatus where
  | dormant
  | active
  | blocked
  | succeeded
  | failed
  | cancelled
  deriving DecidableEq

namespace AgentStatus

def isTerminal : AgentStatus → Bool
  | .succeeded | .failed | .cancelled => true
  | _ => false

/-- The statuses from which an Agent may be retried. -/
def isRetryable : AgentStatus → Bool
  | .blocked | .failed | .cancelled => true
  | _ => false

end AgentStatus

inductive TaskStatus where
  | pending
  | ready
  | running
  | blocked (blockedBy : TaskId)
  | succeeded
  | failed (reason : String)
  | cancelled (reason : String)
  deriving DecidableEq

namespace TaskStatus

def isTerminal : TaskStatus → Bool
  | .succeeded | .failed _ | .cancelled _ => true
  | _ => false

def blocksDependents : TaskStatus → Bool
  | .blocked _ | .failed _ | .cancelled _ => true
  | _ => false

def isFailed : TaskStatus → Bool
  | .failed _ => true
  | _ => false

def isCancelled : TaskStatus → Bool
  | .cancelled _ => true
  | _ => false

end TaskStatus

structure MessageView where
  id : MessageId
  sender : AgentId
  recipient : MessageRecipient
  body : String
  deriving DecidableEq

inductive TeamEventKind where
  | taskCreated (task : TaskId) (spec : TaskSpec)
  | agentCreated (agent : AgentId) (task : TaskId) (parent : Option AgentId) (budget : ResourceBudget)
      (capabilities : CapabilitySnapshot) (inheritedModelPreset : Option InheritedModelPreset)
  | taskOwnerAssigned (task : TaskId) (agent : AgentId)
  | delegationGranted (parent child : AgentId)
  | taskReady (task : TaskId)
  | agentActivated (agent : AgentId)
  | taskStarted (task : TaskId)
  | messageSent (message : MessageId) (sender : AgentId) (recipient : MessageRecipient) (body : String)
  | completionCapsuleSubmitted (task : TaskId) (agent : AgentId) (capsule : CompletionCapsule)
  | taskSucceeded (task : TaskId)
  | agentSucceeded (agent : AgentId)
  | taskFailed (task : TaskId) (reason : String)
  | agentFailed (agent : AgentId)
  | taskCancelled (task : TaskId) (reason : String)
  | agentCancelled (agent : AgentId)
  | taskBlocked (task blockedBy : TaskId)
  | agentBlocked (agent : AgentId) (blockedBy : TaskId)
  | taskRetryRequested (task : TaskId)
  | agentRetryRequested (requester agent : AgentId)
  | operationCommitted (operation : TeamOperationId) (transaction : TransactionId)
  | operationAcknowledged (operation : TeamOperationId) (committedTransaction acknowledgementTransaction : TransactionId)
  deriving DecidableEq

structure TeamEvent where
  sequence : EventSeq
  transaction : TransactionId
  indexInTransaction : Nat
  eventsInTransaction : Nat
  kind : TeamEventKind
  deriving DecidableEq

inductive CommandOutcome where
  | rootAdmitted (task : TaskId) (agent : AgentId) (session : AgentSession)
  | delegated (task : TaskId) (agent : AgentId) (session : AgentSession)
  | messageAccepted (message : MessageId)
  | stateChanged (task : TaskId) (agent : AgentId)
  deriving DecidableEq

inductive TeamOperationKind where
  | rootAdmission
  | delegation
  | message
  | completion
  | failure
  | cancellation
  | retry
  deriving DecidableEq

/-- The text of a violated invariant: `text` as it is, the other two ending in a status. -/
inductive Detail where
  | text (s : String)
  | taskStatus (s : String) (status : TaskStatus)
  | agentStatus (s : String) (status : AgentStatus)
  deriving DecidableEq

inductive TeamError where
  | invalidActiveAgentLimit
  | rootAlreadyAdmitted
  | rootDependenciesNotAllowed
  | invalidTaskTitle
  | taskTitleTooLarge
  | invalidScope
  | scopeLabelTooLarge
  | tooManyScopeLabels
  | invalidCapability
  | invalidModelPreset
  | toolNameTooLarge
  | tooManyCapabilities
  | invalidBudget
  | tooManyDependencies
  | duplicateDependency (task : TaskId)
  | dependencyCycle (dependency : TaskId)
  | unknownTask (task : TaskId)
  | unknownAgent (agent : AgentId)
  | invalidAgentSession (agent : AgentId)
  | agentNotActive (agent : AgentId)
  | scopeExpansion (parent : AgentId)
  | capabilityExpansion (parent : AgentId)
  | budgetExpansion (parent : AgentId)
  | invalidMessage
  | messageTooLarge
  | invalidCompletionCapsule
  | completionCapsuleTooLarge
  | tooManyCompletionCapsuleEntries
  | invalidReason
  | reasonTooLarge
  | outstandingChildren (parent : AgentId)
  | invalidTransition (agent : AgentId) (status : AgentStatus) (operation : String)
  | unknownOperation (operation : TeamOperationId)
  | identifierExhausted
  | invariantViolation (detail : Detail)
  deriving DecidableEq

/-- `invariant(text)`. -/
def violation (s : String) : TeamError := .invariantViolation (.text s)

/-! ## Checks -/

def validateBudget (budget : ResourceBudget) : Except TeamError Unit :=
  require (budget.tokenUnits ≠ 0) .invalidBudget

def validateScope (scope : TaskScope) : Except TeamError Unit := do
  require (scope.card ≤ maxScopeLabels) .tooManyScopeLabels
  require (∀ label ∈ scope, isBlank label = false ∧ trim label = label) .invalidScope
  require (∀ label ∈ scope, byteLen label ≤ maxScopeLabelBytes) .scopeLabelTooLarge

def Capability.named (p : String → Bool) : Capability → Bool
  | .tool name => p name
  | _ => true

def validateCapabilities (capabilities : CapabilitySnapshot) : Except TeamError Unit := do
  require (capabilities.card ≤ maxCapabilities) .tooManyCapabilities
  require (∀ c ∈ capabilities, c.named (fun name => !isBlank name && trim name == name) = true) .invalidCapability
  require (∀ c ∈ capabilities, c.named (fun name => byteLen name ≤ maxToolNameBytes) = true) .toolNameTooLarge

def validateCapsule (capsule : CompletionCapsule) : Except TeamError Unit := do
  require (isBlank capsule.outcome = false) .invalidCompletionCapsule
  require (capsule.approximateBytes.any (· ≤ maxCapsuleBytes) = true) .completionCapsuleTooLarge
  require (capsule.entryCount.any (· ≤ maxCapsuleEntries) = true) .tooManyCompletionCapsuleEntries

def validateReason (reason : String) : Except TeamError Unit := do
  require (isBlank reason = false) .invalidReason
  require (byteLen reason ≤ maxReasonBytes) .reasonTooLarge

def isAsciiLowercase (c : Char) : Bool := 0x61 ≤ c.toNat && c.toNat ≤ 0x7a
def isAsciiDigit (c : Char) : Bool := 0x30 ≤ c.toNat && c.toNat ≤ 0x39

/-- The source tests bytes; a text whose bytes are all ASCII has them as its characters,
    and a first byte that passed the middle test is no capital letter. -/
def validateModelPresetId (id : String) : Except TeamError Unit :=
  require (id ≠ "" ∧ byteLen id ≤ maxModelPresetIdBytes ∧
    id.toList.all (fun c => isAsciiLowercase c || isAsciiDigit c || c == '-') = true ∧
    id.toList.head?.any (fun c => isAsciiLowercase c || isAsciiDigit c) = true) .invalidModelPreset

def validatePreset : Option InheritedModelPreset → Except TeamError Unit
  | some preset => validateModelPresetId preset.id
  | none => .ok ()

/-- The walk over `dependencies.windows(2)`, in stored order. -/
def validateStoredDependencies : List TaskId → Except TeamError Unit
  | a :: b :: rest => do
    require (a ≠ b) (.duplicateDependency a)
    require (a < b) (violation "Task dependencies are not canonically ordered")
    validateStoredDependencies (b :: rest)
  | _ => .ok ()

def validateStoredTaskSpec (spec : TaskSpec) : Except TeamError Unit := do
  require (isBlank spec.title = false ∧ trim spec.title = spec.title) .invalidTaskTitle
  require (byteLen spec.title ≤ maxTaskTitleBytes) .taskTitleTooLarge
  validateScope spec.scope
  require (spec.dependencies.length ≤ maxTaskDependencies) .tooManyDependencies
  validateStoredDependencies spec.dependencies

def maxIdentifier : Nat := 2 ^ 64 - 1

/-- An identifier that may be stored. -/
def ValidId (value : Nat) : Prop := value ≠ 0 ∧ value < maxIdentifier

def validateStoredIdentifier (value : Nat) (kind : String) : Except TeamError Unit :=
  require (value ≠ 0 ∧ value < maxIdentifier) (violation s!"{kind} identifier {value} is invalid")

def freshIdentifier (value : Nat) : Except TeamError Nat := do
  validateStoredIdentifier value "next"
  return value

def nextIdentifier (values : List Nat) : Except TeamError Nat :=
  okOr (checkedAdd 64 (values.foldl max 0) 1) .identifierExhausted

end GreenTyper.Team
