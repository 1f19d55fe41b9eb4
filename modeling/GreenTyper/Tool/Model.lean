/-
  GreenTyper.Tool.Model — the data of Tool calls (`tool_runtime.rs`): intents and their
  resources, call records, events, and the state that events build.

  SHA-256 is an argument. A digest is its 32 bytes. An Agent or a call that is stored has
  a nonzero number below the largest; a principal's Agent is stored, and carries that.
  A map from texts is an association list, which is all its lookups need.
-/

import GreenTyper.Ledger.File
import GreenTyper.Team.Codec
import Mathlib.Data.Finset.Sort
import Mathlib.Data.String.Basic

namespace GreenTyper.Tool

open GreenTyper.Lib
open GreenTyper.Ledger (LedgerError LedgerHead)
open GreenTyper.Team (AgentId AgentSession Capability CapabilitySnapshot ValidId maxIdentifier)

def maxCallIdentityBytes : Nat := 256
def maxToolNameBytes : Nat := 256
def maxResourceBytes : Nat := 1024
def maxResourcesPerAxis : Nat := 64
def maxReasonBytes : Nat := 8 * 1024
def maxOutputBytes : Nat := 256 * 1024

def approvalDeniedReason : String := "Tool approval denied"
def effectFailedReason : String := "Tool execution failed"
def effectAmbiguousReason : String := "Tool outcome is ambiguous"
def reconciledFailedReason : String := "Tool effect reconciled as failed"

abbrev ToolCallId := Nat

structure Digest where
  bytes : List Byte
  length : bytes.length = 32
  deriving DecidableEq

abbrev ToolArgumentsHash := Digest

inductive ToolRuntimeError where
  | ledger (source : LedgerError)
  | invalidArguments (reason : String)
  | invalidResource (reason : String)
  | invalidText (field : String)
  | textTooLarge (field : String)
  | capabilityDenied (capability : Capability)
  | identityConflict (identity : String)
  | unknownCall (call : ToolCallId)
  | staleApprovalRequest
  | approvalExpired
  | reconciliationRequired (call : ToolCallId)
  | reconciliationAuthorityDenied (call : ToolCallId)
  | invalidTransition (call : ToolCallId) (operation : String)
  | unsupportedToolEventSchema (supported actual : UInt16)
  | corruptEvent (reason : String)
  | corruptState (reason : String)
  | identifierExhausted
  | integerOverflow
  | clock
  deriving DecidableEq

/-- `ToolCallId::new`. -/
def newCallId (value : Nat) : Except ToolRuntimeError ToolCallId := do
  require (value ≠ 0 ∧ value ≠ maxIdentifier) .identifierExhausted
  return value

def validateBoundedText (value : String) (maxBytes : Nat) (field : String) : Except ToolRuntimeError Unit := do
  require (value ≠ "" ∧ trim value = value ∧ value.toList.any isControl = false) (.invalidText field)
  require (byteLen value ≤ maxBytes) (.textTooLarge field)

/-! ## Arguments and resources -/

structure ToolArguments where
  canonicalJson : String
  deriving DecidableEq

structure ToolResources where
  filesystemReads : Finset String
  filesystemWrites : Finset String
  process : Option String
  networkTargets : Finset String
  deriving DecidableEq

structure ToolResourceBinding where
  fingerprint : Digest
  filesystemReadCount : UInt16
  filesystemWriteCount : UInt16
  process : Bool
  networkTargetCount : UInt16
  deriving DecidableEq

def requireCapability (capabilities : CapabilitySnapshot) (needed : Prop) [Decidable needed] (capability : Capability) :
    Except ToolRuntimeError Unit :=
  require (needed → capability ∈ capabilities) (.capabilityDenied capability)

namespace ToolResourceBinding

def validate (binding : ToolResourceBinding) : Except ToolRuntimeError Unit :=
  require (binding.filesystemReadCount.toNat ≤ maxResourcesPerAxis ∧
    binding.filesystemWriteCount.toNat ≤ maxResourcesPerAxis ∧ binding.networkTargetCount.toNat ≤ maxResourcesPerAxis)
    (.corruptEvent "Tool resource binding exceeds its axis limit")

def requireCapabilities (binding : ToolResourceBinding) (capabilities : CapabilitySnapshot) : Except ToolRuntimeError Unit := do
  requireCapability capabilities (binding.filesystemReadCount > 0) .workspaceRead
  requireCapability capabilities (binding.filesystemWriteCount > 0) .workspaceWrite
  requireCapability capabilities (binding.process = true) .process
  requireCapability capabilities (binding.networkTargetCount > 0) .network

end ToolResourceBinding

def hashResourceValue (value : String) : List Byte := leBytes 4 (byteLen value) ++ utf8 value

/-- One axis of the hashed text, its resources in their order. -/
def hashResourceAxis (tag : Byte) (resources : Finset String) : List Byte :=
  tag :: leBytes 4 resources.card ++ (inOrder resources).flatMap hashResourceValue

namespace ToolResources

/-- What `binding` hashes. -/
def bindingText (resources : ToolResources) : List Byte :=
  utf8 "greentyper-tool-resource-binding-v1\x00" ++ hashResourceAxis 1 resources.filesystemReads ++
    hashResourceAxis 2 resources.filesystemWrites ++
    (3 :: match resources.process with
      | some process => 1 :: hashResourceValue process
      | none => [0]) ++
    hashResourceAxis 4 resources.networkTargets

def binding (sha256 : List Byte → Digest) (resources : ToolResources) : ToolResourceBinding where
  fingerprint := sha256 resources.bindingText
  filesystemReadCount := UInt16.ofNat resources.filesystemReads.card
  filesystemWriteCount := UInt16.ofNat resources.filesystemWrites.card
  process := resources.process.isSome
  networkTargetCount := UInt16.ofNat resources.networkTargets.card

def validateResourceAxis (resources : Finset String) : Except ToolRuntimeError Unit := do
  require (resources.card ≤ maxResourcesPerAxis) (.invalidResource "too many resources on one authority axis")
  (inOrder resources).forM fun resource => validateBoundedText resource maxResourceBytes "resource"

def validateProcess : Option String → Except ToolRuntimeError Unit
  | some process => validateBoundedText process maxResourceBytes "process resource"
  | none => .ok ()

def validate (resources : ToolResources) : Except ToolRuntimeError Unit := do
  validateResourceAxis resources.filesystemReads
  validateResourceAxis resources.filesystemWrites
  validateResourceAxis resources.networkTargets
  validateProcess resources.process

def requireCapabilities (resources : ToolResources) (capabilities : CapabilitySnapshot) : Except ToolRuntimeError Unit := do
  requireCapability capabilities (resources.filesystemReads ≠ ∅) .workspaceRead
  requireCapability capabilities (resources.filesystemWrites ≠ ∅) .workspaceWrite
  requireCapability capabilities (resources.process.isSome = true) .process
  requireCapability capabilities (resources.networkTargets ≠ ∅) .network

end ToolResources

structure ToolIntent where
  identity : String
  tool : String
  arguments : ToolArguments
  resources : ToolResources
  deriving DecidableEq

def ToolArguments.hash (sha256 : List Byte → Digest) (arguments : ToolArguments) : ToolArgumentsHash :=
  sha256 (utf8 arguments.canonicalJson)

def ToolIntent.validate (intent : ToolIntent) : Except ToolRuntimeError Unit := do
  validateBoundedText intent.identity maxCallIdentityBytes "Tool call identity"
  validateBoundedText intent.tool maxToolNameBytes "Tool name"
  intent.resources.validate

/-! ## Calls -/

inductive ToolCallStatus where
  | awaitingApproval
  | denied
  | reconciliationRequired
  | succeeded
  | failed
  deriving DecidableEq

structure ToolCallRecord where
  call : ToolCallId
  identity : String
  agent : AgentId
  tool : String
  argumentsHash : ToolArgumentsHash
  resourceBinding : ToolResourceBinding
  status : ToolCallStatus
  approvalExpiresAtUnixMs : Option UInt64
  resultDigest : Option Digest
  reason : Option String
  deriving DecidableEq

structure ToolApprovalRequest where
  call : ToolCallId
  session : AgentSession
  intent : ToolIntent
  argumentsHash : ToolArgumentsHash
  deriving DecidableEq

inductive ToolRequestOutcome where
  | approvalRequired (request : ToolApprovalRequest)
  | existing (record : ToolCallRecord)
  deriving DecidableEq

inductive ApprovalDecision where
  | grant (expiresAtUnixMs : UInt64)
  | deny (reason : String)
  deriving DecidableEq

structure AuthorizedToolCall where
  record : ToolCallRecord
  arguments : ToolArguments
  resources : ToolResources
  deriving DecidableEq

inductive ToolExecution where
  | succeeded (output : List Byte)
  | failed (reason : String)
  | ambiguous (reason : String)
  deriving DecidableEq

inductive ToolCallOutcome where
  | succeeded (record : ToolCallRecord) (output : List Byte)
  | failed (record : ToolCallRecord)
  | denied (record : ToolCallRecord)
  | reconciliationRequired (record : ToolCallRecord)
  deriving DecidableEq

inductive ToolReconciliationDecision where
  | observedSucceeded (resultDigest : Digest)
  | observedFailed (reason : String)
  deriving DecidableEq

/-- An Agent as the Team vouches for it. -/
structure ToolPrincipal where
  session : AgentSession
  agent : AgentId
  capabilities : CapabilitySnapshot
  stored : ValidId agent

/-! ## Events -/

inductive ToolEvent where
  | callRequested (call : ToolCallId) (identity : String) (agent : AgentId) (tool : String)
      (argumentsHash : ToolArgumentsHash) (resourceBinding : ToolResourceBinding)
  | approvalGranted (call : ToolCallId) (agent : AgentId) (argumentsHash : ToolArgumentsHash)
      (resourceBinding : ToolResourceBinding) (expiresAtUnixMs : UInt64)
  | effectPrepared (call : ToolCallId) (argumentsHash : ToolArgumentsHash)
  | approvalDenied (call : ToolCallId) (reason : String)
  | effectSucceeded (call : ToolCallId) (resultDigest : Digest)
  | effectFailed (call : ToolCallId) (reason : String)
  | effectAmbiguous (call : ToolCallId) (reason : String)
  | effectReconciledSucceeded (call : ToolCallId) (resultDigest : Digest)
  | effectReconciledFailed (call : ToolCallId) (reason : String)
  deriving DecidableEq

def ToolEvent.call : ToolEvent → ToolCallId
  | .callRequested call .. | .approvalGranted call .. | .effectPrepared call _ | .approvalDenied call _
  | .effectSucceeded call _ | .effectFailed call _ | .effectAmbiguous call _ | .effectReconciledSucceeded call _
  | .effectReconciledFailed call _ => call

/-- The only events that come in a pair are a grant and its effect; any other event is
    alone. -/
def validTransaction : List ToolEvent → Bool
  | [.approvalGranted call _ _ _ _, .effectPrepared prepared _] => call == prepared
  | [.approvalGranted ..] => false
  | [.effectPrepared ..] => false
  | [_] => true
  | _ => false

def validateTransaction (events : List ToolEvent) : Except ToolRuntimeError Unit := do
  require (validTransaction events = true) (.corruptState "invalid Tool Event transaction")
  let call ← okOr (events.head?.map ToolEvent.call) (.corruptState "empty Tool transaction")
  require (events.any (fun event => event.call != call) = false) (.corruptState "mixed Tool Call IDs in one transaction")

/-! ## The state -/

structure ToolState where
  calls : OrdMap Nat ToolCallRecord
  identities : List (String × ToolCallId)
  nextCall : Nat
  deriving DecidableEq

namespace ToolState

def default : ToolState := ⟨.empty, [], 1⟩

def setCall (s : ToolState) (call : ToolCallId) (record : ToolCallRecord) : ToolState :=
  { s with calls := s.calls.insert call record }

/-- `awaiting_approval_mut` and `reconciliation_required_mut`: the record, if its status is
    the one expected. -/
def recordIn (s : ToolState) (status : ToolCallStatus) (text : String) (call : ToolCallId) :
    Except ToolRuntimeError ToolCallRecord := do
  let record ← okOr (s.calls.get call) (.corruptState "unknown Tool call")
  require (record.status = status) (.corruptState text)
  return record

def awaitingApproval (s : ToolState) (call : ToolCallId) : Except ToolRuntimeError ToolCallRecord :=
  s.recordIn .awaitingApproval "Tool call is not awaiting approval" call

def reconciliationRequired (s : ToolState) (call : ToolCallId) : Except ToolRuntimeError ToolCallRecord :=
  s.recordIn .reconciliationRequired "Tool call is not awaiting reconciliation" call

def applyCallRequested (s : ToolState) (call : ToolCallId) (identity : String) (agent : AgentId) (tool : String)
    (argumentsHash : ToolArgumentsHash) (resourceBinding : ToolResourceBinding) : Except ToolRuntimeError ToolState := do
  require (call = s.nextCall) (.corruptState "Tool Call IDs are not contiguous")
  validateBoundedText identity maxCallIdentityBytes "Tool call identity"
  validateBoundedText tool maxToolNameBytes "Tool name"
  resourceBinding.validate
  require ((s.identities.lookup identity).isSome = false ∧ s.calls.contains call = false)
    (.corruptState "duplicate Tool call identity")
  let nextCall ← okOr (checkedAdd 64 s.nextCall 1) .identifierExhausted
  return ⟨s.calls.insert call ⟨call, identity, agent, tool, argumentsHash, resourceBinding, .awaitingApproval, none, none, none⟩,
    (identity, call) :: s.identities, nextCall⟩

def applyApprovalGranted (s : ToolState) (call : ToolCallId) (agent : AgentId) (argumentsHash : ToolArgumentsHash)
    (resourceBinding : ToolResourceBinding) (expiresAtUnixMs : UInt64) : Except ToolRuntimeError ToolState := do
  let record ← s.awaitingApproval call
  require (record.agent = agent ∧ record.argumentsHash = argumentsHash ∧ record.resourceBinding = resourceBinding ∧
    expiresAtUnixMs ≠ 0) (.corruptState "Approval Grant does not match its Tool call")
  return s.setCall call { record with approvalExpiresAtUnixMs := some expiresAtUnixMs }

def applyEffectPrepared (s : ToolState) (call : ToolCallId) (argumentsHash : ToolArgumentsHash) :
    Except ToolRuntimeError ToolState := do
  let record ← s.awaitingApproval call
  require (record.argumentsHash = argumentsHash ∧ record.approvalExpiresAtUnixMs.isSome = true)
    (.corruptState "prepared Tool effect lacks a matching Approval Grant")
  return s.setCall call
    { record with status := .reconciliationRequired, reason := some "prepared Tool effect has no durable outcome" }

def applyApprovalDenied (s : ToolState) (call : ToolCallId) (reason : String) : Except ToolRuntimeError ToolState := do
  validateBoundedText reason maxReasonBytes "denial reason"
  let record ← s.awaitingApproval call
  return s.setCall call { record with status := .denied, reason := some reason }

def applySucceeded (s : ToolState) (call : ToolCallId) (resultDigest : Digest) : Except ToolRuntimeError ToolState := do
  let record ← s.reconciliationRequired call
  return s.setCall call { record with status := .succeeded, resultDigest := some resultDigest, reason := none }

def applyFailed (s : ToolState) (call : ToolCallId) (reason : String) : Except ToolRuntimeError ToolState := do
  validateBoundedText reason maxReasonBytes "Tool failure reason"
  let record ← s.reconciliationRequired call
  return s.setCall call { record with status := .failed, reason := some reason }

def applyEffectAmbiguous (s : ToolState) (call : ToolCallId) (reason : String) : Except ToolRuntimeError ToolState := do
  validateBoundedText reason maxReasonBytes "ambiguous Tool effect reason"
  let record ← s.reconciliationRequired call
  return s.setCall call { record with reason := some reason }

def apply (s : ToolState) : ToolEvent → Except ToolRuntimeError ToolState
  | .callRequested call identity agent tool argumentsHash resourceBinding =>
    s.applyCallRequested call identity agent tool argumentsHash resourceBinding
  | .approvalGranted call agent argumentsHash resourceBinding expiresAtUnixMs =>
    s.applyApprovalGranted call agent argumentsHash resourceBinding expiresAtUnixMs
  | .effectPrepared call argumentsHash => s.applyEffectPrepared call argumentsHash
  | .approvalDenied call reason => s.applyApprovalDenied call reason
  | .effectSucceeded call resultDigest | .effectReconciledSucceeded call resultDigest => s.applySucceeded call resultDigest
  | .effectFailed call reason | .effectReconciledFailed call reason => s.applyFailed call reason
  | .effectAmbiguous call reason => s.applyEffectAmbiguous call reason

def applyAll (s : ToolState) : List ToolEvent → Except ToolRuntimeError ToolState
  | [] => return s
  | event :: events => do
    let s ← s.apply event
    s.applyAll events

def applyTransaction (s : ToolState) (events : List ToolEvent) : Except ToolRuntimeError ToolState := do
  validateTransaction events
  s.applyAll events

end ToolState

end GreenTyper.Tool
