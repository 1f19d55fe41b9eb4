/-
  GreenTyper.Team.Codec — Team events as Ledger payloads (`persistence.rs`): an event's
  tag and payload under a schema, and reading it back.

  Encoders give bytes and fail where a count does not fit a `u32`. Decoders read from a
  cursor with a bound on every count and string. A set is written in the order of its
  elements; texts compare by their characters, which is the order of their bytes, and
  capabilities in the order of their variants.
-/

import GreenTyper.Ledger.Format
import GreenTyper.Lib.Decoder
import GreenTyper.Lib.Text
import GreenTyper.Team.Runtime
import Mathlib.Data.Finset.Sort

namespace GreenTyper.Team

open GreenTyper.Lib
open GreenTyper.Ledger (EventData LedgerError LedgerHead)

def teamEventSchema : UInt16 := 4
def teamEventSchemaV1 : UInt16 := 1
def teamEventSchemaV2 : UInt16 := 2
def teamEventSchemaV3 : UInt16 := 3

inductive DurableTeamError where
  | ledger (source : LedgerError)
  | team (source : TeamError)
  | recovery (source : RecoveryError)
  | unsupportedTeamEventSchema (supported actual : UInt16)
  | corruptEvent (reason : String)
  | headMismatch (ledger team : LedgerHead)
  | integerOverflow
  deriving DecidableEq

/-! ## Orders -/

def Capability.key : Capability → Nat × String
  | .workspaceRead => (0, "")
  | .workspaceWrite => (1, "")
  | .process => (2, "")
  | .network => (3, "")
  | .tool name => (4, name)

/-- The order of the variants, and of their names. -/
def Capability.le (a b : Capability) : Prop := a.key.1 < b.key.1 ∨ (a.key.1 = b.key.1 ∧ a.key.2 ≤ b.key.2)

instance : DecidableRel Capability.le := fun _ _ => inferInstanceAs (Decidable (_ ∨ _))

instance : IsTrans Capability Capability.le where
  trans a b c hab hbc := by
    rcases hab with hab | ⟨hab, hab'⟩ <;> rcases hbc with hbc | ⟨hbc, hbc'⟩
    · exact Or.inl (Nat.lt_trans hab hbc)
    · exact Or.inl (hbc ▸ hab)
    · exact Or.inl (hab ▸ hbc)
    · exact Or.inr ⟨hab.trans hbc, hab'.trans hbc'⟩

instance : Std.Antisymm Capability.le where
  antisymm a b hab hba := by
    have hkey : a.key = b.key := by
      rcases hab with hab | ⟨hab, hab'⟩ <;> rcases hba with hba | ⟨hba, hba'⟩
      · exact absurd hba (Nat.lt_asymm hab)
      · exact absurd (hba ▸ hab) (Nat.lt_irrefl _)
      · exact absurd (hab ▸ hba) (Nat.lt_irrefl _)
      · exact Prod.ext hab (le_antisymm hab' hba')
    cases a <;> cases b <;> first | rfl | (simp [Capability.key] at hkey; try rw [hkey])

instance : Std.Total Capability.le where
  total a b := by
    rcases Nat.lt_trichotomy a.key.1 b.key.1 with h | h | h
    · exact Or.inl (Or.inl h)
    · rcases le_total a.key.2 b.key.2 with h' | h'
      · exact Or.inl (Or.inr ⟨h, h'⟩)
      · exact Or.inr (Or.inr ⟨h.symm, h'⟩)
    · exact Or.inr (Or.inl h)

def TaskScope.labels (scope : TaskScope) : List String := inOrder scope

def CapabilitySnapshot.sorted (snapshot : CapabilitySnapshot) : List Capability := snapshot.sort Capability.le

/-! ## Encoding -/

abbrev Encoded := Except DurableTeamError (List Byte)

namespace Encoder

def identifier (value : Nat) : List Byte := leBytes 8 value

def count (value : Nat) : Encoded := do
  require (value < 2 ^ 32) .integerOverflow
  return leBytes 4 value

def string (value : String) : Encoded := do
  let length ← count (byteLen value)
  return length ++ utf8 value

def each {α : Type} (encode : α → Encoded) : List α → Encoded
  | [] => return []
  | value :: values => do
    let bytes ← encode value
    let more ← each encode values
    return bytes ++ more

def stringList (values : List String) : Encoded := do
  let length ← count values.length
  let bytes ← each string values
  return length ++ bytes

end Encoder

def encodeTaskSpec (spec : TaskSpec) : Encoded := do
  let title ← Encoder.string spec.title
  let labelCount ← Encoder.count spec.scope.labels.length
  let labels ← Encoder.each Encoder.string spec.scope.labels
  let dependencyCount ← Encoder.count spec.dependencies.length
  return title ++ (labelCount ++ (labels ++ (dependencyCount ++ spec.dependencies.flatMap Encoder.identifier)))

def encodeBudget (budget : ResourceBudget) : List Byte := leBytes 8 budget.tokenUnits ++ leBytes 4 budget.toolCalls

def encodeCapability : Capability → Encoded
  | .workspaceRead => return leBytes 1 1
  | .workspaceWrite => return leBytes 1 2
  | .process => return leBytes 1 3
  | .network => return leBytes 1 4
  | .tool name => do
    let name ← Encoder.string name
    return leBytes 1 5 ++ name

def encodeCapabilities (snapshot : CapabilitySnapshot) : Encoded := do
  let length ← Encoder.count snapshot.sorted.length
  let capabilities ← Encoder.each encodeCapability snapshot.sorted
  return length ++ capabilities

def encodeOptionalAgent : Option AgentId → List Byte
  | none => leBytes 1 0
  | some agent => leBytes 1 1 ++ Encoder.identifier agent

def encodeOptionalModelPreset : Option InheritedModelPreset → Encoded
  | none => return leBytes 1 0
  | some preset => do
    let id ← Encoder.string preset.id
    return leBytes 1 1 ++ id

def encodeRecipient : MessageRecipient → List Byte
  | .agent agent => leBytes 1 1 ++ Encoder.identifier agent
  | .team => leBytes 1 2

def encodeCapsule (capsule : CompletionCapsule) : Encoded := do
  let outcome ← Encoder.string capsule.outcome
  let lists ← Encoder.each Encoder.stringList capsule.lists
  return outcome ++ lists

/-- The payload's tail in an `AgentCreated`, which schemas before the third lack. -/
def encodePresetFor (schema : UInt16) (preset : Option InheritedModelPreset) : Encoded :=
  if teamEventSchemaV3 ≤ schema then encodeOptionalModelPreset preset else return []

def encodePayload (schema : UInt16) : TeamEventKind → Encoded
  | .taskCreated task spec => do
    let spec ← encodeTaskSpec spec
    return Encoder.identifier task ++ spec
  | .agentCreated agent task parent budget capabilities preset => do
    let capabilities ← encodeCapabilities capabilities
    let preset ← encodePresetFor schema preset
    return Encoder.identifier agent ++ (Encoder.identifier task ++ (encodeOptionalAgent parent ++ (encodeBudget budget ++
      (capabilities ++ preset))))
  | .messageSent message sender recipient body => do
    let body ← Encoder.string body
    return Encoder.identifier message ++ (Encoder.identifier sender ++ (encodeRecipient recipient ++ body))
  | .completionCapsuleSubmitted task agent capsule => do
    let capsule ← encodeCapsule capsule
    return Encoder.identifier task ++ (Encoder.identifier agent ++ capsule)
  | .taskFailed task reason | .taskCancelled task reason => do
    let reason ← Encoder.string reason
    return Encoder.identifier task ++ reason
  | .taskReady id | .agentActivated id | .taskStarted id | .taskSucceeded id | .agentSucceeded id | .agentFailed id
  | .agentCancelled id | .taskRetryRequested id => return Encoder.identifier id
  | .taskOwnerAssigned id id' | .delegationGranted id id' | .taskBlocked id id' | .agentBlocked id id'
  | .operationCommitted id id' | .agentRetryRequested id id' => return Encoder.identifier id ++ Encoder.identifier id'
  | .operationAcknowledged operation committed acknowledgement =>
    return Encoder.identifier operation ++ (Encoder.identifier committed ++ Encoder.identifier acknowledgement)

def TeamEventKind.tag : TeamEventKind → UInt16
  | .taskCreated .. => 1
  | .agentCreated .. => 2
  | .taskOwnerAssigned .. => 3
  | .delegationGranted .. => 4
  | .taskReady .. => 5
  | .agentActivated .. => 6
  | .taskStarted .. => 7
  | .messageSent .. => 8
  | .completionCapsuleSubmitted .. => 9
  | .taskSucceeded .. => 10
  | .agentSucceeded .. => 11
  | .taskFailed .. => 12
  | .agentFailed .. => 13
  | .taskCancelled .. => 14
  | .agentCancelled .. => 15
  | .taskBlocked .. => 16
  | .agentBlocked .. => 17
  | .operationCommitted .. => 18
  | .operationAcknowledged .. => 19
  | .taskRetryRequested .. => 20
  | .agentRetryRequested .. => 21

def encodeEventDataForSchema (kind : TeamEventKind) (schema : UInt16) : Except DurableTeamError EventData := do
  let payload ← encodePayload schema kind
  return ⟨schema, kind.tag, payload⟩

def encodeEventData (kind : TeamEventKind) : Except DurableTeamError EventData :=
  encodeEventDataForSchema kind teamEventSchema

/-! ## Decoding -/

abbrev Decode (α : Type) := Decoder DurableTeamError α

def decodeIdentifier (value : Nat) : Except DurableTeamError Nat := do
  require (value ≠ 0 ∧ value ≠ maxIdentifier) (.corruptEvent "invalid Team Event identifier")
  return value

namespace Decode

def bytes (length : Nat) : Decode (List Byte) := fun cursor => do
  let _ ← okOr (checkedAdd 64 cursor.position length) .integerOverflow
  okOr (cursor.read length) (.corruptEvent "truncated Team Event")

/-- `u8`, `u32` and `u64`: a little-endian integer of `n` bytes. -/
def uint (n : Nat) : Decode Nat := do
  let bytes ← bytes n
  return leNat bytes

def identifier : Decode Nat := do
  let value ← uint 8
  Decoder.lift (decodeIdentifier value)

def count (max : Nat) : Decode Nat := do
  let value ← uint 4
  Decoder.check (value ≤ max) (.corruptEvent "Team Event collection exceeds its bound")
  return value

def ofUtf8 (bytes : List Byte) : Decode String :=
  match fromUtf8 bytes with
  | some value => return value
  | none => Decoder.fail (.corruptEvent "Team Event string is not UTF-8")

def string (maxBytes : Nat) : Decode String := do
  let length ← count maxBytes
  let bytes ← bytes length
  ofUtf8 bytes

/-- The list, and the entries read with it. -/
def stringList (totalEntries : Nat) : Decode (List String × Nat) := do
  let count ← count maxCapsuleEntries
  Decoder.check (totalEntries + count < 2 ^ 64) .integerOverflow
  Decoder.check (totalEntries + count ≤ maxCapsuleEntries) (.corruptEvent "Completion Capsule has too many entries")
  let values ← Decoder.many (string maxCapsuleBytes) count
  return (values, totalEntries + count)

end Decode

def decodeTaskSpec : Decode TaskSpec := do
  let title ← Decode.string maxTaskTitleBytes
  let labelCount ← Decode.count maxScopeLabels
  let labels ← Decoder.manyInto (Decode.string maxScopeLabelBytes) (.corruptEvent "duplicate Team scope label") labelCount ∅
  let dependencyCount ← Decode.count maxTaskDependencies
  let dependencies ← Decoder.many Decode.identifier dependencyCount
  return ⟨title, labels, dependencies⟩

/-- Both numbers were read from as many bytes as they may take. -/
def decodeBudget : Decode ResourceBudget := do
  let tokenUnits ← Decode.uint 8
  let toolCalls ← Decode.uint 4
  return resourceBudget tokenUnits toolCalls

def decodeCapability : Decode Capability := do
  let tag ← Decode.uint 1
  match tag with
  | 1 => return .workspaceRead
  | 2 => return .workspaceWrite
  | 3 => return .process
  | 4 => return .network
  | 5 => do
    let name ← Decode.string maxToolNameBytes
    return .tool name
  | _ => Decoder.fail (.corruptEvent "invalid Team capability tag")

def decodeCapabilities : Decode CapabilitySnapshot := do
  let count ← Decode.count maxCapabilities
  Decoder.manyInto decodeCapability (.corruptEvent "duplicate Team capability") count ∅

def decodeOptionalAgent : Decode (Option AgentId) := do
  let tag ← Decode.uint 1
  match tag with
  | 0 => return none
  | 1 => do
    let agent ← Decode.identifier
    return some agent
  | _ => Decoder.fail (.corruptEvent "invalid optional Agent tag")

def newModelPreset (id : String) : Except DurableTeamError InheritedModelPreset :=
  (validateModelPresetId id).mapError .team >>= fun _ => return ⟨id⟩

def decodeOptionalModelPreset : Decode (Option InheritedModelPreset) := do
  let tag ← Decode.uint 1
  match tag with
  | 0 => return none
  | 1 => do
    let id ← Decode.string maxModelPresetIdBytes
    let preset ← Decoder.lift (newModelPreset id)
    return some preset
  | _ => Decoder.fail (.corruptEvent "invalid inherited Model Preset tag")

def decodeRecipient : Decode MessageRecipient := do
  let tag ← Decode.uint 1
  match tag with
  | 1 => do
    let agent ← Decode.identifier
    return .agent agent
  | 2 => return .team
  | _ => Decoder.fail (.corruptEvent "invalid message recipient tag")

def decodeCapsule : Decode CompletionCapsule := do
  let outcome ← Decode.string maxCapsuleBytes
  let (evidence, totalEntries) ← Decode.stringList 0
  let (changes, totalEntries) ← Decode.stringList totalEntries
  let (tests, totalEntries) ← Decode.stringList totalEntries
  let (decisions, totalEntries) ← Decode.stringList totalEntries
  let (blockers, totalEntries) ← Decode.stringList totalEntries
  let (artifacts, totalEntries) ← Decode.stringList totalEntries
  let (residualRisks, _) ← Decode.stringList totalEntries
  return ⟨outcome, evidence, changes, tests, decisions, blockers, artifacts, residualRisks⟩

def decodePresetFor (schema : UInt16) : Decode (Option InheritedModelPreset) :=
  if teamEventSchemaV3 ≤ schema then decodeOptionalModelPreset else return none

/-- An event of one identifier. -/
def decodeOne (make : Nat → TeamEventKind) : Decode TeamEventKind := do
  let id ← Decode.identifier
  return make id

/-- An event of two identifiers. -/
def decodeTwo (make : Nat → Nat → TeamEventKind) : Decode TeamEventKind := do
  let id ← Decode.identifier
  let id' ← Decode.identifier
  return make id id'

/-- An event of a Task and a reason. -/
def decodeReason (make : TaskId → String → TeamEventKind) : Decode TeamEventKind := do
  let task ← Decode.identifier
  let reason ← Decode.string maxReasonBytes
  return make task reason

def decodeKind (schema : UInt16) (tag : UInt16) : Decode TeamEventKind :=
  match tag.toNat with
  | 1 => do
    let task ← Decode.identifier
    let spec ← decodeTaskSpec
    return .taskCreated task spec
  | 2 => do
    let agent ← Decode.identifier
    let task ← Decode.identifier
    let parent ← decodeOptionalAgent
    let budget ← decodeBudget
    let capabilities ← decodeCapabilities
    let preset ← decodePresetFor schema
    return .agentCreated agent task parent budget capabilities preset
  | 3 => decodeTwo .taskOwnerAssigned
  | 4 => decodeTwo .delegationGranted
  | 5 => decodeOne .taskReady
  | 6 => decodeOne .agentActivated
  | 7 => decodeOne .taskStarted
  | 8 => do
    let message ← Decode.identifier
    let sender ← Decode.identifier
    let recipient ← decodeRecipient
    let body ← Decode.string maxMessageBytes
    return .messageSent message sender recipient body
  | 9 => do
    let task ← Decode.identifier
    let agent ← Decode.identifier
    let capsule ← decodeCapsule
    return .completionCapsuleSubmitted task agent capsule
  | 10 => decodeOne .taskSucceeded
  | 11 => decodeOne .agentSucceeded
  | 12 => decodeReason .taskFailed
  | 13 => decodeOne .agentFailed
  | 14 => decodeReason .taskCancelled
  | 15 => decodeOne .agentCancelled
  | 16 => decodeTwo .taskBlocked
  | 17 => decodeTwo .agentBlocked
  | 18 => decodeTwo .operationCommitted
  | 19 => do
    let operation ← Decode.identifier
    let committed ← Decode.identifier
    let acknowledgement ← Decode.identifier
    return .operationAcknowledged operation committed acknowledgement
  | 20 => decodeOne .taskRetryRequested
  | 21 => decodeTwo .agentRetryRequested
  | _ => Decoder.fail (.corruptEvent "unknown Team Event kind")

def decodeEventData (data : EventData) : Except DurableTeamError TeamEventKind := do
  require (data.schema = teamEventSchemaV1 ∨ data.schema = teamEventSchemaV2 ∨ data.schema = teamEventSchemaV3 ∨
    data.schema = teamEventSchema) (.unsupportedTeamEventSchema teamEventSchema data.schema)
  require (¬ (data.schema = teamEventSchemaV1 ∧ data.kind > 17))
    (.corruptEvent "Team Event kind is unavailable in schema one")
  require (¬ (data.schema < teamEventSchema ∧ data.kind > 19))
    (.corruptEvent "Team Event kind is unavailable in prior schema")
  let (kind, cursor) ← decodeKind data.schema data.kind (Cursor.new data.payload)
  require (cursor.isEmpty = true) (.corruptEvent "Team Event has trailing bytes")
  return kind

end GreenTyper.Team
