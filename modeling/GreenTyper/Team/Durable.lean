/-
  GreenTyper.Team.Durable — the Team over its Event Ledger (`DurableTeamRuntime` of
  `persistence.rs`), and the host that drives it (`KernelTeam` of `runtime.rs`).

  A command is planned and prepared, its events are appended, and only then is the
  prepared state published. Opening replays the Ledger's events. How a write ends is an
  argument of each operation that writes, and the file is what a crash leaves behind.
-/

import GreenTyper.Ledger.File
import GreenTyper.Team.Codec

namespace GreenTyper.Team

open GreenTyper.Lib
open GreenTyper.Ledger (EventData StoredEvent LedgerHead FileLedger ReplayReport WriteOutcome DurabilityReceipt)

structure TeamDurabilityReceipt where
  transaction : TransactionId
  firstSequence : EventSeq
  lastSequence : EventSeq
  eventCount : Nat
  transactionCrc32c : BitVec 32
  deriving DecidableEq

structure TeamCommit where
  transaction : TransactionId
  revision : EventSeq
  durability : TeamDurabilityReceipt
  events : List TeamEvent
  outcome : CommandOutcome
  deriving DecidableEq

structure TeamOperationCommit where
  operation : TeamOperationId
  commit : TeamCommit
  deriving DecidableEq

inductive TeamOperationAcknowledgeOutcome where
  | durable (receipt : TeamDurabilityReceipt)
  | alreadyAcknowledged
  deriving DecidableEq

structure DurableTeamRuntime where
  runtime : TeamRuntime
  ledger : FileLedger
  recoveredTailBytes : Nat

def validateActiveLimit (maxActiveAgents : Nat) : Except DurableTeamError Unit :=
  require (maxActiveAgents ≠ 0) (.team .invalidActiveAgentLimit)

def teamReceipt (receipt : DurabilityReceipt) : TeamDurabilityReceipt :=
  ⟨receipt.transaction, receipt.firstSequence, receipt.lastSequence, receipt.eventCount, receipt.transactionCrc32c⟩

def runtimeHead (r : TeamRuntime) : LedgerHead :=
  match r.eventLog.getLast? with
  | some event => ⟨event.transaction, event.sequence⟩
  | none => .default

def decodeStoredEvent (stored : StoredEvent) : Except DurableTeamError TeamEvent := do
  let sequence ← decodeIdentifier stored.sequence
  let transaction ← decodeIdentifier stored.transaction
  let kind ← decodeEventData stored.data
  return ⟨sequence, transaction, stored.indexInTransaction, stored.eventsInTransaction, kind⟩

def recoverTeam (report : ReplayReport) (maxActiveAgents authority : Nat) : Except DurableTeamError TeamRuntime := do
  let events ← report.events.mapM decodeStoredEvent
  let runtime ← (TeamRuntime.recover maxActiveAgents authority events).mapError .recovery
  require (runtimeHead runtime = report.head) (.headMismatch report.head (runtimeHead runtime))
  return runtime

namespace DurableTeamRuntime

/-! ## Opening -/

def fromOpenedLedger (opened : FileLedger × ReplayReport) (maxActiveAgents authority : Nat) :
    Except DurableTeamError DurableTeamRuntime := do
  let runtime ← recoverTeam opened.2 maxActiveAgents authority
  return ⟨runtime, opened.1, opened.2.truncatedTailBytes⟩

/-- `open`, on a file with these bytes. -/
def openFile (file : List Byte) (maxActiveAgents authority : Nat) : Except DurableTeamError DurableTeamRuntime := do
  validateActiveLimit maxActiveAgents
  let opened ← (FileLedger.openFile file).mapError .ledger
  fromOpenedLedger opened maxActiveAgents authority

def openExistingStrict (file : List Byte) (maxActiveAgents authority : Nat) :
    Except DurableTeamError DurableTeamRuntime := do
  validateActiveLimit maxActiveAgents
  let opened ← (FileLedger.openExistingStrict file).mapError .ledger
  fromOpenedLedger opened maxActiveAgents authority

def operationRecords (d : DurableTeamRuntime) : List TeamOperationRecord := d.runtime.operationRecords

def nextOperationId (d : DurableTeamRuntime) : Except DurableTeamError TeamOperationId :=
  d.runtime.nextOperationId.mapError .team

/-! ## Writing -/

def appendPrepared (d : DurableTeamRuntime) (prepared : PreparedTeamEvents) (write : WriteOutcome) :
    Except DurableTeamError TeamDurabilityReceipt × DurableTeamRuntime :=
  let teamHead := runtimeHead d.runtime
  if d.ledger.head = teamHead then
    match prepared.events.mapM (fun event => encodeEventData event.kind) with
    | .error e => (.error e, d)
    | .ok encoded =>
      match d.ledger.append teamHead encoded write with
      | (.error e, ledger) => (.error (.ledger e), { d with ledger := ledger })
      | (.ok receipt, ledger) => (.ok (teamReceipt receipt), { d with ledger := ledger })
  else (.error (.headMismatch d.ledger.head teamHead), d)

/-- The rest of a writing operation once its events are prepared: append, then publish. -/
def commitPrepared {α : Type} (d : DurableTeamRuntime) (prepared : PreparedTeamEvents) (write : WriteOutcome)
    (result : TeamDurabilityReceipt → α) : Except DurableTeamError α × DurableTeamRuntime :=
  match d.appendPrepared prepared write with
  | (.error e, d) => (.error e, d)
  | (.ok receipt, d) => (.ok (result receipt), { d with runtime := d.runtime.publishEvents prepared })

/-- `publish`'s result. -/
def teamCommit (prepared : PreparedTeamEvents) (outcome : CommandOutcome) (receipt : TeamDurabilityReceipt) : TeamCommit :=
  ⟨prepared.transaction, prepared.revision, receipt, prepared.events, outcome⟩

def dispatch (d : DurableTeamRuntime) (command : TeamCommand) (write : WriteOutcome) :
    Except DurableTeamError TeamCommit × DurableTeamRuntime :=
  match d.runtime.prepare command with
  | .error e => (.error (.team e), d)
  | .ok (prepared, outcome) => d.commitPrepared prepared write (teamCommit prepared outcome)

def dispatchOperation (d : DurableTeamRuntime) (operation : TeamOperationId) (command : TeamCommand) (write : WriteOutcome) :
    Except DurableTeamError TeamOperationCommit × DurableTeamRuntime :=
  match d.runtime.prepareOperation operation command with
  | .error e => (.error (.team e), d)
  | .ok (prepared, outcome) =>
    d.commitPrepared prepared write fun receipt => ⟨operation, teamCommit prepared outcome receipt⟩

def acknowledgeOperation (d : DurableTeamRuntime) (operation : TeamOperationId) (write : WriteOutcome) :
    Except DurableTeamError TeamOperationAcknowledgeOutcome × DurableTeamRuntime :=
  match d.operationRecords.find? (fun record => record.operation == operation) with
  | none => (.error (.team (.unknownOperation operation)), d)
  | some record =>
    if record.status = .acknowledged then (.ok .alreadyAcknowledged, d)
    else
      match d.runtime.prepareOperationAcknowledgement operation with
      | .error e => (.error (.team e), d)
      | .ok prepared => d.commitPrepared prepared write .durable

end DurableTeamRuntime

/-! ## The host -/

namespace KernelTeam

inductive KernelTeamError where
  | team (source : DurableTeamError)
  | teamOperationReconciliationRequired (operation : TeamOperationId)
  deriving DecidableEq

def requireReady (d : DurableTeamRuntime) : Except KernelTeamError Unit :=
  match d.operationRecords.find? (fun record => record.status == .committedAwaitingAcknowledgement) with
  | some record => .error (.teamOperationReconciliationRequired record.operation)
  | none => .ok ()

def dispatch (d : DurableTeamRuntime) (command : TeamCommand) (write : WriteOutcome) :
    Except KernelTeamError TeamOperationCommit × DurableTeamRuntime :=
  match requireReady d with
  | .error e => (.error e, d)
  | .ok () =>
    match d.nextOperationId with
    | .error e => (.error (.team e), d)
    | .ok operation => ((d.dispatchOperation operation command write).1.mapError .team,
        (d.dispatchOperation operation command write).2)

def acknowledge (d : DurableTeamRuntime) (operation : TeamOperationId) (write : WriteOutcome) :
    Except KernelTeamError TeamOperationAcknowledgeOutcome × DurableTeamRuntime :=
  ((d.acknowledgeOperation operation write).1.mapError .team, (d.acknowledgeOperation operation write).2)

end KernelTeam

end GreenTyper.Team
