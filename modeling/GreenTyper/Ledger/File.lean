/-
  GreenTyper.Ledger.File — the Event Ledger as a file (`FileLedger` of `ledger.rs`):
  opening with and without repair, inspecting, and appending.

  The file is its bytes. Path checks, locks and permissions are the operating system's
  and not here; a missing file that may be created is the empty file. A write reaches
  the disk whole (`synced`), or fails after some of the frame's bytes did, which leaves
  the writer poisoned.
-/

import GreenTyper.Ledger.Format

namespace GreenTyper.Ledger

open GreenTyper.Lib

structure ReplayReport where
  head : LedgerHead
  events : List StoredEvent
  truncatedTailBytes : Nat
  deriving DecidableEq

structure FileLedger where
  file : List Byte
  head : LedgerHead
  events : List StoredEvent
  payloadBytes : Nat
  poisoned : Bool

/-- How the write of one frame ends: synced, or an error after `written` of its bytes. -/
inductive WriteOutcome where
  | synced
  | failed (written : Nat)
  deriving DecidableEq, Repr

namespace FileLedger

/-- `open_with_policy` on a file with these bytes: the opened Ledger holds the file as
    opening leaves it. -/
def openWithPolicy (file : List Byte) (create repairTail : Bool) : Except LedgerError (FileLedger × ReplayReport) := do
  let file ←
    if file.length = 0 ∧ create = true then pure ledgerHeader
    else do
      validateHeader file
      pure file
  let scan ← scanTransactions file
  require (scan.validBytes ≤ file.length) .integerOverflow
  let truncatedTailBytes := file.length - scan.validBytes
  require (truncatedTailBytes = 0 ∨ repairTail = true) (.incompleteTail truncatedTailBytes)
  return (⟨file.take scan.validBytes, scan.head, scan.events, scan.payloadBytes, false⟩,
    ⟨scan.head, scan.events, truncatedTailBytes⟩)

def openFile (file : List Byte) : Except LedgerError (FileLedger × ReplayReport) := openWithPolicy file true true

def openExistingStrict (file : List Byte) : Except LedgerError (FileLedger × ReplayReport) :=
  openWithPolicy file false false

def inspect (file : List Byte) : Except LedgerError ReplayReport := do
  validateHeader file
  let scan ← scanTransactions file
  require (scan.validBytes ≤ file.length) .integerOverflow
  return ⟨scan.head, scan.events, file.length - scan.validBytes⟩

/-- A new file's Ledger. -/
def fresh : FileLedger := ⟨ledgerHeader, .default, [], 0, false⟩

/-- What `append_with_io` does before it writes: the frame, its stored events, the
    receipt and the new payload total. -/
def prepareAppend (ledger : FileLedger) (expected : LedgerHead) (events : List EventData) :
    Except LedgerError (List Byte × List StoredEvent × DurabilityReceipt × Nat) := do
  require (ledger.poisoned = false) .writerPoisoned
  require (expected = ledger.head) (.headConflict expected ledger.head)
  validateEvents events
  let replayedEvents ← okOr (checkedAdd 64 ledger.events.length events.length) .integerOverflow
  require (replayedEvents ≤ maxReplayEvents) .replayLimitExceeded
  let transactionPayloadBytes ← events.foldlM
    (fun total event => okOr (checkedAdd 64 total event.payload.length) .integerOverflow) 0
  let payloadBytes ← checkedReplayPayloadBytes ledger.payloadBytes transactionPayloadBytes
  let transaction ← okOr (checkedAdd 64 ledger.head.transaction 1) .integerOverflow
  let firstSequence ← okOr (checkedAdd 64 ledger.head.sequence 1) .integerOverflow
  let (frame, stored, receipt) ← encodeTransaction transaction firstSequence events
  return (frame, stored, receipt, payloadBytes)

def append (ledger : FileLedger) (expected : LedgerHead) (events : List EventData) (write : WriteOutcome) :
    Except LedgerError DurabilityReceipt × FileLedger :=
  match prepareAppend ledger expected events with
  | .error e => (.error e, ledger)
  | .ok (frame, stored, receipt, payloadBytes) =>
    match write with
    | .failed written =>
      (.error .durabilityAmbiguous, { ledger with file := ledger.file ++ frame.take written, poisoned := true })
    | .synced =>
      (.ok receipt,
        { ledger with
          file := ledger.file ++ frame
          head := ⟨receipt.transaction, receipt.lastSequence⟩
          events := ledger.events ++ stored
          payloadBytes := payloadBytes })

/-- Successful appends, each at the Ledger's own head. -/
def appendAll (ledger : FileLedger) : List (List EventData) → Except LedgerError FileLedger
  | [] => .ok ledger
  | events :: batches =>
    match ledger.append ledger.head events .synced with
    | (.ok _, ledger) => ledger.appendAll batches
    | (.error e, _) => .error e

end FileLedger

end GreenTyper.Ledger
