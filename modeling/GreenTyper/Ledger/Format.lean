/-
  GreenTyper.Ledger.Format — the Event Ledger's bytes (`ledger.rs`): the file header, a
  transaction's frame, and the scan that reads them back.

  A file is a 16-byte header and then frames. A frame is a magic, the body's length, its
  bitwise complement, the body, the body's CRC-32C and a commit marker. The body holds
  the transaction id, the first event sequence, the event count, and for each event its
  own sequence, index, count, schema, kind, payload length and payload.

  `scanTransactions` reads frames from the header on. What is left when a frame is not
  all there is the tail; anything else that is not a frame is an error. Numbers are
  `Nat`, with the source's checked additions; a file's length is a `u64`, so a scan's
  offset, which never passes it, cannot overflow.
-/

import GreenTyper.Lib.Bytes
import GreenTyper.Lib.Crc
import GreenTyper.Lib.Result

namespace GreenTyper.Ledger

open GreenTyper.Lib

def headerMagic : List Byte := [0x47, 0x54, 0x4c, 0x45, 0x44, 0x47, 0x45, 0x52]
def headerBytes : Nat := 16
def formatVersion : Nat := 1
def transactionMagic : List Byte := [0x47, 0x54, 0x58, 0x4e]
def commitMagic : List Byte := [0x43, 0x4d, 0x49, 0x54]

def maxEventPayloadBytes : Nat := 1024 * 1024
def maxEventsPerTransaction : Nat := 4096
def maxFrameBodyBytes : Nat := 4 * 1024 * 1024
def maxReplayEvents : Nat := 1000000
def maxReplayPayloadBytes : Nat := 64 * 1024 * 1024

structure LedgerHead where
  transaction : Nat
  sequence : Nat
  deriving DecidableEq, Repr

def LedgerHead.default : LedgerHead := ⟨0, 0⟩

structure EventData where
  schema : UInt16
  kind : UInt16
  payload : List Byte
  deriving DecidableEq

structure StoredEvent where
  sequence : Nat
  transaction : Nat
  indexInTransaction : Nat
  eventsInTransaction : Nat
  data : EventData
  deriving DecidableEq

structure DurabilityReceipt where
  transaction : Nat
  firstSequence : Nat
  lastSequence : Nat
  eventCount : Nat
  transactionCrc32c : BitVec 32
  deriving DecidableEq

inductive LedgerError where
  | io
  | durabilityAmbiguous
  | headConflict (expected actual : LedgerHead)
  | unsupportedFormat (supported actual : Nat)
  | corrupt (offset : Nat) (reason : String)
  | emptyTransaction
  | tooManyEvents
  | payloadTooLarge
  | frameTooLarge
  | zeroEventSchema
  | zeroEventKind
  | replayLimitExceeded
  | replayPayloadLimitExceeded
  | incompleteTail (bytes : Nat)
  | integerOverflow
  | writerPoisoned
  | locked
  | symlinkPath
  | notRegularFile
  deriving DecidableEq, Repr

/-- The reflected Castagnoli polynomial. -/
def crcPolynomial : BitVec 32 := 0x82f63b78#32

def crc32c (bytes : List Byte) : BitVec 32 := ~~~ Crc.fold crcPolynomial (~~~ 0#32) bytes

example : crc32c [0x31, 0x32, 0x33, 0x34, 0x35, 0x36, 0x37, 0x38, 0x39] = 0xe3069283#32 := by decide +kernel

/-- `!x` of a `u32`. -/
def notU32 (x : Nat) : Nat := 2 ^ 32 - 1 - x

/-! ## The header -/

def headerPrefix : List Byte := headerMagic ++ leBytes 2 formatVersion ++ leBytes 2 0

/-- What `write_header` writes. -/
def ledgerHeader : List Byte := headerPrefix ++ leBytes 4 (crc32c headerPrefix).toNat

def validateHeader (file : List Byte) : Except LedgerError Unit := do
  require (headerBytes ≤ file.length) (.corrupt 0 "truncated ledger header")
  let header := file.take headerBytes
  require (header.take 8 = headerMagic) (.corrupt 0 "invalid ledger magic")
  let version := leNat ((header.drop 8).take 2)
  require (version = formatVersion) (.unsupportedFormat formatVersion version)
  require ((header.drop 10).take 2 = [0, 0]) (.corrupt 10 "reserved ledger header bits are set")
  let expected := leNat (header.drop 12)
  require ((crc32c (header.take 12)).toNat = expected) (.corrupt 12 "ledger header checksum mismatch")

/-! ## Encoding a transaction -/

def checkedReplayPayloadBytes (current additional : Nat) : Except LedgerError Nat := do
  let total ← okOr (checkedAdd 64 current additional) .integerOverflow
  require (total ≤ maxReplayPayloadBytes) .replayPayloadLimitExceeded
  return total

def validateEvent (event : EventData) : Except LedgerError Unit := do
  require (event.schema ≠ 0) .zeroEventSchema
  require (event.kind ≠ 0) .zeroEventKind
  require (event.payload.length ≤ maxEventPayloadBytes) .payloadTooLarge

def validateEvents (events : List EventData) : Except LedgerError Unit := do
  require (events ≠ []) .emptyTransaction
  require (events.length ≤ maxEventsPerTransaction) .tooManyEvents
  events.forM validateEvent

def encodeEvent (transaction firstSequence count index : Nat) (event : EventData) :
    Except LedgerError (List Byte × StoredEvent) := do
  require (index < 2 ^ 32) .integerOverflow
  let sequence ← okOr (checkedAdd 64 firstSequence index) .integerOverflow
  require (event.payload.length < 2 ^ 32) .payloadTooLarge
  return (leBytes 8 sequence ++ (leBytes 4 index ++ (leBytes 4 count ++ (leBytes 2 event.schema.toNat ++
    (leBytes 2 event.kind.toNat ++ (leBytes 4 event.payload.length ++ event.payload))))),
    ⟨sequence, transaction, index, count, event⟩)

/-- The loop of `encode_transaction`, from the event at `index`. -/
def encodeEvents (transaction firstSequence count : Nat) :
    Nat → List EventData → Except LedgerError (List Byte × List StoredEvent)
  | _, [] => return ([], [])
  | index, event :: events => do
    let (bytes, stored) ← encodeEvent transaction firstSequence count index event
    let (more, moreStored) ← encodeEvents transaction firstSequence count (index + 1) events
    return (bytes ++ more, stored :: moreStored)

def frameOf (body : List Byte) : List Byte :=
  transactionMagic ++ (leBytes 4 body.length ++ (leBytes 4 (notU32 body.length) ++
    (body ++ (leBytes 4 (crc32c body).toNat ++ commitMagic))))

/-- Called with at least one event (`validateEvents` came first), so `count - 1` does not
    wrap. -/
def encodeTransaction (transaction firstSequence : Nat) (events : List EventData) :
    Except LedgerError (List Byte × List StoredEvent × DurabilityReceipt) := do
  require (events.length < 2 ^ 32) .tooManyEvents
  let count := events.length
  let (encoded, stored) ← encodeEvents transaction firstSequence count 0 events
  let body := leBytes 8 transaction ++ (leBytes 8 firstSequence ++ (leBytes 4 count ++ encoded))
  require (body.length ≤ maxFrameBodyBytes) .frameTooLarge
  require (body.length < 2 ^ 32) .frameTooLarge
  let lastSequence ← okOr (checkedAdd 64 firstSequence (count - 1)) .integerOverflow
  return (frameOf body, stored, ⟨transaction, firstSequence, lastSequence, count, crc32c body⟩)

/-! ## Decoding a transaction -/

abbrev BodyCursor := Cursor

namespace BodyCursor

def bytes (cursor : BodyCursor) (length : Nat) (field : String) : Except LedgerError (List Byte × BodyCursor) := do
  let _ ← okOr (checkedAdd 64 cursor.position length) .integerOverflow
  okOr (cursor.read length) (.corrupt cursor.position field)

/-- `u16`, `u32` and `u64`: a little-endian integer of `n` bytes. -/
def uint (cursor : BodyCursor) (n : Nat) (field : String) : Except LedgerError (Nat × BodyCursor) := do
  let (bytes, cursor) ← cursor.bytes n field
  return (leNat bytes, cursor)

end BodyCursor

structure DecodedTransaction where
  head : LedgerHead
  events : List StoredEvent
  payloadBytes : Nat

/-- One turn of the loop of `decode_transaction`. -/
def decodeEvent (transaction firstSequence count expectedIndex : Nat) (cursor : BodyCursor) (payloadBytes : Nat) :
    Except LedgerError (StoredEvent × BodyCursor × Nat) := do
  let (sequence, cursor) ← BodyCursor.uint cursor 8 "event sequence"
  let (index, cursor) ← BodyCursor.uint cursor 4 "event index"
  let (total, cursor) ← BodyCursor.uint cursor 4 "event total"
  let (schema, cursor) ← BodyCursor.uint cursor 2 "event schema"
  let (kind, cursor) ← BodyCursor.uint cursor 2 "event kind"
  let (payloadLength, cursor) ← BodyCursor.uint cursor 4 "event payload length"
  let expectedSequence ← okOr (checkedAdd 64 firstSequence expectedIndex) .integerOverflow
  require (sequence = expectedSequence ∧ index = expectedIndex ∧ total = count)
    (.corrupt cursor.position "event transaction metadata is inconsistent")
  require (schema ≠ 0 ∧ kind ≠ 0) (.corrupt cursor.position "event schema and kind must be nonzero")
  require (payloadLength ≤ maxEventPayloadBytes) (.corrupt cursor.position "event payload is too large")
  let payloadBytes ← checkedReplayPayloadBytes payloadBytes payloadLength
  let (payload, cursor) ← BodyCursor.bytes cursor payloadLength "event payload"
  return (⟨sequence, transaction, index, total, ⟨UInt16.ofNat schema, UInt16.ofNat kind, payload⟩⟩, cursor, payloadBytes)

/-- The loop of `decode_transaction`: `remaining` events from `expectedIndex` on. -/
def decodeEvents (transaction firstSequence count : Nat) :
    Nat → Nat → BodyCursor → Nat → Except LedgerError (List StoredEvent × BodyCursor × Nat)
  | 0, _, cursor, payloadBytes => return ([], cursor, payloadBytes)
  | remaining + 1, expectedIndex, cursor, payloadBytes => do
    let (event, cursor, payloadBytes) ← decodeEvent transaction firstSequence count expectedIndex cursor payloadBytes
    let (events, cursor, payloadBytes) ←
      decodeEvents transaction firstSequence count remaining (expectedIndex + 1) cursor payloadBytes
    return (event :: events, cursor, payloadBytes)

def decodeTransaction (body : List Byte) (previous : LedgerHead) (replayedEvents replayedPayloadBytes : Nat) :
    Except LedgerError DecodedTransaction := do
  let (transaction, cursor) ← BodyCursor.uint (Cursor.new body) 8 "transaction id"
  let (firstSequence, cursor) ← BodyCursor.uint cursor 8 "first sequence"
  let (count, cursor) ← BodyCursor.uint cursor 4 "event count"
  require (count ≠ 0 ∧ count ≤ maxEventsPerTransaction) (.corrupt 0 "transaction event count is out of bounds")
  let nextTransaction ← okOr (checkedAdd 64 previous.transaction 1) .integerOverflow
  require (transaction = nextTransaction) (.corrupt 0 "transaction id is not contiguous")
  let nextSequence ← okOr (checkedAdd 64 previous.sequence 1) .integerOverflow
  require (firstSequence = nextSequence) (.corrupt 8 "event sequence is not contiguous")
  let totalEvents ← okOr (checkedAdd 64 replayedEvents count) .integerOverflow
  require (totalEvents ≤ maxReplayEvents) .replayLimitExceeded
  let (events, cursor, payloadBytes) ← decodeEvents transaction firstSequence count count 0 cursor replayedPayloadBytes
  require (cursor.isEmpty = true) (.corrupt cursor.position "transaction has trailing bytes")
  let lastSequence ← okOr (checkedAdd 64 firstSequence (count - 1)) .integerOverflow
  return ⟨⟨transaction, lastSequence⟩, events, payloadBytes⟩

/-! ## Scanning a file -/

structure ScanResult where
  head : LedgerHead
  events : List StoredEvent
  validBytes : Nat
  payloadBytes : Nat

/-- What one turn of the scan finds at `offset`: a frame that is not all there, or a
    whole one with a body of `bodyLength` bytes. -/
inductive ScanStep where
  | torn
  | frame (bodyLength : Nat) (decoded : DecodedTransaction)

/-- One turn of `scan_transactions` over the bytes `rest` from the offset on. -/
def scanFrame (rest : List Byte) (scan : ScanResult) : Except LedgerError ScanStep :=
  let offset := scan.validBytes
  let remaining := rest.length
  if remaining < 4 then .ok .torn
  else do
    require (rest.take 4 = transactionMagic) (.corrupt offset "invalid transaction magic")
    if remaining < 12 then .ok .torn
    else do
      let bodyLength := leNat ((rest.drop 4).take 4)
      let complement := leNat ((rest.drop 8).take 4)
      require (complement = notU32 bodyLength) (.corrupt (offset + 8) "transaction frame length check mismatch")
      require (bodyLength ≠ 0 ∧ bodyLength ≤ maxFrameBodyBytes)
        (.corrupt (offset + 4) "transaction frame length is out of bounds")
      let frameBytes := 4 + 4 + 4 + bodyLength + 4 + 4
      if remaining < frameBytes then .ok .torn
      else do
        let body := (rest.drop 12).take bodyLength
        let expectedChecksum := leNat ((rest.drop (12 + bodyLength)).take 4)
        require ((crc32c body).toNat = expectedChecksum)
          (.corrupt (offset + 12 + bodyLength) "transaction checksum mismatch")
        let commit := (rest.drop (12 + bodyLength + 4)).take 4
        require (commit = commitMagic) (.corrupt (offset + frameBytes - 4) "transaction commit marker is invalid")
        let decoded ← decodeTransaction body scan.head scan.events.length scan.payloadBytes
        return .frame bodyLength decoded

def ScanResult.push (scan : ScanResult) (bodyLength : Nat) (decoded : DecodedTransaction) : ScanResult :=
  ⟨decoded.head, scan.events ++ decoded.events, scan.validBytes + (bodyLength + 20), decoded.payloadBytes⟩

/-- The loop of `scan_transactions` from what it has read so far. -/
def scanFrom (file : List Byte) (scan : ScanResult) : Except LedgerError ScanResult :=
  if scan.validBytes < file.length then
    match scanFrame (file.drop scan.validBytes) scan with
    | .error e => .error e
    | .ok .torn => .ok scan
    | .ok (.frame bodyLength decoded) => scanFrom file (scan.push bodyLength decoded)
  else .ok scan
termination_by file.length - scan.validBytes
decreasing_by simp only [ScanResult.push]; omega

def ScanResult.start : ScanResult := ⟨.default, [], headerBytes, 0⟩

def scanTransactions (file : List Byte) : Except LedgerError ScanResult := scanFrom file .start

end GreenTyper.Ledger
