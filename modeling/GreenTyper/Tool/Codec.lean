/-
  GreenTyper.Tool.Codec — Tool events as Ledger payloads (`tool_runtime.rs`): an event's
  kind and the JSON of its payload, and reading them back.

  Payloads are written as `serde_json::to_vec` writes them. How `serde_json::from_slice`
  reads is an argument (`PayloadReader`); all that is used of it is that it reads back
  what was written (`PayloadReader.ReadsBack`).
-/

import GreenTyper.Ledger.Format
import GreenTyper.Lib.Json
import GreenTyper.Tool.Model

namespace GreenTyper.Tool

open GreenTyper.Lib
open GreenTyper.Ledger (EventData StoredEvent)
open GreenTyper.Team (AgentId maxIdentifier)

/-! ## Payloads -/

structure ResourceBindingPayload where
  fingerprint : String
  filesystemReadCount : UInt16
  filesystemWriteCount : UInt16
  process : Bool
  networkTargetCount : UInt16

structure RequestedPayload where
  call : UInt64
  identity : String
  agent : UInt64
  tool : String
  argumentsHash : String
  resourceBinding : ResourceBindingPayload

structure GrantPayload where
  call : UInt64
  agent : UInt64
  argumentsHash : String
  resourceBinding : ResourceBindingPayload
  expiresAtUnixMs : UInt64

structure PreparedPayload where
  call : UInt64
  argumentsHash : String

structure ReasonPayload where
  call : UInt64
  reason : String

structure DigestPayload where
  call : UInt64
  resultDigest : String

def ResourceBindingPayload.toVec (p : ResourceBindingPayload) : List Byte :=
  Json.object [("fingerprint", Json.string p.fingerprint),
    ("filesystem_read_count", Json.number p.filesystemReadCount.toNat),
    ("filesystem_write_count", Json.number p.filesystemWriteCount.toNat),
    ("process", Json.bool p.process),
    ("network_target_count", Json.number p.networkTargetCount.toNat)]

def RequestedPayload.toVec (p : RequestedPayload) : List Byte :=
  Json.object [("call", Json.number p.call.toNat), ("identity", Json.string p.identity),
    ("agent", Json.number p.agent.toNat), ("tool", Json.string p.tool),
    ("arguments_hash", Json.string p.argumentsHash), ("resource_binding", p.resourceBinding.toVec)]

def GrantPayload.toVec (p : GrantPayload) : List Byte :=
  Json.object [("call", Json.number p.call.toNat), ("agent", Json.number p.agent.toNat),
    ("arguments_hash", Json.string p.argumentsHash), ("resource_binding", p.resourceBinding.toVec),
    ("expires_at_unix_ms", Json.number p.expiresAtUnixMs.toNat)]

def PreparedPayload.toVec (p : PreparedPayload) : List Byte :=
  Json.object [("call", Json.number p.call.toNat), ("arguments_hash", Json.string p.argumentsHash)]

def ReasonPayload.toVec (p : ReasonPayload) : List Byte :=
  Json.object [("call", Json.number p.call.toNat), ("reason", Json.string p.reason)]

def DigestPayload.toVec (p : DigestPayload) : List Byte :=
  Json.object [("call", Json.number p.call.toNat), ("result_digest", Json.string p.resultDigest)]

/-- `serde_json::from_slice` at each type of payload. -/
structure PayloadReader where
  requested : List Byte → Option RequestedPayload
  grant : List Byte → Option GrantPayload
  prepared : List Byte → Option PreparedPayload
  reason : List Byte → Option ReasonPayload
  digest : List Byte → Option DigestPayload

/-- What was written is read back. -/
structure PayloadReader.ReadsBack (json : PayloadReader) : Prop where
  requested : ∀ p : RequestedPayload, json.requested p.toVec = some p
  grant : ∀ p : GrantPayload, json.grant p.toVec = some p
  prepared : ∀ p : PreparedPayload, json.prepared p.toVec = some p
  reason : ∀ p : ReasonPayload, json.reason p.toVec = some p
  digest : ∀ p : DigestPayload, json.digest p.toVec = some p

/-! ## Hashes -/

def hexDigit (n : Nat) : Char := Char.ofNat (if n < 10 then 48 + n else 87 + n)

def encodeHash (hash : Digest) : String :=
  String.ofList (hash.bytes.flatMap fun byte => [hexDigit (byte.toNat / 16), hexDigit (byte.toNat % 16)])

def decodeHexDigit (value : Byte) : Except ToolRuntimeError Byte :=
  if 0x30 ≤ value ∧ value ≤ 0x39 then return value - 0x30
  else if 0x61 ≤ value ∧ value ≤ 0x66 then return value - 0x61 + 10
  else .error (.corruptEvent "Tool hash is not lowercase hexadecimal")

def decodeHexPairs : List Byte → Except ToolRuntimeError (List Byte)
  | high :: low :: rest => do
    let high ← decodeHexDigit high
    let low ← decodeHexDigit low
    let rest ← decodeHexPairs rest
    return (high <<< 4 ||| low) :: rest
  | _ => return []

theorem decodeHexPairs_length : ∀ {value decoded : List Byte}, decodeHexPairs value = .ok decoded →
    decoded.length = value.length / 2
  | [], _, h => by cases h; rfl
  | [_], _, h => by cases h; simp
  | _ :: _ :: rest, _, h => by
    simp only [decodeHexPairs, bind_ok, pure, Except.pure, Except.ok.injEq] at h
    obtain ⟨_, _, _, _, _, hrest, rfl⟩ := h
    simp only [List.length_cons, decodeHexPairs_length hrest]
    omega

def decodeHash (value : String) : Except ToolRuntimeError Digest :=
  if hlength : byteLen value = 64 then
    match hdecoded : decodeHexPairs (utf8 value) with
    | .ok decoded => .ok ⟨decoded, by rw [decodeHexPairs_length hdecoded, utf8_length, hlength]⟩
    | .error e => .error e
  else .error (.corruptEvent "invalid Tool hash length")

/-! ## Encoding -/

def toolEventSchema : UInt16 := 1

def ToolResourceBinding.toPayload (binding : ToolResourceBinding) : ResourceBindingPayload :=
  ⟨encodeHash binding.fingerprint, binding.filesystemReadCount, binding.filesystemWriteCount, binding.process,
    binding.networkTargetCount⟩

def encodeReason (kind : UInt16) (call : ToolCallId) (reason : String) : EventData :=
  ⟨toolEventSchema, kind, ReasonPayload.toVec ⟨UInt64.ofNat call, reason⟩⟩

def encodeDigest (kind : UInt16) (call : ToolCallId) (resultDigest : Digest) : EventData :=
  ⟨toolEventSchema, kind, DigestPayload.toVec ⟨UInt64.ofNat call, encodeHash resultDigest⟩⟩

/-- `encode_event`: `to_vec` does not fail on these payloads. -/
def encodeEvent : ToolEvent → EventData
  | .callRequested call identity agent tool argumentsHash resourceBinding =>
    ⟨toolEventSchema, 1, RequestedPayload.toVec ⟨UInt64.ofNat call, identity, UInt64.ofNat agent, tool,
      encodeHash argumentsHash, resourceBinding.toPayload⟩⟩
  | .approvalGranted call agent argumentsHash resourceBinding expiresAtUnixMs =>
    ⟨toolEventSchema, 2, GrantPayload.toVec ⟨UInt64.ofNat call, UInt64.ofNat agent, encodeHash argumentsHash,
      resourceBinding.toPayload, expiresAtUnixMs⟩⟩
  | .effectPrepared call argumentsHash =>
    ⟨toolEventSchema, 3, PreparedPayload.toVec ⟨UInt64.ofNat call, encodeHash argumentsHash⟩⟩
  | .approvalDenied call reason => encodeReason 4 call reason
  | .effectSucceeded call resultDigest => encodeDigest 5 call resultDigest
  | .effectFailed call reason => encodeReason 6 call reason
  | .effectAmbiguous call reason => encodeReason 7 call reason
  | .effectReconciledSucceeded call resultDigest => encodeDigest 8 call resultDigest
  | .effectReconciledFailed call reason => encodeReason 9 call reason

/-! ## Decoding -/

/-- `ToolCallId::from_stored`. -/
def callFromStored (value : UInt64) : Except ToolRuntimeError ToolCallId :=
  (newCallId value.toNat).mapError fun _ => .corruptEvent "invalid Tool Call ID"

def agentFromStored (value : UInt64) : Except ToolRuntimeError AgentId := do
  require (value.toNat ≠ 0 ∧ value.toNat ≠ maxIdentifier) (.corruptEvent "invalid Agent ID")
  return value.toNat

/-- `ToolResourceBinding::try_from`. -/
def ResourceBindingPayload.toBinding (p : ResourceBindingPayload) : Except ToolRuntimeError ToolResourceBinding := do
  let fingerprint ← decodeHash p.fingerprint
  let binding : ToolResourceBinding :=
    ⟨fingerprint, p.filesystemReadCount, p.filesystemWriteCount, p.process, p.networkTargetCount⟩
  binding.validate
  return binding

def deserializePayload {α : Type} (payload : Option α) : Except ToolRuntimeError α :=
  okOr payload (.corruptEvent "invalid Tool Event payload")

section Decode

variable (json : PayloadReader)

def decodeRequested (bytes : List Byte) : Except ToolRuntimeError ToolEvent := do
  let payload ← deserializePayload (json.requested bytes)
  let call ← callFromStored payload.call
  let agent ← agentFromStored payload.agent
  let argumentsHash ← decodeHash payload.argumentsHash
  let resourceBinding ← payload.resourceBinding.toBinding
  return .callRequested call payload.identity agent payload.tool argumentsHash resourceBinding

def decodeGrant (bytes : List Byte) : Except ToolRuntimeError ToolEvent := do
  let payload ← deserializePayload (json.grant bytes)
  let call ← callFromStored payload.call
  let agent ← agentFromStored payload.agent
  let argumentsHash ← decodeHash payload.argumentsHash
  let resourceBinding ← payload.resourceBinding.toBinding
  return .approvalGranted call agent argumentsHash resourceBinding payload.expiresAtUnixMs

def decodePrepared (bytes : List Byte) : Except ToolRuntimeError ToolEvent := do
  let payload ← deserializePayload (json.prepared bytes)
  let call ← callFromStored payload.call
  let argumentsHash ← decodeHash payload.argumentsHash
  return .effectPrepared call argumentsHash

def decodeReason (bytes : List Byte) (build : ToolCallId → String → ToolEvent) : Except ToolRuntimeError ToolEvent := do
  let payload ← deserializePayload (json.reason bytes)
  let call ← callFromStored payload.call
  return build call payload.reason

def decodeDigest (bytes : List Byte) (build : ToolCallId → Digest → ToolEvent) : Except ToolRuntimeError ToolEvent := do
  let payload ← deserializePayload (json.digest bytes)
  let call ← callFromStored payload.call
  let resultDigest ← decodeHash payload.resultDigest
  return build call resultDigest

def decodeEvent (stored : StoredEvent) : Except ToolRuntimeError ToolEvent := do
  require (stored.data.schema = toolEventSchema) (.unsupportedToolEventSchema toolEventSchema stored.data.schema)
  match stored.data.kind with
  | 1 => decodeRequested json stored.data.payload
  | 2 => decodeGrant json stored.data.payload
  | 3 => decodePrepared json stored.data.payload
  | 4 => decodeReason json stored.data.payload .approvalDenied
  | 5 => decodeDigest json stored.data.payload .effectSucceeded
  | 6 => decodeReason json stored.data.payload .effectFailed
  | 7 => decodeReason json stored.data.payload .effectAmbiguous
  | 8 => decodeDigest json stored.data.payload .effectReconciledSucceeded
  | 9 => decodeReason json stored.data.payload .effectReconciledFailed
  | _ => .error (.corruptEvent "unknown Tool Event kind")

end Decode

end GreenTyper.Tool
