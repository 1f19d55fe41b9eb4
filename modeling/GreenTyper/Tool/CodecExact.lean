/-
  GreenTyper.Tool.CodecExact — a Tool event that may be stored decodes to itself (see
  `GreenTyper.Tool.Codec`), and a reader of payloads that reads back what was written.
-/

import GreenTyper.Tool.Codec

namespace GreenTyper.Tool

open GreenTyper.Lib
open GreenTyper.Ledger (EventData StoredEvent)
open GreenTyper.Team (AgentId ValidId maxIdentifier)

/-! ## Hashes -/

theorem hexDigit_ascii : ∀ n, n < 16 → String.utf8EncodeChar (hexDigit n) = [Json.hexDigit n] := by
  decide

theorem decodeHexDigit_hexDigit : ∀ n, n < 16 → decodeHexDigit (Json.hexDigit n) = .ok (UInt8.ofNat n) := by
  decide

theorem join_halves : ∀ n, n < 256 → UInt8.ofNat (n / 16) <<< 4 ||| UInt8.ofNat (n % 16) = UInt8.ofNat n := by
  decide +kernel

def hexPair (byte : Byte) : List Byte := [Json.hexDigit (byte.toNat / 16), Json.hexDigit (byte.toNat % 16)]

theorem utf8_encodeHash (hash : Digest) : utf8 (encodeHash hash) = hash.bytes.flatMap hexPair := by
  rw [encodeHash, utf8_ofList, List.flatMap_assoc]
  congr 1
  funext byte
  have hlow := hexDigit_ascii (byte.toNat % 16) (Nat.mod_lt _ (by decide))
  have hhigh := hexDigit_ascii (byte.toNat / 16) (by have := byte.toNat_lt; omega)
  simp only [List.flatMap_cons, List.flatMap_nil, hlow, hhigh]
  rfl

theorem decodeHexPairs_hexPair (bytes : List Byte) : decodeHexPairs (bytes.flatMap hexPair) = .ok bytes := by
  induction bytes with
  | nil => rfl
  | cons byte bytes ih =>
    have hlt := byte.toNat_lt
    have hlow := decodeHexDigit_hexDigit (byte.toNat % 16) (Nat.mod_lt _ (by decide))
    have hhigh := decodeHexDigit_hexDigit (byte.toNat / 16) (by omega)
    show decodeHexPairs (Json.hexDigit (byte.toNat / 16) :: Json.hexDigit (byte.toNat % 16) :: bytes.flatMap hexPair) = _
    simp only [decodeHexPairs, hlow, hhigh, ih, ok_bind, join_halves byte.toNat hlt, UInt8.ofNat_toNat]
    rfl

theorem decodeHash_encodeHash (hash : Digest) : decodeHash (encodeHash hash) = .ok hash := by
  have hpairs := decodeHexPairs_hexPair hash.bytes
  rw [← utf8_encodeHash] at hpairs
  have hlength : byteLen (encodeHash hash) = 64 := by
    have := decodeHexPairs_length hpairs
    rw [← utf8_length, utf8_encodeHash, List.length_flatMap]
    simp [hexPair, hash.length]
  rw [decodeHash, dif_pos hlength]
  split
  · rename_i decoded hdecoded
    rw [hpairs] at hdecoded
    cases hdecoded
    rfl
  · rename_i e hdecoded
    rw [hpairs] at hdecoded
    cases hdecoded

/-! ## Events -/

/-- What the state has checked of an event that it takes. -/
def ToolEvent.Storable : ToolEvent → Prop
  | .callRequested call _ agent _ _ resourceBinding | .approvalGranted call agent _ resourceBinding _ =>
    ValidId call ∧ ValidId agent ∧ resourceBinding.validate = .ok ()
  | event => ValidId event.call

theorem toNat_ofNat {n : Nat} (h : ValidId n) : (UInt64.ofNat n).toNat = n := by
  have := h.2
  rw [UInt64.toNat_ofNat', Nat.mod_eq_of_lt (Nat.lt_of_lt_of_le this (by decide))]

theorem callFromStored_ofNat {call : Nat} (h : ValidId call) : callFromStored (UInt64.ofNat call) = .ok call := by
  rw [callFromStored, newCallId, toNat_ofNat h, require_bind ⟨h.1, Nat.ne_of_lt h.2⟩]
  rfl

theorem agentFromStored_ofNat {agent : Nat} (h : ValidId agent) : agentFromStored (UInt64.ofNat agent) = .ok agent := by
  rw [agentFromStored, toNat_ofNat h, require_bind ⟨h.1, Nat.ne_of_lt h.2⟩]
  rfl

theorem toBinding_toPayload {binding : ToolResourceBinding} (h : binding.validate = .ok ()) :
    binding.toPayload.toBinding = .ok binding := by
  simp only [ResourceBindingPayload.toBinding, ToolResourceBinding.toPayload, decodeHash_encodeHash, ok_bind, h]
  rfl

section Decode

variable {json : PayloadReader}

theorem decodeReason_encode (hjson : json.ReadsBack) {call : ToolCallId} (hcall : ValidId call) (reason : String)
    (build : ToolCallId → String → ToolEvent) :
    decodeReason json (ReasonPayload.toVec ⟨UInt64.ofNat call, reason⟩) build = .ok (build call reason) := by
  simp only [decodeReason, deserializePayload, hjson.reason, okOr_some, ok_bind, callFromStored_ofNat hcall]
  rfl

theorem decodeDigest_encode (hjson : json.ReadsBack) {call : ToolCallId} (hcall : ValidId call) (resultDigest : Digest)
    (build : ToolCallId → Digest → ToolEvent) :
    decodeDigest json (DigestPayload.toVec ⟨UInt64.ofNat call, encodeHash resultDigest⟩) build =
      .ok (build call resultDigest) := by
  simp only [decodeDigest, deserializePayload, hjson.digest, okOr_some, ok_bind, callFromStored_ofNat hcall,
    decodeHash_encodeHash]
  rfl

theorem decodeEvent_encodeEvent (hjson : json.ReadsBack) {event : ToolEvent} (h : event.Storable) {stored : StoredEvent}
    (hdata : stored.data = encodeEvent event) : decodeEvent json stored = .ok event := by
  have hschema : stored.data.schema = toolEventSchema := by rw [hdata]; cases event <;> rfl
  rw [decodeEvent, require_bind hschema, hdata]
  cases event with
  | callRequested call identity agent tool argumentsHash resourceBinding =>
    obtain ⟨hcall, hagent, hbinding⟩ := h
    show decodeRequested json (RequestedPayload.toVec _) = _
    simp only [decodeRequested, deserializePayload, hjson.requested, okOr_some, ok_bind, callFromStored_ofNat hcall,
      agentFromStored_ofNat hagent, decodeHash_encodeHash, toBinding_toPayload hbinding]
    rfl
  | approvalGranted call agent argumentsHash resourceBinding expiresAtUnixMs =>
    obtain ⟨hcall, hagent, hbinding⟩ := h
    show decodeGrant json (GrantPayload.toVec _) = _
    simp only [decodeGrant, deserializePayload, hjson.grant, okOr_some, ok_bind, callFromStored_ofNat hcall,
      agentFromStored_ofNat hagent, decodeHash_encodeHash, toBinding_toPayload hbinding]
    rfl
  | effectPrepared call argumentsHash =>
    have hcall : ValidId call := h
    show decodePrepared json (PreparedPayload.toVec _) = _
    simp only [decodePrepared, deserializePayload, hjson.prepared, okOr_some, ok_bind, callFromStored_ofNat hcall,
      decodeHash_encodeHash]
    rfl
  | approvalDenied call reason => exact decodeReason_encode hjson h reason _
  | effectSucceeded call resultDigest => exact decodeDigest_encode hjson h resultDigest _
  | effectFailed call reason => exact decodeReason_encode hjson h reason _
  | effectAmbiguous call reason => exact decodeReason_encode hjson h reason _
  | effectReconciledSucceeded call resultDigest => exact decodeDigest_encode hjson h resultDigest _
  | effectReconciledFailed call reason => exact decodeReason_encode hjson h reason _

end Decode

/-! ## A reader -/

namespace PayloadReader

open Json

def bindingReader : Reader ResourceBindingPayload := do
  literal [0x7b]
  let fingerprint ← member "fingerprint" readString 0x2c
  let filesystemReadCount ← member "filesystem_read_count" (readBounded (2 ^ 16) UInt16.ofNat) 0x2c
  let filesystemWriteCount ← member "filesystem_write_count" (readBounded (2 ^ 16) UInt16.ofNat) 0x2c
  let process ← member "process" readBool 0x2c
  let networkTargetCount ← member "network_target_count" (readBounded (2 ^ 16) UInt16.ofNat) 0x7d
  return ⟨fingerprint, filesystemReadCount, filesystemWriteCount, process, networkTargetCount⟩

def requestedReader : Reader RequestedPayload := do
  literal [0x7b]
  let call ← member "call" (readBounded (2 ^ 64) UInt64.ofNat) 0x2c
  let identity ← member "identity" readString 0x2c
  let agent ← member "agent" (readBounded (2 ^ 64) UInt64.ofNat) 0x2c
  let tool ← member "tool" readString 0x2c
  let argumentsHash ← member "arguments_hash" readString 0x2c
  let resourceBinding ← member "resource_binding" bindingReader 0x7d
  return ⟨call, identity, agent, tool, argumentsHash, resourceBinding⟩

def grantReader : Reader GrantPayload := do
  literal [0x7b]
  let call ← member "call" (readBounded (2 ^ 64) UInt64.ofNat) 0x2c
  let agent ← member "agent" (readBounded (2 ^ 64) UInt64.ofNat) 0x2c
  let argumentsHash ← member "arguments_hash" readString 0x2c
  let resourceBinding ← member "resource_binding" bindingReader 0x2c
  let expiresAtUnixMs ← member "expires_at_unix_ms" (readBounded (2 ^ 64) UInt64.ofNat) 0x7d
  return ⟨call, agent, argumentsHash, resourceBinding, expiresAtUnixMs⟩

/-- A call's number and a text. -/
def callReader {α : Type} (key : String) (build : UInt64 → String → α) : Reader α := do
  literal [0x7b]
  let call ← member "call" (readBounded (2 ^ 64) UInt64.ofNat) 0x2c
  let text ← member key readString 0x7d
  return build call text

theorem reads_u64 (n : UInt64) : ReadsValue (readBounded (2 ^ 64) UInt64.ofNat) (number n.toNat) n := by
  have := @reads_bounded _ (2 ^ 64) n.toNat UInt64.ofNat n.toNat_lt
  rwa [UInt64.ofNat_toNat] at this

theorem reads_u16 (n : UInt16) : ReadsValue (readBounded (2 ^ 16) UInt16.ofNat) (number n.toNat) n := by
  have := @reads_bounded _ (2 ^ 16) n.toNat UInt16.ofNat n.toNat_lt
  rwa [UInt16.ofNat_toNat] at this

section Members

variable {key : String}

theorem reads_u64_member {separator : Byte} (h : isDigit separator = false) (n : UInt64) :
    Reads (member key (readBounded (2 ^ 64) UInt64.ofNat) separator) (label key ++ (number n.toNat ++ [separator])) n :=
  reads_member (reads_u64 n) h

theorem reads_u16_member {separator : Byte} (h : isDigit separator = false) (n : UInt16) :
    Reads (member key (readBounded (2 ^ 16) UInt16.ofNat) separator) (label key ++ (number n.toNat ++ [separator])) n :=
  reads_member (reads_u16 n) h

theorem reads_text_member {separator : Byte} (h : isDigit separator = false) (s : String) :
    Reads (member key readString separator) (label key ++ (string s ++ [separator])) s :=
  reads_member (reads_string s).value h

end Members

theorem reads_binding (p : ResourceBindingPayload) : Reads bindingReader p.toVec p :=
  (reads_literal [0x7b]).bind ((reads_text_member rfl _).bind ((reads_u16_member rfl _).bind
    ((reads_u16_member rfl _).bind ((reads_member (reads_bool _).value rfl).bind (reads_u16_member rfl _).map))))

theorem reads_requested (p : RequestedPayload) : Reads requestedReader p.toVec p :=
  (reads_literal [0x7b]).bind ((reads_u64_member rfl _).bind ((reads_text_member rfl _).bind
    ((reads_u64_member rfl _).bind ((reads_text_member rfl _).bind ((reads_text_member rfl _).bind
      (reads_member (reads_binding _).value rfl).map)))))

theorem reads_grant (p : GrantPayload) : Reads grantReader p.toVec p :=
  (reads_literal [0x7b]).bind ((reads_u64_member rfl _).bind ((reads_u64_member rfl _).bind
    ((reads_text_member rfl _).bind ((reads_member (reads_binding _).value rfl).bind (reads_u64_member rfl _).map))))

theorem reads_call {α : Type} (key : String) (build : UInt64 → String → α) (call : UInt64) (text : String) :
    Reads (callReader key build) (object [("call", number call.toNat), (key, string text)]) (build call text) :=
  (reads_literal [0x7b]).bind ((reads_u64_member rfl _).bind (reads_text_member rfl _).map)

/-- Reads the form that is written, and no other. -/
def compact : PayloadReader where
  requested := readAll requestedReader
  grant := readAll grantReader
  prepared := readAll (callReader "arguments_hash" PreparedPayload.mk)
  reason := readAll (callReader "reason" ReasonPayload.mk)
  digest := readAll (callReader "result_digest" DigestPayload.mk)

theorem compact_readsBack : compact.ReadsBack where
  requested p := (reads_requested p).all
  grant p := (reads_grant p).all
  prepared p := (reads_call "arguments_hash" PreparedPayload.mk p.call p.argumentsHash).all
  reason p := (reads_call "reason" ReasonPayload.mk p.call p.reason).all
  digest p := (reads_call "result_digest" DigestPayload.mk p.call p.resultDigest).all

end PayloadReader

end GreenTyper.Tool
