/-
  GreenTyper.Team.CodecExact — what is encoded decodes to itself, for the events whose
  fields are in the decoder's bounds (see `GreenTyper.Team.Codec`).

  Each part of an encoding is read back by its decoder (`Decoder.Reads`), and an event's
  payload by the decoder of its tag (`reads_kind`), under every schema. The bounds are
  those the state checks when it applies an event. A set is read in any order of its
  elements (`PayloadIn`); its encoding has one.
-/

import GreenTyper.Team.Codec

namespace GreenTyper.Team

open GreenTyper.Lib
open GreenTyper.Ledger (EventData)

/-! ## Numbers and texts -/

section Parts

variable {x : List Byte}

theorem reads_bytes (x : List Byte) : Decoder.Reads (Decode.bytes x.length) x x := by
  intro c pre r hlen hat
  obtain ⟨c', hc', hat'⟩ := Cursor.read_append hat
  have hfit : c.position + x.length < 2 ^ 64 := by
    have := congrArg List.length hat.1
    rw [List.length_append, List.length_append] at this
    rw [hat.2]
    omega
  refine ⟨c', ?_, by rw [hat'.1, hat.1, List.append_assoc], hat'⟩
  have hadd : checkedAdd 64 c.position x.length = some (c.position + x.length) := checkedAdd_some.mpr ⟨hfit, rfl⟩
  simp only [Decode.bytes, hadd, hc', okOr_some, ok_bind]

theorem reads_uint {n v : Nat} (h : v < 256 ^ n) : Decoder.Reads (Decode.uint n) (leBytes n v) v := by
  have hb := reads_bytes (leBytes n v)
  rw [leBytes_length] at hb
  have := hb.map (f := leNat)
  rwa [leNat_leBytes h] at this

theorem decodeIdentifier_ok {v : Nat} (h : ValidId v) : decodeIdentifier v = .ok v := by
  rw [decodeIdentifier, require_bind ⟨h.1, Nat.ne_of_lt h.2⟩]
  rfl

theorem reads_identifier {v : Nat} (h : ValidId v) : Decoder.Reads Decode.identifier (Encoder.identifier v) v := by
  have hlt : v < 256 ^ 8 := by have := h.2; simp only [maxIdentifier] at this; omega
  have := (reads_uint hlt).bind (f := fun value => Decoder.lift (decodeIdentifier value)) (y := [])
    (.lift (decodeIdentifier_ok h))
  rwa [List.append_nil] at this

theorem reads_count {n max : Nat} (h : Encoder.count n = .ok x) (hle : n ≤ max) : Decoder.Reads (Decode.count max) x n := by
  simp only [Encoder.count, bind_ok, require_ok, exists_const, pure, Except.pure, Except.ok.injEq] at h
  obtain ⟨hlt, rfl⟩ := h
  have := (reads_uint (n := 4) (v := n) (by omega)).bind (f := fun value => do
    Decoder.check (value ≤ max) (.corruptEvent "Team Event collection exceeds its bound")
    return value) (b := n) (y := []) (.check_bind hle (.pure n))
  rwa [List.append_nil] at this

theorem ofUtf8_utf8 (s : String) : Decode.ofUtf8 (utf8 s) = pure s := by
  rw [Decode.ofUtf8, fromUtf8_utf8]

theorem reads_string {s : String} {max : Nat} (h : Encoder.string s = .ok x) (hle : byteLen s ≤ max) :
    Decoder.Reads (Decode.string max) x s := by
  simp only [Encoder.string, bind_ok, pure, Except.pure, Except.ok.injEq] at h
  obtain ⟨length, hlength, rfl⟩ := h
  have hb := reads_bytes (utf8 s)
  rw [utf8_length] at hb
  have hs := hb.bind (f := Decode.ofUtf8) (b := s) (y := []) (by rw [ofUtf8_utf8]; exact .pure s)
  rw [List.append_nil] at hs
  exact (reads_count hlength hle).bind hs

/-! ## Lists and sets -/

/-- The bytes of an encoding that succeeded. -/
def bytesOf (encoded : Encoded) : List Byte :=
  match encoded with
  | .ok bytes => bytes
  | .error _ => []

theorem each_ok {α : Type} {encode : α → Encoded} {as : List α} (h : Encoder.each encode as = .ok x) :
    x = as.flatMap (fun a => bytesOf (encode a)) ∧ ∀ a ∈ as, encode a = .ok (bytesOf (encode a)) := by
  induction as generalizing x with
  | nil =>
    cases h
    exact ⟨rfl, nofun⟩
  | cons a as ih =>
    simp only [Encoder.each, bind_ok, pure, Except.pure, Except.ok.injEq] at h
    obtain ⟨bytes, ha, more, hmore, rfl⟩ := h
    obtain ⟨hx, has⟩ := ih hmore
    refine ⟨?_, List.forall_mem_cons.mpr ⟨by rw [ha]; rfl, has⟩⟩
    rw [List.flatMap_cons, ← hx, ha]
    rfl

theorem reads_stringList {values : List String} {t : Nat} (h : Encoder.stringList values = .ok x)
    (htotal : t + values.length ≤ maxCapsuleEntries) (hsize : ∀ v ∈ values, byteLen v ≤ maxCapsuleBytes) :
    Decoder.Reads (Decode.stringList t) x (values, t + values.length) := by
  simp only [Encoder.stringList, bind_ok, pure, Except.pure, Except.ok.injEq] at h
  obtain ⟨length, hlength, bytes, hbytes, rfl⟩ := h
  obtain ⟨rfl, hall⟩ := each_ok hbytes
  have hfit : t + values.length < 2 ^ 64 := by simp only [maxCapsuleEntries] at htotal; omega
  refine (reads_count hlength (by omega)).bind (.check_bind hfit (.check_bind htotal ?_))
  exact (Decoder.Reads.many fun v hv => reads_string (hall v hv) (hsize v hv)).map
    (f := fun values' => (values', t + values.length))

theorem labels_toFinset (scope : TaskScope) : scope.labels.toFinset = scope := Finset.sort_toFinset _ _

theorem sorted_toFinset (snapshot : CapabilitySnapshot) : snapshot.sorted.toFinset = snapshot := Finset.sort_toFinset _ _

end Parts

/-! ## The fields -/

structure CodableSpec (spec : TaskSpec) : Prop where
  title : byteLen spec.title ≤ maxTaskTitleBytes
  labels : spec.scope.card ≤ maxScopeLabels
  label : ∀ l ∈ spec.scope, byteLen l ≤ maxScopeLabelBytes
  dependencies : spec.dependencies.length ≤ maxTaskDependencies
  dependency : ∀ d ∈ spec.dependencies, ValidId d

structure CodableCapabilities (snapshot : CapabilitySnapshot) : Prop where
  count : snapshot.card ≤ maxCapabilities
  name : ∀ name, Capability.tool name ∈ snapshot → byteLen name ≤ maxToolNameBytes

structure CodableCapsule (capsule : CompletionCapsule) : Prop where
  outcome : byteLen capsule.outcome ≤ maxCapsuleBytes
  entries : (capsule.lists.map List.length).sum ≤ maxCapsuleEntries
  entry : ∀ values ∈ capsule.lists, ∀ v ∈ values, byteLen v ≤ maxCapsuleBytes

section Fields

variable {x : List Byte}

/-- `encodeTaskSpec`, the labels of the scope in this order. -/
def encodeTaskSpecIn (labels : List String) (spec : TaskSpec) : Encoded := do
  let title ← Encoder.string spec.title
  let labelCount ← Encoder.count labels.length
  let labels ← Encoder.each Encoder.string labels
  let dependencyCount ← Encoder.count spec.dependencies.length
  return title ++ (labelCount ++ (labels ++ (dependencyCount ++ spec.dependencies.flatMap Encoder.identifier)))

theorem reads_taskSpec {spec : TaskSpec} {labels : List String} (h : encodeTaskSpecIn labels spec = .ok x)
    (hnodup : labels.Nodup) (hlabels : labels.toFinset = spec.scope) (hs : CodableSpec spec) :
    Decoder.Reads decodeTaskSpec x spec := by
  simp only [encodeTaskSpecIn, bind_ok, pure, Except.pure, Except.ok.injEq] at h
  obtain ⟨title, htitle, labelCount, hlabelCount, bytes, hbytes, depCount, hdepCount, rfl⟩ := h
  obtain ⟨rfl, hall⟩ := each_ok hbytes
  have hlen : labels.length = spec.scope.card := by rw [← hlabels, List.toFinset_card_of_nodup hnodup]
  refine (reads_string htitle hs.title).bind ((reads_count hlabelCount (hlen ▸ hs.labels)).bind ?_)
  have hset := Decoder.Reads.manyInto (d := Decode.string maxScopeLabelBytes) (l := labels) (s := ∅)
    (.corruptEvent "duplicate Team scope label")
    (fun l hl => reads_string (hall l hl) (hs.label l (by rwa [← hlabels, List.mem_toFinset])))
    hnodup (fun _ _ => Finset.notMem_empty _)
  rw [Finset.union_empty, hlabels] at hset
  refine hset.bind ((reads_count hdepCount hs.dependencies).bind ?_)
  exact (Decoder.Reads.many fun d hd => reads_identifier (hs.dependency d hd)).map
    (f := fun dependencies => (⟨spec.title, spec.scope, dependencies⟩ : TaskSpec))

theorem reads_budget (budget : ResourceBudget) : Decoder.Reads decodeBudget (encodeBudget budget) budget := by
  have ht := budget.tokenUnits_lt
  have hc := budget.toolCalls_lt
  have hb : resourceBudget budget.tokenUnits budget.toolCalls = budget := by
    cases budget
    simp only [resourceBudget, Nat.mod_eq_of_lt ht, Nat.mod_eq_of_lt hc]
  have h : Decoder.Reads decodeBudget (encodeBudget budget) (resourceBudget budget.tokenUnits budget.toolCalls) :=
    (reads_uint (n := 8) (by omega)).bind
      ((reads_uint (n := 4) (by omega)).map (f := resourceBudget budget.tokenUnits))
  rwa [hb] at h

theorem reads_capability {c : Capability} (h : encodeCapability c = .ok x)
    (hc : ∀ name, c = .tool name → byteLen name ≤ maxToolNameBytes) : Decoder.Reads decodeCapability x c := by
  have htag : ∀ {tag : Nat} {y : List Byte} {f : Nat → Decode Capability}, tag < 256 →
      Decoder.Reads (f tag) y c → Decoder.Reads (do let tag ← Decode.uint 1; f tag) (leBytes 1 tag ++ y) c :=
    fun hlt hf => (reads_uint (n := 1) (by simpa using hlt)).bind hf
  cases c with
  | workspaceRead =>
    cases h
    exact htag (y := []) (by decide) (.pure _)
  | workspaceWrite =>
    cases h
    exact htag (y := []) (by decide) (.pure _)
  | process =>
    cases h
    exact htag (y := []) (by decide) (.pure _)
  | network =>
    cases h
    exact htag (y := []) (by decide) (.pure _)
  | tool name =>
    simp only [encodeCapability, bind_ok, pure, Except.pure, Except.ok.injEq] at h
    obtain ⟨bytes, hbytes, rfl⟩ := h
    exact htag (by decide) ((reads_string hbytes (hc name rfl)).map (f := Capability.tool))

/-- `encodeCapabilities`, the capabilities in this order. -/
def encodeCapabilitiesIn (capabilities : List Capability) : Encoded := do
  let length ← Encoder.count capabilities.length
  let capabilities ← Encoder.each encodeCapability capabilities
  return length ++ capabilities

theorem reads_capabilities {snapshot : CapabilitySnapshot} {capabilities : List Capability}
    (h : encodeCapabilitiesIn capabilities = .ok x) (hnodup : capabilities.Nodup)
    (hcapabilities : capabilities.toFinset = snapshot) (hs : CodableCapabilities snapshot) :
    Decoder.Reads decodeCapabilities x snapshot := by
  simp only [encodeCapabilitiesIn, bind_ok, pure, Except.pure, Except.ok.injEq] at h
  obtain ⟨length, hlength, bytes, hbytes, rfl⟩ := h
  obtain ⟨rfl, hall⟩ := each_ok hbytes
  have hlen : capabilities.length = snapshot.card := by rw [← hcapabilities, List.toFinset_card_of_nodup hnodup]
  have hmem : ∀ {c}, c ∈ capabilities → c ∈ snapshot := fun {c} hc => by rwa [← hcapabilities, List.mem_toFinset]
  have hset := Decoder.Reads.manyInto (d := decodeCapability) (l := capabilities) (s := ∅)
    (.corruptEvent "duplicate Team capability")
    (fun c hc => reads_capability (hall c hc) fun name hname => hs.name name (hname ▸ hmem hc))
    hnodup (fun _ _ => Finset.notMem_empty _)
  rw [Finset.union_empty, hcapabilities] at hset
  exact (reads_count hlength (hlen ▸ hs.count)).bind hset

theorem reads_optionalAgent {agent : Option AgentId} (h : ∀ a, agent = some a → ValidId a) :
    Decoder.Reads decodeOptionalAgent (encodeOptionalAgent agent) agent := by
  cases agent with
  | none =>
    have h0 : Decoder.Reads decodeOptionalAgent (leBytes 1 0 ++ []) none := (reads_uint (by decide)).bind (.pure none)
    rwa [List.append_nil] at h0
  | some a => exact (reads_uint (n := 1) (v := 1) (by decide)).bind ((reads_identifier (h a rfl)).map (f := some))

theorem reads_recipient {recipient : MessageRecipient} (h : ∀ a, recipient = .agent a → ValidId a) :
    Decoder.Reads decodeRecipient (encodeRecipient recipient) recipient := by
  cases recipient with
  | team =>
    have h0 : Decoder.Reads decodeRecipient (leBytes 1 2 ++ []) .team :=
      (reads_uint (by decide)).bind (.pure MessageRecipient.team)
    rwa [List.append_nil] at h0
  | agent a =>
    exact (reads_uint (n := 1) (v := 1) (by decide)).bind ((reads_identifier (h a rfl)).map (f := MessageRecipient.agent))

theorem reads_optionalModelPreset {preset : Option InheritedModelPreset} (h : encodeOptionalModelPreset preset = .ok x)
    (hp : validatePreset preset = .ok ()) : Decoder.Reads decodeOptionalModelPreset x preset := by
  cases preset with
  | none =>
    cases h
    have h0 : Decoder.Reads decodeOptionalModelPreset (leBytes 1 0 ++ []) none :=
      (reads_uint (by decide)).bind (.pure none)
    rwa [List.append_nil] at h0
  | some preset =>
    simp only [encodeOptionalModelPreset, bind_ok, pure, Except.pure, Except.ok.injEq] at h
    obtain ⟨id, hid, rfl⟩ := h
    have hlen : byteLen preset.id ≤ maxModelPresetIdBytes := (require_ok.mp hp).2.1
    have hnew : newModelPreset preset.id = .ok preset := by
      rw [newModelPreset, show validateModelPresetId preset.id = .ok () from hp]
      rfl
    refine (reads_uint (n := 1) (v := 1) (by decide)).bind ?_
    have := (reads_string hid hlen).bind (f := fun id => do
      let preset ← Decoder.lift (newModelPreset id)
      return some preset) (y := []) ((Decoder.Reads.lift hnew).map (f := some))
    rwa [List.append_nil] at this

theorem reads_presetFor {schema : UInt16} {preset : Option InheritedModelPreset} (h : encodePresetFor schema preset = .ok x)
    (hp : validatePreset preset = .ok ()) :
    Decoder.Reads (decodePresetFor schema) x (if teamEventSchemaV3 ≤ schema then preset else none) := by
  by_cases hschema : teamEventSchemaV3 ≤ schema
  · rw [encodePresetFor, if_pos hschema] at h
    rw [decodePresetFor, if_pos hschema, if_pos hschema]
    exact reads_optionalModelPreset h hp
  · rw [encodePresetFor, if_neg hschema] at h
    rw [decodePresetFor, if_neg hschema, if_neg hschema]
    cases h
    exact .pure none

theorem reads_capsule {capsule : CompletionCapsule} (h : encodeCapsule capsule = .ok x) (hc : CodableCapsule capsule) :
    Decoder.Reads decodeCapsule x capsule := by
  obtain ⟨outcome, evidence, changes, tests, decisions, blockers, artifacts, residualRisks⟩ := capsule
  simp only [encodeCapsule, CompletionCapsule.lists, Encoder.each, bind_ok, pure, Except.pure, Except.ok.injEq] at h
  obtain ⟨out, hout, _, ⟨b1, h1, _, ⟨b2, h2, _, ⟨b3, h3, _, ⟨b4, h4, _, ⟨b5, h5, _, ⟨b6, h6, _, ⟨b7, h7, _, rfl, rfl⟩,
    rfl⟩, rfl⟩, rfl⟩, rfl⟩, rfl⟩, rfl⟩, rfl⟩ := h
  have hsum := hc.entries
  have hentry := hc.entry
  simp only [CompletionCapsule.lists, List.map_cons, List.map_nil, List.sum_cons, List.sum_nil] at hsum
  simp only [CompletionCapsule.lists, List.forall_mem_cons] at hentry
  obtain ⟨e1, e2, e3, e4, e5, e6, e7, _⟩ := hentry
  rw [List.append_nil]
  -- Each list starts from the entries read before it.
  have r1 := reads_stringList (t := 0) h1 (by omega) e1
  have r2 := reads_stringList (t := 0 + evidence.length) h2 (by omega) e2
  have r3 := reads_stringList (t := 0 + evidence.length + changes.length) h3 (by omega) e3
  have r4 := reads_stringList (t := 0 + evidence.length + changes.length + tests.length) h4 (by omega) e4
  have r5 := reads_stringList (t := 0 + evidence.length + changes.length + tests.length + decisions.length) h5 (by omega) e5
  have r6 := reads_stringList (t := 0 + evidence.length + changes.length + tests.length + decisions.length + blockers.length) h6 (by omega) e6
  have r7 := reads_stringList (t := 0 + evidence.length + changes.length + tests.length + decisions.length + blockers.length + artifacts.length) h7 (by omega) e7
  exact (reads_string hout hc.outcome).bind (r1.bind (r2.bind (r3.bind (r4.bind (r5.bind (r6.bind (r7.map
    (f := fun p => (⟨outcome, evidence, changes, tests, decisions, blockers, artifacts, p.1⟩ : CompletionCapsule)))))))))

end Fields

/-! ## Events -/

/-- The event's fields are in the decoder's bounds. -/
def Codable : TeamEventKind → Prop
  | .taskCreated task spec => ValidId task ∧ CodableSpec spec
  | .agentCreated agent task parent _ capabilities preset =>
    ValidId agent ∧ ValidId task ∧ (∀ a, parent = some a → ValidId a) ∧ CodableCapabilities capabilities ∧
      validatePreset preset = .ok ()
  | .messageSent message sender recipient body =>
    ValidId message ∧ ValidId sender ∧ (∀ a, recipient = .agent a → ValidId a) ∧ byteLen body ≤ maxMessageBytes
  | .completionCapsuleSubmitted task agent capsule => ValidId task ∧ ValidId agent ∧ CodableCapsule capsule
  | .taskFailed task reason | .taskCancelled task reason => ValidId task ∧ byteLen reason ≤ maxReasonBytes
  | .taskReady id | .agentActivated id | .taskStarted id | .taskSucceeded id | .agentSucceeded id | .agentFailed id
  | .agentCancelled id | .taskRetryRequested id => ValidId id
  | .taskOwnerAssigned id id' | .delegationGranted id id' | .taskBlocked id id' | .agentBlocked id id'
  | .operationCommitted id id' | .agentRetryRequested id id' => ValidId id ∧ ValidId id'
  | .operationAcknowledged operation committed acknowledgement =>
    ValidId operation ∧ ValidId committed ∧ ValidId acknowledgement

theorem reads_one {make : Nat → TeamEventKind} {id : Nat} (h : ValidId id) :
    Decoder.Reads (decodeOne make) (Encoder.identifier id) (make id) := (reads_identifier h).map

theorem reads_two {make : Nat → Nat → TeamEventKind} {id id' : Nat} (h : ValidId id) (h' : ValidId id') :
    Decoder.Reads (decodeTwo make) (Encoder.identifier id ++ Encoder.identifier id') (make id id') :=
  (reads_identifier h).bind ((reads_identifier h').map (f := make id))

theorem reads_reason {make : TaskId → String → TeamEventKind} {task : TaskId} {reason : String} {x : List Byte}
    (h : ValidId task) (hx : Encoder.string reason = .ok x) (hlen : byteLen reason ≤ maxReasonBytes) :
    Decoder.Reads (decodeReason make) (Encoder.identifier task ++ x) (make task reason) :=
  (reads_identifier h).bind ((reads_string hx hlen).map (f := make task))

/-- The bytes are an encoding of the event, its sets in any order. -/
def PayloadIn (schema : UInt16) (kind : TeamEventKind) (x : List Byte) : Prop :=
  match kind with
  | .taskCreated task spec => ∃ labels bytes, labels.Nodup ∧ labels.toFinset = spec.scope ∧
      encodeTaskSpecIn labels spec = .ok bytes ∧ x = Encoder.identifier task ++ bytes
  | .agentCreated agent task parent budget snapshot preset => ∃ capabilities bytes tail, capabilities.Nodup ∧
      capabilities.toFinset = snapshot ∧ encodeCapabilitiesIn capabilities = .ok bytes ∧ encodePresetFor schema preset = .ok tail ∧
      x = Encoder.identifier agent ++ (Encoder.identifier task ++ (encodeOptionalAgent parent ++ (encodeBudget budget ++
        (bytes ++ tail))))
  | kind => encodePayload schema kind = .ok x

theorem encodePayload_in {schema : UInt16} {kind : TeamEventKind} {x : List Byte} (h : encodePayload schema kind = .ok x) :
    PayloadIn schema kind x := by
  cases kind with
  | taskCreated task spec =>
    simp only [encodePayload, bind_ok, pure, Except.pure, Except.ok.injEq] at h
    obtain ⟨bytes, hbytes, rfl⟩ := h
    exact ⟨spec.scope.labels, bytes, Finset.sort_nodup _ _, labels_toFinset _, hbytes, rfl⟩
  | agentCreated agent task parent budget snapshot preset =>
    simp only [encodePayload, bind_ok, pure, Except.pure, Except.ok.injEq] at h
    obtain ⟨bytes, hbytes, tail, htail, rfl⟩ := h
    exact ⟨snapshot.sorted, bytes, tail, Finset.sort_nodup _ _, sorted_toFinset _, hbytes, htail, rfl⟩
  | _ => exact h

/-- What a schema keeps of an event: the ones before the third have no inherited preset. -/
def TeamEventKind.inSchema (schema : UInt16) : TeamEventKind → TeamEventKind
  | .agentCreated agent task parent budget snapshot preset =>
    .agentCreated agent task parent budget snapshot (if teamEventSchemaV3 ≤ schema then preset else none)
  | kind => kind

theorem inSchema_current (kind : TeamEventKind) : kind.inSchema teamEventSchema = kind := by
  have hschema : teamEventSchemaV3 ≤ teamEventSchema := by decide
  cases kind with
  | agentCreated => simp only [TeamEventKind.inSchema, if_pos hschema]
  | _ => rfl

/-- The payload is read back by the decoder of the event's tag. -/
theorem reads_kind {schema : UInt16} {kind : TeamEventKind} {x : List Byte} (h : PayloadIn schema kind x)
    (hk : Codable kind) : Decoder.Reads (decodeKind schema kind.tag) x (kind.inSchema schema) := by
  cases kind with
  | taskCreated task spec =>
    obtain ⟨labels, bytes, hnodup, hlabels, hbytes, rfl⟩ := h
    exact (reads_identifier hk.1).bind ((reads_taskSpec hbytes hnodup hlabels hk.2).map (f := TeamEventKind.taskCreated task))
  | agentCreated agent task parent budget snapshot preset =>
    obtain ⟨capabilities, bytes, tail, hnodup, hcapabilities, hbytes, htail, rfl⟩ := h
    obtain ⟨ha, ht, hp, hc, hv⟩ := hk
    exact (reads_identifier ha).bind ((reads_identifier ht).bind ((reads_optionalAgent hp).bind ((reads_budget budget).bind
      ((reads_capabilities hbytes hnodup hcapabilities hc).bind ((reads_presetFor htail hv).map
        (f := TeamEventKind.agentCreated agent task parent budget snapshot))))))
  | messageSent message sender recipient body =>
    simp only [PayloadIn, encodePayload, bind_ok, pure, Except.pure, Except.ok.injEq] at h
    obtain ⟨bytes, hbytes, rfl⟩ := h
    obtain ⟨hm, hs, hr, hb⟩ := hk
    exact (reads_identifier hm).bind ((reads_identifier hs).bind ((reads_recipient hr).bind
      ((reads_string hbytes hb).map (f := TeamEventKind.messageSent message sender recipient))))
  | completionCapsuleSubmitted task agent capsule =>
    simp only [PayloadIn, encodePayload, bind_ok, pure, Except.pure, Except.ok.injEq] at h
    obtain ⟨bytes, hbytes, rfl⟩ := h
    obtain ⟨ht, ha, hc⟩ := hk
    exact (reads_identifier ht).bind ((reads_identifier ha).bind
      ((reads_capsule hbytes hc).map (f := TeamEventKind.completionCapsuleSubmitted task agent)))
  | operationAcknowledged operation committed acknowledgement =>
    cases h
    obtain ⟨ho, hc, ha⟩ := hk
    exact (reads_identifier ho).bind ((reads_identifier hc).bind
      ((reads_identifier ha).map (f := TeamEventKind.operationAcknowledged operation committed)))
  | taskFailed task reason | taskCancelled task reason =>
    simp only [PayloadIn, encodePayload, bind_ok, pure, Except.pure, Except.ok.injEq] at h
    obtain ⟨bytes, hbytes, rfl⟩ := h
    exact reads_reason hk.1 hbytes hk.2
  | taskReady id | agentActivated id | taskStarted id | taskSucceeded id | agentSucceeded id | agentFailed id
  | agentCancelled id | taskRetryRequested id =>
    cases h
    exact reads_one hk
  | taskOwnerAssigned id id' | delegationGranted id id' | taskBlocked id id' | agentBlocked id id'
  | operationCommitted id id' | agentRetryRequested id id' =>
    cases h
    exact reads_two hk.1 hk.2

/-- An event whose fields are in bounds decodes to itself. -/
theorem decode_encode {kind : TeamEventKind} {data : EventData} (h : encodeEventData kind = .ok data)
    (hlen : data.payload.length < 2 ^ 64) (hk : Codable kind) : decodeEventData data = .ok kind := by
  simp only [encodeEventData, encodeEventDataForSchema, bind_ok, pure, Except.pure, Except.ok.injEq] at h
  obtain ⟨payload, hp, rfl⟩ := h
  obtain ⟨c, hc, hempty⟩ := (reads_kind (encodePayload_in hp) hk).run hlen
  rw [inSchema_current] at hc
  simp only [decodeEventData, hc, hempty, ok_bind]
  rw [require_bind (by decide), require_bind (fun hs => absurd hs.1 (by decide)),
    require_bind (fun hs => absurd hs.1 (by decide)), require_bind trivial]
  rfl

end GreenTyper.Team
