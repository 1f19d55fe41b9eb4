/-
  GreenTyper.Team.Schemas — the Team codec under each of its schemas (`persistence.rs`),
  in both directions.

  An event whose fields are in the decoder's bounds has an encoding (`encodePayload_encodes`),
  and whatever bytes encode it, its sets in any order, decode to what the schema keeps of
  it (`decode_payloadIn`). Conversely each decoder is followed through the bytes it took
  (`Decoder.Takes`): a payload that decodes is such an encoding of the event it gives
  (`decode_sound`). It need not be the one the encoder writes, since no decoder asks for
  the order of a set (`unordered_labels_accepted`).
-/

import GreenTyper.Team.EventLog

namespace GreenTyper.Team

open GreenTyper.Lib
open GreenTyper.Ledger (EventData)

/-! ## What has an encoding -/

theorem count_encodes {n : Nat} (h : n < 2 ^ 32) : Encoder.count n = .ok (leBytes 4 n) := by
  rw [Encoder.count, require_bind h]
  rfl

theorem string_encodes {s : String} (h : byteLen s < 2 ^ 32) : Encoder.string s = .ok (leBytes 4 (byteLen s) ++ utf8 s) := by
  rw [Encoder.string, count_encodes h]
  rfl

theorem each_encodes {α : Type} {encode : α → Encoded} {as : List α} (h : ∀ a ∈ as, ∃ x, encode a = .ok x) :
    ∃ x, Encoder.each encode as = .ok x := by
  induction as with
  | nil => exact ⟨[], rfl⟩
  | cons a as ih =>
    obtain ⟨⟨x, hx⟩, has⟩ := List.forall_mem_cons.mp h
    obtain ⟨y, hy⟩ := ih has
    exact ⟨x ++ y, by simp only [Encoder.each, hx, hy, ok_bind]; rfl⟩

theorem stringList_encodes {values : List String} (hcount : values.length < 2 ^ 32) (h : ∀ v ∈ values, byteLen v < 2 ^ 32) :
    ∃ x, Encoder.stringList values = .ok x := by
  obtain ⟨x, hx⟩ := each_encodes fun v hv => ⟨_, string_encodes (h v hv)⟩
  exact ⟨leBytes 4 values.length ++ x, by simp only [Encoder.stringList, count_encodes hcount, hx, ok_bind]; rfl⟩

theorem encodeTaskSpec_encodes {spec : TaskSpec} (h : CodableSpec spec) : ∃ x, encodeTaskSpec spec = .ok x := by
  have hlen : spec.scope.labels.length = spec.scope.card := Finset.length_sort _
  have ht := h.title
  have hl := h.labels
  have hd := h.dependencies
  simp only [maxTaskTitleBytes, maxScopeLabels, maxTaskDependencies] at ht hl hd
  obtain ⟨labels, hlabels⟩ := @each_encodes _ Encoder.string spec.scope.labels fun l hmem => by
    rw [← List.mem_toFinset, labels_toFinset] at hmem
    have := h.label l hmem
    simp only [maxScopeLabelBytes] at this
    exact ⟨_, string_encodes (by omega)⟩
  exact ⟨_, by
    simp only [encodeTaskSpec, string_encodes (show byteLen spec.title < 2 ^ 32 by omega),
      count_encodes (show spec.scope.labels.length < 2 ^ 32 by omega),
      count_encodes (show spec.dependencies.length < 2 ^ 32 by omega), hlabels, ok_bind]
    rfl⟩

theorem encodeCapability_encodes {c : Capability} (h : ∀ name, c = .tool name → byteLen name ≤ maxToolNameBytes) :
    ∃ x, encodeCapability c = .ok x := by
  cases c with
  | tool name =>
    have := h name rfl
    simp only [maxToolNameBytes] at this
    exact ⟨_, by simp only [encodeCapability, string_encodes (show byteLen name < 2 ^ 32 by omega), ok_bind]; rfl⟩
  | _ => exact ⟨_, rfl⟩

theorem encodeCapabilities_encodes {snapshot : CapabilitySnapshot} (h : CodableCapabilities snapshot) :
    ∃ x, encodeCapabilities snapshot = .ok x := by
  have hlen : snapshot.sorted.length = snapshot.card := Finset.length_sort _
  have hc := h.count
  simp only [maxCapabilities] at hc
  obtain ⟨bytes, hbytes⟩ := @each_encodes _ encodeCapability snapshot.sorted fun c hmem => by
    rw [← List.mem_toFinset, sorted_toFinset] at hmem
    exact encodeCapability_encodes fun name hname => h.name name (hname ▸ hmem)
  exact ⟨_, by simp only [encodeCapabilities, count_encodes (show snapshot.sorted.length < 2 ^ 32 by omega), hbytes, ok_bind]; rfl⟩

theorem encodePresetFor_encodes {schema : UInt16} {preset : Option InheritedModelPreset} (h : validatePreset preset = .ok ()) :
    ∃ x, encodePresetFor schema preset = .ok x := by
  rw [encodePresetFor]
  split
  · cases preset with
    | none => exact ⟨_, rfl⟩
    | some preset =>
      have hlen : byteLen preset.id ≤ maxModelPresetIdBytes := (require_ok.mp h).2.1
      simp only [maxModelPresetIdBytes] at hlen
      exact ⟨_, by simp only [encodeOptionalModelPreset, string_encodes (show byteLen preset.id < 2 ^ 32 by omega), ok_bind]; rfl⟩
  · exact ⟨_, rfl⟩

theorem encodeCapsule_encodes {capsule : CompletionCapsule} (h : CodableCapsule capsule) : ∃ x, encodeCapsule capsule = .ok x := by
  have ho := h.outcome
  have he := h.entries
  simp only [maxCapsuleBytes, maxCapsuleEntries] at ho he
  obtain ⟨lists, hlists⟩ := @each_encodes _ Encoder.stringList capsule.lists fun values hmem => by
    have hle := le_sum_map List.length hmem
    refine stringList_encodes (by omega) fun v hv => ?_
    have := h.entry values hmem v hv
    simp only [maxCapsuleBytes] at this
    omega
  exact ⟨_, by simp only [encodeCapsule, string_encodes (show byteLen capsule.outcome < 2 ^ 32 by omega), hlists, ok_bind]; rfl⟩

/-- An event in bounds has an encoding under every schema. -/
theorem encodePayload_encodes {schema : UInt16} {kind : TeamEventKind} (h : Codable kind) :
    ∃ x, encodePayload schema kind = .ok x := by
  cases kind with
  | taskCreated task spec =>
    obtain ⟨x, hx⟩ := encodeTaskSpec_encodes h.2
    exact ⟨_, by simp only [encodePayload, hx, ok_bind]; rfl⟩
  | agentCreated agent task parent budget snapshot preset =>
    obtain ⟨x, hx⟩ := encodeCapabilities_encodes h.2.2.2.1
    obtain ⟨y, hy⟩ := @encodePresetFor_encodes schema _ h.2.2.2.2
    exact ⟨_, by simp only [encodePayload, hx, hy, ok_bind]; rfl⟩
  | messageSent message sender recipient body =>
    have hb := h.2.2.2
    simp only [maxMessageBytes] at hb
    exact ⟨_, by simp only [encodePayload, string_encodes (show byteLen body < 2 ^ 32 by omega), ok_bind]; rfl⟩
  | completionCapsuleSubmitted task agent capsule =>
    obtain ⟨x, hx⟩ := encodeCapsule_encodes h.2.2
    exact ⟨_, by simp only [encodePayload, hx, ok_bind]; rfl⟩
  | taskFailed task reason | taskCancelled task reason =>
    have hr := h.2
    simp only [maxReasonBytes] at hr
    exact ⟨_, by simp only [encodePayload, string_encodes (show byteLen reason < 2 ^ 32 by omega), ok_bind]; rfl⟩
  | _ => exact ⟨_, rfl⟩

/-! ## Lengths -/

section Lengths

variable {x : List Byte}

theorem count_length {n : Nat} (h : Encoder.count n = .ok x) : x.length = 4 := by
  simp only [Encoder.count, bind_ok, pure, Except.pure, Except.ok.injEq] at h
  obtain ⟨_, _, rfl⟩ := h
  exact leBytes_length 4 n

theorem string_length {s : String} (h : Encoder.string s = .ok x) : x.length = 4 + byteLen s := by
  simp only [Encoder.string, bind_ok, pure, Except.pure, Except.ok.injEq] at h
  obtain ⟨length, hlength, rfl⟩ := h
  rw [List.length_append, count_length hlength, utf8_length]

theorem each_length {α : Type} {encode : α → Encoded} {bound : Nat} {as : List α} (h : Encoder.each encode as = .ok x)
    (hbound : ∀ a ∈ as, ∀ y, encode a = .ok y → y.length ≤ bound) : x.length ≤ as.length * bound := by
  induction as generalizing x with
  | nil =>
    cases h
    exact Nat.zero_le _
  | cons a as ih =>
    simp only [Encoder.each, bind_ok, pure, Except.pure, Except.ok.injEq] at h
    obtain ⟨bytes, ha, more, hmore, rfl⟩ := h
    obtain ⟨hfirst, hrest⟩ := List.forall_mem_cons.mp hbound
    have h1 := hfirst bytes ha
    have h2 := ih hmore hrest
    rw [List.length_append, List.length_cons, Nat.succ_mul]
    omega

theorem stringList_length {values : List String} (h : Encoder.stringList values = .ok x) {bound : Nat}
    (hbound : ∀ v ∈ values, byteLen v ≤ bound) : x.length ≤ 4 + values.length * (4 + bound) := by
  simp only [Encoder.stringList, bind_ok, pure, Except.pure, Except.ok.injEq] at h
  obtain ⟨length, hlength, bytes, hbytes, rfl⟩ := h
  have : bytes.length ≤ values.length * (4 + bound) := each_length hbytes fun v hv y hy => by
    rw [string_length hy]
    exact Nat.add_le_add_left (hbound v hv) 4
  rw [List.length_append, count_length hlength]
  omega

theorem flatMap_identifier_length (ids : List Nat) : (ids.flatMap Encoder.identifier).length = 8 * ids.length := by
  induction ids with
  | nil => rfl
  | cons id ids ih =>
    rw [List.flatMap_cons, List.length_append, ih, List.length_cons, Encoder.identifier, leBytes_length]
    omega

theorem encodeTaskSpecIn_length {spec : TaskSpec} {labels : List String} (h : encodeTaskSpecIn labels spec = .ok x)
    (hnodup : labels.Nodup) (hlabels : labels.toFinset = spec.scope) (hs : CodableSpec spec) : x.length ≤ 19724 := by
  simp only [encodeTaskSpecIn, bind_ok, pure, Except.pure, Except.ok.injEq] at h
  obtain ⟨title, htitle, labelCount, hlabelCount, bytes, hbytes, depCount, hdepCount, rfl⟩ := h
  have ht := hs.title
  have hl := hs.labels
  have hd := hs.dependencies
  have hlen : labels.length = spec.scope.card := by rw [← hlabels, List.toFinset_card_of_nodup hnodup]
  have hb : bytes.length ≤ labels.length * (4 + maxScopeLabelBytes) := each_length hbytes fun l hmem y hy => by
    rw [string_length hy]
    exact Nat.add_le_add_left (hs.label l (by rwa [← hlabels, List.mem_toFinset])) 4
  simp only [List.length_append, string_length htitle, count_length hlabelCount, count_length hdepCount,
    flatMap_identifier_length]
  simp only [maxTaskTitleBytes, maxScopeLabels, maxTaskDependencies, maxScopeLabelBytes] at ht hl hd hb
  omega

theorem encodeCapabilitiesIn_length {snapshot : CapabilitySnapshot} {capabilities : List Capability}
    (h : encodeCapabilitiesIn capabilities = .ok x) (hnodup : capabilities.Nodup)
    (hcapabilities : capabilities.toFinset = snapshot) (hs : CodableCapabilities snapshot) : x.length ≤ 16708 := by
  simp only [encodeCapabilitiesIn, bind_ok, pure, Except.pure, Except.ok.injEq] at h
  obtain ⟨length, hlength, bytes, hbytes, rfl⟩ := h
  have hc := hs.count
  have hlen : capabilities.length = snapshot.card := by rw [← hcapabilities, List.toFinset_card_of_nodup hnodup]
  have hb : bytes.length ≤ capabilities.length * (5 + maxToolNameBytes) := each_length hbytes fun c hmem y hy => by
    cases c with
    | tool name =>
      have hname := hs.name name (by rwa [← hcapabilities, List.mem_toFinset])
      simp only [encodeCapability, bind_ok, pure, Except.pure, Except.ok.injEq] at hy
      obtain ⟨z, hz, rfl⟩ := hy
      rw [List.length_append, leBytes_length, string_length hz]
      omega
    | _ =>
      cases hy
      exact Nat.le_trans (Nat.le_of_eq (leBytes_length 1 _)) (by omega)
  rw [List.length_append, count_length hlength]
  simp only [maxCapabilities, maxToolNameBytes] at hc hb
  omega

theorem encodePresetFor_length {schema : UInt16} {preset : Option InheritedModelPreset}
    (h : encodePresetFor schema preset = .ok x) (hp : validatePreset preset = .ok ()) : x.length ≤ 69 := by
  rw [encodePresetFor] at h
  split at h
  · cases preset with
    | none =>
      cases h
      exact Nat.le_trans (Nat.le_of_eq (leBytes_length 1 _)) (by omega)
    | some preset =>
      have hlen : byteLen preset.id ≤ maxModelPresetIdBytes := (require_ok.mp hp).2.1
      simp only [encodeOptionalModelPreset, bind_ok, pure, Except.pure, Except.ok.injEq] at h
      obtain ⟨id, hid, rfl⟩ := h
      simp only [maxModelPresetIdBytes] at hlen
      rw [List.length_append, leBytes_length, string_length hid]
      omega
  · cases h
    exact Nat.zero_le _

theorem sum_map_le {α : Type} (g : α → Nat) {bound : Nat} {l : List α} (h : ∀ a ∈ l, g a ≤ bound) :
    (l.map g).sum ≤ l.length * bound := by
  induction l with
  | nil => exact Nat.zero_le _
  | cons a l ih =>
    obtain ⟨ha, hl⟩ := List.forall_mem_cons.mp h
    have := ih hl
    rw [List.map_cons, List.sum_cons, List.length_cons, Nat.succ_mul]
    omega

/-- All entries of a capsule, whatever list they stand in. -/
theorem encodeCapsule_length {capsule : CompletionCapsule} (h : encodeCapsule capsule = .ok x) :
    x.length = 32 + byteLen capsule.outcome +
      (capsule.lists.map fun values => (values.map byteLen).sum + 4 * values.length).sum := by
  have hvalues : ∀ {values : List String} {y : List Byte}, Encoder.each Encoder.string values = .ok y →
      y.length = (values.map byteLen).sum + 4 * values.length := by
    intro values
    induction values with
    | nil =>
      intro y hy
      cases hy
      rfl
    | cons v values ih =>
      intro y hy
      simp only [Encoder.each, bind_ok, pure, Except.pure, Except.ok.injEq] at hy
      obtain ⟨bytes, hv, more, hmore, rfl⟩ := hy
      rw [List.length_append, string_length hv, ih hmore, List.map_cons, List.sum_cons, List.length_cons]
      omega
  have hlists : ∀ {lists : List (List String)} {y : List Byte}, Encoder.each Encoder.stringList lists = .ok y →
      y.length = 4 * lists.length + (lists.map fun values => (values.map byteLen).sum + 4 * values.length).sum := by
    intro lists
    induction lists with
    | nil =>
      intro y hy
      cases hy
      rfl
    | cons values lists ih =>
      intro y hy
      simp only [Encoder.each, Encoder.stringList, bind_ok, pure, Except.pure, Except.ok.injEq] at hy
      obtain ⟨_, ⟨length, hlength, bytes, hbytes, rfl⟩, more, hmore, rfl⟩ := hy
      rw [List.length_append, List.length_append, count_length hlength, hvalues hbytes, ih hmore, List.map_cons, List.sum_cons,
        List.length_cons]
      omega
  simp only [encodeCapsule, bind_ok, pure, Except.pure, Except.ok.injEq] at h
  obtain ⟨outcome, houtcome, lists, hl, rfl⟩ := h
  rw [List.length_append, string_length houtcome, hlists hl]
  have hcount : capsule.lists.length = 7 := rfl
  omega

end Lengths

/-! ## What the decoders take -/

section Takes

open Decoder (Takes)

theorem takes_bytes (n : Nat) : Takes (Decode.bytes n) fun x b => x = b ∧ b.length = n := by
  intro c c' pre r a hat hd
  simp only [Decode.bytes, bind_ok, okOr_ok] at hd
  obtain ⟨_, _, hread⟩ := hd
  obtain ⟨hlen, r', rfl, hat'⟩ := Cursor.read_some hat hread
  exact ⟨a, r', rfl, hat', rfl, hlen⟩

theorem takes_uint (n : Nat) : Takes (Decode.uint n) fun x v => x = leBytes n v ∧ v < 256 ^ n := by
  refine (takes_bytes n).map.mono ?_
  rintro x v ⟨b, ⟨rfl, rfl⟩, rfl⟩
  exact ⟨(leBytes_leNat x).symm, leNat_lt x⟩

theorem takes_identifier : Takes Decode.identifier fun x v => x = Encoder.identifier v ∧ ValidId v := by
  refine ((takes_uint 8).bind fun v => Takes.lift (decodeIdentifier v)).mono ?_
  rintro z v ⟨x, w, y, rfl, ⟨rfl, hlt⟩, rfl, hv⟩
  simp only [decodeIdentifier, bind_ok, require_ok, exists_const, pure, Except.pure, Except.ok.injEq] at hv
  obtain ⟨⟨hne, hmax⟩, rfl⟩ := hv
  refine ⟨List.append_nil _, hne, ?_⟩
  simp only [maxIdentifier] at hmax ⊢
  omega

theorem takes_count (max : Nat) : Takes (Decode.count max) fun x n => Encoder.count n = .ok x ∧ n ≤ max := by
  refine ((takes_uint 4).bind fun v => Takes.check_bind (Takes.pure v)).mono ?_
  rintro z n ⟨x, v, y, rfl, ⟨rfl, hlt⟩, hle, rfl, rfl⟩
  rw [List.append_nil]
  exact ⟨count_encodes (by omega), hle⟩

theorem takes_ofUtf8 (b : List Byte) : Takes (Decode.ofUtf8 b) fun x s => x = [] ∧ b = utf8 s := by
  rw [Decode.ofUtf8]
  split
  · rename_i s hs
    refine (Takes.pure s).mono ?_
    rintro x s' ⟨rfl, rfl⟩
    exact ⟨rfl, (fromUtf8_some hs).symm⟩
  · exact Takes.fail _

theorem takes_string (max : Nat) : Takes (Decode.string max) fun x s => Encoder.string s = .ok x ∧ byteLen s ≤ max := by
  refine ((takes_count max).bind fun n => (takes_bytes n).bind takes_ofUtf8).mono ?_
  rintro z s ⟨x, n, y, rfl, ⟨hcount, hle⟩, b, _, _, rfl, ⟨rfl, rfl⟩, rfl, rfl⟩
  rw [utf8_length] at hcount hle
  rw [List.append_nil, Encoder.string, hcount]
  exact ⟨rfl, hle⟩

/-- An item that is its encoding, for the lists of them. -/
theorem takes_item {α : Type} {d : Decode α} {encode : α → Encoded} {C : α → Prop} (h : Takes d fun x a => encode a = .ok x ∧ C a) :
    Takes d fun x a => x = bytesOf (encode a) ∧ encode a = .ok (bytesOf (encode a)) ∧ C a := by
  refine h.mono ?_
  rintro x a ⟨hx, ha⟩
  rw [hx]
  exact ⟨rfl, rfl, ha⟩

theorem each_of_ok {α : Type} {encode : α → Encoded} {as : List α} (h : ∀ a ∈ as, encode a = .ok (bytesOf (encode a))) :
    Encoder.each encode as = .ok (as.flatMap fun a => bytesOf (encode a)) := by
  induction as with
  | nil => rfl
  | cons a as ih =>
    obtain ⟨ha, has⟩ := List.forall_mem_cons.mp h
    rw [Encoder.each, ha, ok_bind, ih has, List.flatMap_cons]
    rfl

theorem takes_stringList (t : Nat) : Takes (Decode.stringList t) fun x p =>
    Encoder.stringList p.1 = .ok x ∧ p.2 = t + p.1.length ∧ p.2 ≤ maxCapsuleEntries ∧ ∀ v ∈ p.1, byteLen v ≤ maxCapsuleBytes := by
  refine ((takes_count maxCapsuleEntries).bind fun n => Takes.check_bind (Takes.check_bind
    ((Takes.many (takes_item (takes_string maxCapsuleBytes)) n).map (f := fun values => (values, t + n))))).mono ?_
  rintro z p ⟨x, n, y, rfl, ⟨hcount, _⟩, _, hle, values, ⟨rfl, rfl, hvalues⟩, rfl⟩
  refine ⟨?_, rfl, hle, fun v hv => (hvalues v hv).2⟩
  rw [Encoder.stringList, hcount, ok_bind, each_of_ok fun v hv => (hvalues v hv).1]
  rfl

theorem takes_taskSpec : Takes decodeTaskSpec fun x spec =>
    (∃ labels : List String, labels.Nodup ∧ labels.toFinset = spec.scope ∧ encodeTaskSpecIn labels spec = .ok x) ∧
      CodableSpec spec := by
  refine ((takes_string maxTaskTitleBytes).bind fun title => (takes_count maxScopeLabels).bind fun n =>
    (Takes.manyInto (takes_item (takes_string maxScopeLabelBytes)) _ n ∅).bind fun labels =>
      (takes_count maxTaskDependencies).bind fun m => (Takes.many takes_identifier m).map
        (f := fun dependencies => (⟨title, labels, dependencies⟩ : TaskSpec))).mono ?_
  rintro z spec ⟨_, title, _, rfl, ⟨htitle, hmax⟩, _, n, _, rfl, ⟨hcount, hn⟩, _, set, _, rfl,
    ⟨labels, rfl, hnodup, _, rfl, rfl, hlabels⟩, _, m, _, rfl, ⟨hdepCount, hm⟩, dependencies, ⟨rfl, rfl, hdeps⟩, rfl⟩
  rw [Finset.union_empty]
  refine ⟨⟨labels, hnodup, rfl, ?_⟩, hmax, ?_, fun l hl => (hlabels l (List.mem_toFinset.mp hl)).2, hm, hdeps⟩
  · simp only [encodeTaskSpecIn, htitle, hcount, hdepCount, each_of_ok fun l hl => (hlabels l hl).1, ok_bind]
    rfl
  · rw [List.toFinset_card_of_nodup hnodup]
    exact hn

theorem takes_budget : Takes decodeBudget fun x budget => x = encodeBudget budget := by
  refine ((takes_uint 8).bind fun tokens => (takes_uint 4).map (f := resourceBudget tokens)).mono ?_
  rintro z budget ⟨x, tokens, y, rfl, ⟨rfl, ht⟩, calls, ⟨rfl, hc⟩, rfl⟩
  have ht' : tokens % 2 ^ 64 = tokens := Nat.mod_eq_of_lt (by omega)
  have hc' : calls % 2 ^ 32 = calls := Nat.mod_eq_of_lt (by omega)
  simp only [encodeBudget, resourceBudget, ht', hc']

theorem takes_capability : Takes decodeCapability fun x c =>
    encodeCapability c = .ok x ∧ ∀ name, c = .tool name → byteLen name ≤ maxToolNameBytes := by
  refine ((takes_uint 1).bind fun tag => (?_ : Takes _ fun y c => encodeCapability c = .ok (leBytes 1 tag ++ y) ∧
    ∀ name, c = .tool name → byteLen name ≤ maxToolNameBytes)).mono ?_
  · split
    iterate 4
      refine (Takes.pure _).mono ?_
      rintro y c ⟨rfl, rfl⟩
      exact ⟨rfl, by simp⟩
    · refine (takes_string maxToolNameBytes).map.mono ?_
      rintro y c ⟨name, ⟨hname, hle⟩, rfl⟩
      refine ⟨by rw [encodeCapability, hname]; rfl, ?_⟩
      rintro _ ⟨⟩
      exact hle
    · exact Takes.fail _
  · rintro z c ⟨x, tag, y, rfl, ⟨rfl, _⟩, hc⟩
    exact hc

theorem takes_capabilities : Takes decodeCapabilities fun x snapshot =>
    (∃ capabilities : List Capability, capabilities.Nodup ∧ capabilities.toFinset = snapshot ∧
      encodeCapabilitiesIn capabilities = .ok x) ∧ CodableCapabilities snapshot := by
  refine ((takes_count maxCapabilities).bind fun n => Takes.manyInto (takes_item takes_capability) _ n ∅).mono ?_
  rintro z snapshot ⟨_, n, _, rfl, ⟨hcount, hn⟩, capabilities, rfl, hnodup, _, rfl, rfl, hall⟩
  rw [Finset.union_empty]
  refine ⟨⟨capabilities, hnodup, rfl, ?_⟩, ?_, fun name hname => (hall _ (List.mem_toFinset.mp hname)).2 name rfl⟩
  · simp only [encodeCapabilitiesIn, hcount, each_of_ok fun c hc => (hall c hc).1, ok_bind]
    rfl
  · rw [List.toFinset_card_of_nodup hnodup]
    exact hn

theorem takes_optionalAgent : Takes decodeOptionalAgent fun x agent =>
    x = encodeOptionalAgent agent ∧ ∀ a, agent = some a → ValidId a := by
  refine ((takes_uint 1).bind fun tag => (?_ : Takes _ fun y agent => leBytes 1 tag ++ y = encodeOptionalAgent agent ∧
    ∀ a, agent = some a → ValidId a)).mono ?_
  · split
    · refine (Takes.pure none).mono ?_
      rintro y agent ⟨rfl, rfl⟩
      exact ⟨rfl, by simp⟩
    · refine takes_identifier.map.mono ?_
      rintro y agent ⟨a, ⟨rfl, ha⟩, rfl⟩
      refine ⟨rfl, ?_⟩
      rintro _ ⟨⟩
      exact ha
    · exact Takes.fail _
  · rintro z agent ⟨x, tag, y, rfl, ⟨rfl, _⟩, h⟩
    exact h

theorem takes_recipient : Takes decodeRecipient fun x recipient =>
    x = encodeRecipient recipient ∧ ∀ a, recipient = .agent a → ValidId a := by
  refine ((takes_uint 1).bind fun tag => (?_ : Takes _ fun y recipient => leBytes 1 tag ++ y = encodeRecipient recipient ∧
    ∀ a, recipient = .agent a → ValidId a)).mono ?_
  · split
    · refine takes_identifier.map.mono ?_
      rintro y recipient ⟨a, ⟨rfl, ha⟩, rfl⟩
      refine ⟨rfl, ?_⟩
      rintro _ ⟨⟩
      exact ha
    · refine (Takes.pure MessageRecipient.team).mono ?_
      rintro y recipient ⟨rfl, rfl⟩
      exact ⟨rfl, by simp⟩
    · exact Takes.fail _
  · rintro z recipient ⟨x, tag, y, rfl, ⟨rfl, _⟩, h⟩
    exact h

theorem takes_optionalModelPreset : Takes decodeOptionalModelPreset fun x preset =>
    encodeOptionalModelPreset preset = .ok x ∧ validatePreset preset = .ok () := by
  refine ((takes_uint 1).bind fun tag => (?_ : Takes _ fun y preset =>
    encodeOptionalModelPreset preset = .ok (leBytes 1 tag ++ y) ∧ validatePreset preset = .ok ())).mono ?_
  · split
    · refine (Takes.pure none).mono ?_
      rintro y preset ⟨rfl, rfl⟩
      exact ⟨rfl, rfl⟩
    · refine ((takes_string maxModelPresetIdBytes).bind fun id => (Takes.lift (newModelPreset id)).map (f := some)).mono ?_
      rintro _ preset ⟨y, id, _, rfl, ⟨hid, _⟩, preset', ⟨rfl, hnew⟩, rfl⟩
      simp only [newModelPreset, bind_ok, mapError_ok, pure, Except.pure, Except.ok.injEq] at hnew
      obtain ⟨_, hvalid, rfl⟩ := hnew
      refine ⟨?_, hvalid⟩
      rw [encodeOptionalModelPreset, hid, List.append_nil]
      rfl
    · exact Takes.fail _
  · rintro z preset ⟨x, tag, y, rfl, ⟨rfl, _⟩, h⟩
    exact h

theorem takes_presetFor (schema : UInt16) : Takes (decodePresetFor schema) fun x preset =>
    encodePresetFor schema preset = .ok x ∧ validatePreset preset = .ok () ∧ (¬ teamEventSchemaV3 ≤ schema → preset = none) := by
  by_cases hschema : teamEventSchemaV3 ≤ schema
  · rw [decodePresetFor, if_pos hschema]
    refine takes_optionalModelPreset.mono ?_
    rintro x preset ⟨hx, hp⟩
    exact ⟨by rw [encodePresetFor, if_pos hschema]; exact hx, hp, fun hno => absurd hschema hno⟩
  · rw [decodePresetFor, if_neg hschema]
    refine (Takes.pure none).mono ?_
    rintro x preset ⟨rfl, rfl⟩
    exact ⟨by rw [encodePresetFor, if_neg hschema]; rfl, rfl, fun _ => rfl⟩

/-- One list of a capsule, and what is read after it with the entries so far. -/
theorem list_step {β : Type} {t : Nat} {f : List String × Nat → Decode β} {c c' : Cursor} {pre r : List Byte} {b : β}
    (hat : c.At pre r) (hd : (Decode.stringList t >>= f) c = .ok (b, c')) :
    ∃ x values c1 r1, r = x ++ r1 ∧ c1.At (pre ++ x) r1 ∧ Encoder.stringList values = .ok x ∧
      t + values.length ≤ maxCapsuleEntries ∧ (∀ v ∈ values, byteLen v ≤ maxCapsuleBytes) ∧
      f (values, t + values.length) c1 = .ok (b, c') := by
  obtain ⟨⟨⟨values, total⟩, c1⟩, h1, h2⟩ := bind_ok.mp hd
  obtain ⟨x, r1, rfl, hat1, hx, htotal, hle, hvalues⟩ := takes_stringList t c c1 pre r (values, total) hat h1
  dsimp only at htotal hle h2
  subst htotal
  exact ⟨x, values, c1, r1, rfl, hat1, hx, hle, hvalues, h2⟩

theorem takes_capsule : Takes decodeCapsule fun x capsule => encodeCapsule capsule = .ok x ∧ CodableCapsule capsule := by
  intro c c' pre r capsule hat hd
  obtain ⟨⟨outcome, c0⟩, h0, hd⟩ := bind_ok.mp hd
  obtain ⟨x0, r0, rfl, hat, hout, hmax⟩ := takes_string maxCapsuleBytes c c0 pre r outcome hat h0
  dsimp only at hd
  obtain ⟨x1, evidence, _, r1, rfl, hat, h1, _, e1, hd⟩ := list_step hat hd
  obtain ⟨x2, changes, _, r2, rfl, hat, h2, _, e2, hd⟩ := list_step hat hd
  obtain ⟨x3, tests, _, r3, rfl, hat, h3, _, e3, hd⟩ := list_step hat hd
  obtain ⟨x4, decisions, _, r4, rfl, hat, h4, _, e4, hd⟩ := list_step hat hd
  obtain ⟨x5, blockers, _, r5, rfl, hat, h5, _, e5, hd⟩ := list_step hat hd
  obtain ⟨x6, artifacts, _, r6, rfl, hat, h6, _, e6, hd⟩ := list_step hat hd
  obtain ⟨x7, residualRisks, _, r7, rfl, hat, h7, hle, e7, hd⟩ := list_step hat hd
  cases hd
  refine ⟨x0 ++ (x1 ++ (x2 ++ (x3 ++ (x4 ++ (x5 ++ (x6 ++ x7)))))), r7, by simp only [List.append_assoc], ?_, ?_, hmax, ?_, ?_⟩
  · simpa only [List.append_assoc] using hat
  · simp only [encodeCapsule, CompletionCapsule.lists, Encoder.each, hout, h1, h2, h3, h4, h5, h6, h7, ok_bind, pure, Except.pure,
      List.append_nil]
  · simp only [CompletionCapsule.lists, List.map_cons, List.map_nil, List.sum_cons, List.sum_nil]
    omega
  · simp only [CompletionCapsule.lists, List.forall_mem_cons]
    exact ⟨e1, e2, e3, e4, e5, e6, e7, by simp⟩

theorem takes_one (make : Nat → TeamEventKind) : Takes (decodeOne make) fun x kind =>
    ∃ id, x = Encoder.identifier id ∧ ValidId id ∧ kind = make id := by
  refine takes_identifier.map.mono ?_
  rintro x kind ⟨id, ⟨rfl, hid⟩, rfl⟩
  exact ⟨id, rfl, hid, rfl⟩

theorem takes_two (make : Nat → Nat → TeamEventKind) : Takes (decodeTwo make) fun x kind =>
    ∃ id id', x = Encoder.identifier id ++ Encoder.identifier id' ∧ (ValidId id ∧ ValidId id') ∧ kind = make id id' := by
  refine (takes_identifier.bind fun id => takes_identifier.map (f := make id)).mono ?_
  rintro x kind ⟨_, id, _, rfl, ⟨rfl, hid⟩, id', ⟨rfl, hid'⟩, rfl⟩
  exact ⟨id, id', rfl, ⟨hid, hid'⟩, rfl⟩

theorem takes_reason (make : TaskId → String → TeamEventKind) : Takes (decodeReason make) fun x kind =>
    ∃ task reason y, x = Encoder.identifier task ++ y ∧ Encoder.string reason = .ok y ∧
      (ValidId task ∧ byteLen reason ≤ maxReasonBytes) ∧ kind = make task reason := by
  refine (takes_identifier.bind fun task => (takes_string maxReasonBytes).map (f := make task)).mono ?_
  rintro x kind ⟨_, task, y, rfl, ⟨rfl, htask⟩, reason, ⟨hreason, hle⟩, rfl⟩
  exact ⟨task, reason, y, rfl, hreason, ⟨htask, hle⟩, rfl⟩

/-- What is taken under a tag is an encoding of an event of that tag. -/
theorem takes_kind (schema tag : UInt16) : Takes (decodeKind schema tag) fun x kind =>
    tag = kind.tag ∧ PayloadIn schema kind x ∧ Codable kind ∧ kind.inSchema schema = kind := by
  rw [decodeKind]
  split <;> rename_i htag
  case h_1 =>
    refine (takes_identifier.bind fun task => takes_taskSpec.map (f := TeamEventKind.taskCreated task)).mono ?_
    rintro x kind ⟨_, task, y, rfl, ⟨rfl, htask⟩, spec, ⟨⟨labels, hnodup, hlabels, hy⟩, hspec⟩, rfl⟩
    exact ⟨UInt16.toNat_inj.mp htag, ⟨labels, y, hnodup, hlabels, hy, rfl⟩, ⟨htask, hspec⟩, rfl⟩
  case h_2 =>
    refine (takes_identifier.bind fun agent => takes_identifier.bind fun task => takes_optionalAgent.bind fun parent =>
      takes_budget.bind fun budget => takes_capabilities.bind fun snapshot => (takes_presetFor schema).map
        (f := TeamEventKind.agentCreated agent task parent budget snapshot)).mono ?_
    rintro x kind ⟨_, agent, _, rfl, ⟨rfl, hagent⟩, _, task, _, rfl, ⟨rfl, htask⟩, _, parent, _, rfl, ⟨rfl, hparent⟩, _, budget, _,
      rfl, rfl, y, snapshot, tail, rfl, ⟨⟨capabilities, hnodup, hset, hy⟩, hcaps⟩, preset, ⟨htail, hpreset, hnone⟩, rfl⟩
    refine ⟨UInt16.toNat_inj.mp htag, ⟨capabilities, y, tail, hnodup, hset, hy, htail, rfl⟩,
      ⟨hagent, htask, hparent, hcaps, hpreset⟩, ?_⟩
    by_cases hschema : teamEventSchemaV3 ≤ schema
    · simp only [TeamEventKind.inSchema, if_pos hschema]
    · simp only [TeamEventKind.inSchema, if_neg hschema, hnone hschema]
  case h_8 =>
    refine (takes_identifier.bind fun message => takes_identifier.bind fun sender => takes_recipient.bind fun recipient =>
      (takes_string maxMessageBytes).map (f := TeamEventKind.messageSent message sender recipient)).mono ?_
    rintro x kind ⟨_, message, _, rfl, ⟨rfl, hmessage⟩, _, sender, _, rfl, ⟨rfl, hsender⟩, _, recipient, y, rfl,
      ⟨rfl, hrecipient⟩, body, ⟨hbody, hle⟩, rfl⟩
    refine ⟨UInt16.toNat_inj.mp htag, ?_, ⟨hmessage, hsender, hrecipient, hle⟩, rfl⟩
    simp only [PayloadIn, encodePayload, hbody, ok_bind]
    rfl
  case h_9 =>
    refine (takes_identifier.bind fun task => takes_identifier.bind fun agent => takes_capsule.map
      (f := TeamEventKind.completionCapsuleSubmitted task agent)).mono ?_
    rintro x kind ⟨_, task, _, rfl, ⟨rfl, htask⟩, _, agent, y, rfl, ⟨rfl, hagent⟩, capsule, ⟨hcapsule, hcodable⟩, rfl⟩
    refine ⟨UInt16.toNat_inj.mp htag, ?_, ⟨htask, hagent, hcodable⟩, rfl⟩
    simp only [PayloadIn, encodePayload, hcapsule, ok_bind]
    rfl
  case h_12 | h_14 =>
    refine (takes_reason _).mono ?_
    rintro x kind ⟨task, reason, y, rfl, hreason, hcodable, rfl⟩
    refine ⟨UInt16.toNat_inj.mp htag, ?_, hcodable, rfl⟩
    simp only [PayloadIn, encodePayload, hreason, ok_bind]
    rfl
  case h_19 =>
    refine (takes_identifier.bind fun operation => takes_identifier.bind fun committed => takes_identifier.map
      (f := TeamEventKind.operationAcknowledged operation committed)).mono ?_
    rintro x kind ⟨_, operation, _, rfl, ⟨rfl, ho⟩, _, committed, _, rfl, ⟨rfl, hc⟩, acknowledgement, ⟨rfl, ha⟩, rfl⟩
    exact ⟨UInt16.toNat_inj.mp htag, rfl, ⟨ho, hc, ha⟩, rfl⟩
  case h_22 => exact Takes.fail _
  case h_3 | h_4 | h_16 | h_17 | h_18 | h_21 =>
    refine (takes_two _).mono ?_
    rintro x kind ⟨id, id', rfl, hcodable, rfl⟩
    exact ⟨UInt16.toNat_inj.mp htag, rfl, hcodable, rfl⟩
  all_goals
    refine (takes_one _).mono ?_
    rintro x kind ⟨id, rfl, hcodable, rfl⟩
    exact ⟨UInt16.toNat_inj.mp htag, rfl, hcodable, rfl⟩

end Takes

/-! ## Every schema -/

/-- The schema is supported, and has events of the tag. -/
def Available (schema tag : UInt16) : Prop :=
  (schema = teamEventSchemaV1 ∨ schema = teamEventSchemaV2 ∨ schema = teamEventSchemaV3 ∨ schema = teamEventSchema) ∧
    ¬ (schema = teamEventSchemaV1 ∧ tag > 17) ∧ ¬ (schema < teamEventSchema ∧ tag > 19)

instance (schema tag : UInt16) : Decidable (Available schema tag) := inferInstanceAs (Decidable (_ ∧ _))

theorem payload_length {schema : UInt16} {kind : TeamEventKind} {x : List Byte} (h : PayloadIn schema kind x)
    (hk : Codable kind) : x.length < 2 ^ 64 := by
  have hid : ∀ id, (Encoder.identifier id).length = 8 := fun id => leBytes_length 8 id
  cases kind with
  | taskCreated task spec =>
    obtain ⟨labels, bytes, hnodup, hlabels, hbytes, rfl⟩ := h
    have := encodeTaskSpecIn_length hbytes hnodup hlabels hk.2
    rw [List.length_append, hid]
    omega
  | agentCreated agent task parent budget snapshot preset =>
    obtain ⟨capabilities, bytes, tail, hnodup, hset, hbytes, htail, rfl⟩ := h
    have h1 := encodeCapabilitiesIn_length hbytes hnodup hset hk.2.2.2.1
    have h2 := encodePresetFor_length htail hk.2.2.2.2
    have h3 : (encodeOptionalAgent parent).length ≤ 9 := by
      cases parent <;> simp [encodeOptionalAgent, hid]
    have h4 : (encodeBudget budget).length = 12 := by simp [encodeBudget]
    simp only [List.length_append, hid]
    omega
  | messageSent message sender recipient body =>
    simp only [PayloadIn, encodePayload, bind_ok, pure, Except.pure, Except.ok.injEq] at h
    obtain ⟨bytes, hbytes, rfl⟩ := h
    have hb := hk.2.2.2
    have hr : (encodeRecipient recipient).length ≤ 9 := by
      cases recipient <;> simp [encodeRecipient, hid]
    simp only [maxMessageBytes] at hb
    simp only [List.length_append, hid, string_length hbytes]
    omega
  | completionCapsuleSubmitted task agent capsule =>
    simp only [PayloadIn, encodePayload, bind_ok, pure, Except.pure, Except.ok.injEq] at h
    obtain ⟨bytes, hbytes, rfl⟩ := h
    have hc := hk.2.2
    have ho := hc.outcome
    have he := hc.entries
    simp only [maxCapsuleBytes, maxCapsuleEntries] at ho he
    have hlists : ∀ values ∈ capsule.lists, (values.map byteLen).sum + 4 * values.length ≤ 1024 * 262148 := by
      intro values hmem
      have hcount := le_sum_map List.length hmem
      have hsum := sum_map_le byteLen (hc.entry values hmem)
      simp only [maxCapsuleBytes] at hsum
      omega
    have hsum := sum_map_le _ hlists
    have hcount : capsule.lists.length = 7 := rfl
    rw [hcount] at hsum
    simp only [List.length_append, hid, encodeCapsule_length hbytes]
    omega
  | taskFailed task reason | taskCancelled task reason =>
    simp only [PayloadIn, encodePayload, bind_ok, pure, Except.pure, Except.ok.injEq] at h
    obtain ⟨bytes, hbytes, rfl⟩ := h
    have hr := hk.2
    simp only [maxReasonBytes] at hr
    simp only [List.length_append, hid, string_length hbytes]
    omega
  | _ =>
    cases h
    simp [hid]

/-- What encodes an event, its sets in any order, decodes to what the schema keeps of it. -/
theorem decode_payloadIn {schema : UInt16} {kind : TeamEventKind} {x : List Byte} (hschema : Available schema kind.tag)
    (h : PayloadIn schema kind x) (hk : Codable kind) :
    decodeEventData ⟨schema, kind.tag, x⟩ = .ok (kind.inSchema schema) := by
  obtain ⟨c, hc, hempty⟩ := (reads_kind h hk).run (payload_length h hk)
  obtain ⟨hsupported, hone, hprior⟩ := hschema
  simp only [decodeEventData, hc, hempty, ok_bind]
  rw [require_bind hsupported, require_bind hone, require_bind hprior, require_bind trivial]
  rfl

/-- A payload that decodes is an encoding of the event it gives, its sets in some order. -/
theorem decode_sound {data : EventData} {kind : TeamEventKind} (h : decodeEventData data = .ok kind) :
    Available data.schema data.kind ∧ data.kind = kind.tag ∧ PayloadIn data.schema kind data.payload ∧ Codable kind ∧
      kind.inSchema data.schema = kind := by
  simp only [decodeEventData, bind_ok, require_ok, exists_const, Prod.exists, pure, Except.pure, Except.ok.injEq] at h
  obtain ⟨hsupported, hone, hprior, kind', c, hc, hempty, rfl⟩ := h
  obtain ⟨htag, hp, hk, hkept⟩ := (takes_kind data.schema data.kind).run hc hempty
  exact ⟨⟨hsupported, hone, hprior⟩, htag, hp, hk, hkept⟩

/-- An event that a state built by events takes is encoded under every schema that has its
    tag and decodes to what the schema keeps of it, which for the current schema is the
    event; and exactly the encodings of an event under a schema, its sets in any order,
    decode to it. -/
theorem team_codec_exact (schema : UInt16) (kind : TeamEventKind) :
    (∀ {m m' : Nat} {events : List TeamEventKind} {s s' : TeamState}, TeamState.default.applyAll m events = .ok s →
      s.apply kind m' = .ok s' → Available schema kind.tag →
        ∃ data, encodeEventDataForSchema kind schema = .ok data ∧ decodeEventData data = .ok (kind.inSchema schema)) ∧
    kind.inSchema teamEventSchema = kind ∧
    ∀ (tag : UInt16) (payload : List Byte), decodeEventData ⟨schema, tag, payload⟩ = .ok kind ↔
      Available schema tag ∧ tag = kind.tag ∧ PayloadIn schema kind payload ∧ Codable kind ∧ kind.inSchema schema = kind := by
  refine ⟨?_, inSchema_current kind, fun tag payload => ⟨fun h => decode_sound h, ?_⟩⟩
  · intro m m' events s s' hs happ hschema
    obtain ⟨hk, _⟩ := TeamState.apply_storable (TeamState.applyAll_storable events TeamState.storable_default hs).2 happ
    obtain ⟨payload, hp⟩ := @encodePayload_encodes schema _ hk
    refine ⟨⟨schema, kind.tag, payload⟩, ?_, decode_payloadIn hschema (encodePayload_in hp) hk⟩
    rw [encodeEventDataForSchema, hp]
    rfl
  · rintro ⟨hschema, rfl, hp, hk, hkept⟩
    rw [decode_payloadIn hschema hp hk, hkept]

/-- A creation of Task 1 whose scope has two labels. -/
def twoLabels : TeamEventKind := .taskCreated 1 ⟨"Plan", {"docs", "src"}, []⟩

/-- The creation, its labels in this order. -/
def createdWith (labels : List String) : EventData :=
  ⟨teamEventSchema, 1, Encoder.identifier 1 ++ bytesOf (encodeTaskSpecIn labels ⟨"Plan", {"docs", "src"}, []⟩)⟩

theorem twoLabels_codable : Codable twoLabels := by
  refine ⟨⟨by decide, by decide⟩, by decide, by decide, fun l hl => ?_, by decide, by simp⟩
  rcases Finset.mem_insert.mp hl with rfl | hl
  · decide
  · rw [Finset.mem_singleton.mp hl]
    decide

theorem createdWith_payloadIn {labels : List String} (hnodup : labels.Nodup) (hset : labels.toFinset = {"docs", "src"})
    (hbytes : encodeTaskSpecIn labels ⟨"Plan", {"docs", "src"}, []⟩ =
      .ok (bytesOf (encodeTaskSpecIn labels ⟨"Plan", {"docs", "src"}, []⟩))) :
    PayloadIn teamEventSchema twoLabels (createdWith labels).payload :=
  ⟨labels, _, hnodup, hset, hbytes, rfl⟩

/-- Either order of two labels is accepted, and only one of them is the encoding. -/
theorem unordered_labels_accepted :
    ¬ ∀ (data : EventData) (kind : TeamEventKind), decodeEventData data = .ok kind →
      encodeEventDataForSchema kind data.schema = .ok data := by
  intro h
  have hschema : Available teamEventSchema twoLabels.tag := by decide
  have hset : ["src", "docs"].toFinset = {"docs", "src"} := Finset.pair_comm "src" "docs"
  have h1 := h (createdWith ["docs", "src"]) twoLabels
    (decode_payloadIn hschema (createdWith_payloadIn (by decide) rfl (by decide +kernel)) twoLabels_codable)
  have h2 := h (createdWith ["src", "docs"]) twoLabels
    (decode_payloadIn hschema (createdWith_payloadIn (by decide) hset (by decide +kernel)) twoLabels_codable)
  have hne : createdWith ["docs", "src"] ≠ createdWith ["src", "docs"] := by decide +kernel
  exact hne (Except.ok.inj (h1.symm.trans h2))

theorem team_codec_exact_created :
    (∃ data, encodeEventDataForSchema (.taskCreated 1 ⟨"Plan", {"src"}, []⟩) teamEventSchemaV1 = .ok data ∧
      decodeEventData data = .ok (.taskCreated 1 ⟨"Plan", {"src"}, []⟩)) ∧
    (decodeEventData (createdWith ["src", "docs"]) = .ok twoLabels ↔
      Available teamEventSchema 1 ∧ 1 = twoLabels.tag ∧ PayloadIn teamEventSchema twoLabels (createdWith ["src", "docs"]).payload ∧
        Codable twoLabels ∧ twoLabels.inSchema teamEventSchema = twoLabels) := by
  refine ⟨?_, (team_codec_exact teamEventSchema twoLabels).2.2 1 _⟩
  obtain ⟨s', hs', _⟩ := okAnd_iff.mp (show okAnd (TeamState.default.apply (.taskCreated 1 ⟨"Plan", {"src"}, []⟩) 1)
    (fun _ => true) = true by decide +kernel)
  have hs : TeamState.default.applyAll 1 [] = .ok TeamState.default := rfl
  exact (team_codec_exact teamEventSchemaV1 (.taskCreated 1 ⟨"Plan", {"src"}, []⟩)).1 hs hs' (by decide)

end GreenTyper.Team
