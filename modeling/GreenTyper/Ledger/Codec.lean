/-
  GreenTyper.Ledger.Codec — what the transaction encoder writes, the decoder reads, and
  the decoder accepts nothing else (see `GreenTyper.Ledger.Format`).

  Each step is proved both ways: an encoded event (transaction) decodes to what was
  encoded (`decodeEvent_encode`, `decodeTransaction_encode`), and a decoded event
  (transaction) is the encoding of its result, under the checks an append makes
  (`decodeEvent_canonical`, `decodeTransaction_canonical`).
-/

import GreenTyper.Ledger.File

namespace GreenTyper.Ledger

open GreenTyper.Lib

/-! ## Reading fields -/

theorem bytes_append {c : BodyCursor} {pre x r : List Byte} (h : c.At pre (x ++ r))
    (hlen : (pre ++ (x ++ r)).length < 2 ^ 64) (field : String) :
    ∃ c', BodyCursor.bytes c x.length field = .ok (x, c') ∧ c'.At (pre ++ x) r := by
  obtain ⟨c', hc, hat⟩ := Cursor.read_append h
  refine ⟨c', ?_, hat⟩
  have hadd : checkedAdd 64 c.position x.length = some (c.position + x.length) := by
    simp only [List.length_append] at hlen
    simp only [checkedAdd_some, h.2, and_true]
    omega
  simp [BodyCursor.bytes, hadd, hc]

theorem uint_append {c : BodyCursor} {pre r : List Byte} {n v : Nat} (h : c.At pre (leBytes n v ++ r))
    (hlen : (pre ++ (leBytes n v ++ r)).length < 2 ^ 64) (hv : v < 256 ^ n) (field : String) :
    ∃ c', BodyCursor.uint c n field = .ok (v, c') ∧ c'.At (pre ++ leBytes n v) r := by
  obtain ⟨c', hc, hat⟩ := bytes_append h hlen field
  rw [leBytes_length] at hc
  exact ⟨c', by simp [BodyCursor.uint, hc, leNat_leBytes hv, pure, Except.pure], hat⟩

theorem bytes_ok {c c' : BodyCursor} {pre r x : List Byte} {n : Nat} {field : String} (h : c.At pre r)
    (hr : BodyCursor.bytes c n field = .ok (x, c')) : x.length = n ∧ ∃ r', r = x ++ r' ∧ c'.At (pre ++ x) r' := by
  simp only [BodyCursor.bytes, bind_ok, okOr_ok] at hr
  obtain ⟨_, _, hr⟩ := hr
  exact Cursor.read_some h hr

theorem uint_ok {c c' : BodyCursor} {pre r : List Byte} {n v : Nat} {field : String} (h : c.At pre r)
    (hr : BodyCursor.uint c n field = .ok (v, c')) :
    v < 256 ^ n ∧ ∃ r', r = leBytes n v ++ r' ∧ c'.At (pre ++ leBytes n v) r' := by
  simp only [BodyCursor.uint, bind_ok, pure, Except.pure, Except.ok.injEq, Prod.mk.injEq, Prod.exists] at hr
  obtain ⟨x, d, hx, rfl, rfl⟩ := hr
  obtain ⟨hn, r', hr, hat⟩ := bytes_ok h hx
  have hle : leBytes n (leNat x) = x := leBytes_of_leNat hn rfl
  exact ⟨hn ▸ leNat_lt x, r', by rw [hle, hr], by rw [hle]; exact hat⟩

/-! ## One event -/

def payloadSum (events : List EventData) : Nat := (events.map (·.payload.length)).sum

@[simp] theorem payloadSum_nil : payloadSum [] = 0 := rfl
@[simp] theorem payloadSum_cons (e : EventData) (es : List EventData) :
    payloadSum (e :: es) = e.payload.length + payloadSum es := by simp [payloadSum]

theorem checkedReplayPayloadBytes_ok {a b t : Nat} :
    checkedReplayPayloadBytes a b = .ok t ↔ t = a + b ∧ a + b ≤ maxReplayPayloadBytes := by
  simp only [checkedReplayPayloadBytes, bind_ok, okOr_ok, checkedAdd_some, require_ok, exists_const, pure, Except.pure,
    Except.ok.injEq]
  constructor
  · rintro ⟨_, ⟨_, rfl⟩, hle, rfl⟩; exact ⟨rfl, hle⟩
  · rintro ⟨rfl, hle⟩
    refine ⟨a + b, ⟨?_, rfl⟩, hle, rfl⟩
    simp only [maxReplayPayloadBytes] at hle
    omega

theorem validateEvent_ok {e : EventData} :
    validateEvent e = .ok () ↔ e.schema ≠ 0 ∧ e.kind ≠ 0 ∧ e.payload.length ≤ maxEventPayloadBytes := by
  simp [validateEvent, bind_ok]

theorem decodeEvent_encode {t f count i p : Nat} {e : EventData} {bytes : List Byte} {stored : StoredEvent}
    {c : BodyCursor} {pre r : List Byte} (he : encodeEvent t f count i e = .ok (bytes, stored))
    (hv : validateEvent e = .ok ()) (hcount : count < 2 ^ 32) (hp : p + e.payload.length ≤ maxReplayPayloadBytes)
    (hat : c.At pre (bytes ++ r)) (hlen : (pre ++ (bytes ++ r)).length < 2 ^ 64) :
    ∃ c', decodeEvent t f count i c p = .ok (stored, c', p + e.payload.length) ∧ c'.At (pre ++ bytes) r := by
  simp only [encodeEvent, bind_ok, require_ok, okOr_ok, checkedAdd_some, exists_const, pure, Except.pure,
    Except.ok.injEq, Prod.mk.injEq] at he
  obtain ⟨hi, _, ⟨hseq, rfl⟩, hpl, rfl, rfl⟩ := he
  obtain ⟨hs, hk, hmax⟩ := validateEvent_ok.mp hv
  simp only [List.append_assoc] at hat hlen
  -- Each field is read off the front of what is left; the cursor's place moves past it.
  obtain ⟨c1, e1, a1⟩ := uint_append hat hlen (by omega) "event sequence"
  obtain ⟨c2, e2, a2⟩ := uint_append a1 (by simpa using hlen) (by omega) "event index"
  obtain ⟨c3, e3, a3⟩ := uint_append a2 (by simpa using hlen) (by omega) "event total"
  obtain ⟨c4, e4, a4⟩ := uint_append a3 (by simpa using hlen) (e.schema.toNat_lt) "event schema"
  obtain ⟨c5, e5, a5⟩ := uint_append a4 (by simpa using hlen) (e.kind.toNat_lt) "event kind"
  obtain ⟨c6, e6, a6⟩ := uint_append a5 (by simpa using hlen) (by omega) "event payload length"
  obtain ⟨c7, e7, a7⟩ := bytes_append a6 (by simpa using hlen) "event payload"
  have hadd : checkedAdd 64 f i = some (f + i) := checkedAdd_some.mpr ⟨hseq, rfl⟩
  have htotal := checkedReplayPayloadBytes_ok.mpr ⟨rfl, hp⟩
  have hs' : e.schema.toNat ≠ 0 := fun h => hs (UInt16.toNat_inj.mp h)
  have hk' : e.kind.toNat ≠ 0 := fun h => hk (UInt16.toNat_inj.mp h)
  refine ⟨c7, ?_, by simpa using a7⟩
  simp [decodeEvent, e1, e2, e3, e4, e5, e6, e7, hadd, htotal, hs', hk', hmax, require, pure, Except.pure]

theorem decodeEvent_canonical {t f count i p p' : Nat} {stored : StoredEvent} {c c' : BodyCursor} {pre r : List Byte}
    (h : decodeEvent t f count i c p = .ok (stored, c', p')) (hat : c.At pre r) :
    ∃ bytes r', encodeEvent t f count i stored.data = .ok (bytes, stored) ∧ validateEvent stored.data = .ok () ∧
      p' = p + stored.data.payload.length ∧ p' ≤ maxReplayPayloadBytes ∧ r = bytes ++ r' ∧ c'.At (pre ++ bytes) r' := by
  simp only [decodeEvent, bind_ok, require_ok, okOr_ok, checkedAdd_some, exists_const, pure, Except.pure,
    Except.ok.injEq, Prod.mk.injEq, Prod.exists, checkedReplayPayloadBytes_ok] at h
  obtain ⟨seq, c1, e1, idx, c2, e2, tot, c3, e3, sch, c4, e4, kind, c5, e5, len, c6, e6, _, ⟨hseq, rfl⟩,
    ⟨rfl, rfl, rfl⟩, ⟨hs, hk⟩, hmax, _, ⟨rfl, hp⟩, payload, c7, e7, rfl, rfl, rfl⟩ := h
  obtain ⟨_, r1, rfl, a1⟩ := uint_ok hat e1
  obtain ⟨hidx, r2, rfl, a2⟩ := uint_ok a1 e2
  obtain ⟨_, r3, rfl, a3⟩ := uint_ok a2 e3
  obtain ⟨hsch, r4, rfl, a4⟩ := uint_ok a3 e4
  obtain ⟨hkind, r5, rfl, a5⟩ := uint_ok a4 e5
  obtain ⟨hl, r6, rfl, a6⟩ := uint_ok a5 e6
  obtain ⟨rfl, r7, rfl, a7⟩ := bytes_ok a6 e7
  have hsch' : (UInt16.ofNat sch).toNat = sch := UInt16.toNat_ofNat_of_lt hsch
  have hkind' : (UInt16.ofNat kind).toNat = kind := UInt16.toNat_ofNat_of_lt hkind
  refine ⟨leBytes 8 (f + idx) ++ (leBytes 4 idx ++ (leBytes 4 tot ++ (leBytes 2 sch ++ (leBytes 2 kind ++
    (leBytes 4 payload.length ++ payload))))), r7, ?_, ?_, rfl, hp, ?_, ?_⟩
  · simp only [encodeEvent]
    rw [require_bind (by omega)]
    simp only [checkedAdd, if_pos hseq, okOr_some, ok_bind]
    rw [require_bind (by omega), hsch', hkind']
    rfl
  · refine validateEvent_ok.mpr ⟨fun h => hs ?_, fun h => hk ?_, hmax⟩
    · rw [← hsch']; exact congrArg UInt16.toNat h
    · rw [← hkind']; exact congrArg UInt16.toNat h
  · simp
  · simpa [hsch', hkind'] using a7

/-! ## The events of a transaction -/

theorem validateEvents_ok {es : List EventData} :
    validateEvents es = .ok () ↔
      es ≠ [] ∧ es.length ≤ maxEventsPerTransaction ∧ ∀ e ∈ es, validateEvent e = .ok () := by
  simp only [validateEvents, bind_ok, require_ok, exists_const, forM_ok]

theorem decodeEvents_encode {t f count : Nat} (hcount : count < 2 ^ 32) (es : List EventData) :
    ∀ {i p : Nat} {bytes : List Byte} {stored : List StoredEvent} {c : BodyCursor} {pre r : List Byte},
      encodeEvents t f count i es = .ok (bytes, stored) → (∀ e ∈ es, validateEvent e = .ok ()) →
      p + payloadSum es ≤ maxReplayPayloadBytes → c.At pre (bytes ++ r) → (pre ++ (bytes ++ r)).length < 2 ^ 64 →
      ∃ c', decodeEvents t f count es.length i c p = .ok (stored, c', p + payloadSum es) ∧ c'.At (pre ++ bytes) r := by
  induction es with
  | nil =>
    intro i p bytes stored c pre r he _ _ hat _
    simp only [encodeEvents, pure, Except.pure, Except.ok.injEq, Prod.mk.injEq] at he
    obtain ⟨rfl, rfl⟩ := he
    exact ⟨c, rfl, by simpa using hat⟩
  | cons e es ih =>
    intro i p bytes stored c pre r he hv hp hat hlen
    simp only [encodeEvents, bind_ok, pure, Except.pure, Except.ok.injEq, Prod.mk.injEq, Prod.exists] at he
    obtain ⟨b, s, he, bs, ss, hes, rfl, rfl⟩ := he
    simp only [payloadSum_cons] at hp
    rw [List.append_assoc] at hat hlen
    obtain ⟨c1, h1, a1⟩ := decodeEvent_encode (p := p) he (hv e (by simp)) hcount (by omega) hat hlen
    obtain ⟨c2, h2, a2⟩ := ih (p := p + e.payload.length) hes (fun x hx => hv x (by simp [hx]))
      (by omega) a1
      (by simpa using hlen)
    refine ⟨c2, ?_, by simpa using a2⟩
    simp [decodeEvents, h1, h2, pure, Except.pure, Nat.add_assoc]

theorem decodeEvents_canonical {t f count : Nat} (n : Nat) :
    ∀ {i p p' : Nat} {stored : List StoredEvent} {c c' : BodyCursor} {pre r : List Byte},
      decodeEvents t f count n i c p = .ok (stored, c', p') → c.At pre r → p ≤ maxReplayPayloadBytes →
      ∃ bytes r', encodeEvents t f count i (stored.map (·.data)) = .ok (bytes, stored) ∧ stored.length = n ∧
        (∀ e ∈ stored, validateEvent e.data = .ok ()) ∧ p' = p + payloadSum (stored.map (·.data)) ∧
        p' ≤ maxReplayPayloadBytes ∧ r = bytes ++ r' ∧ c'.At (pre ++ bytes) r' := by
  induction n with
  | zero =>
    intro i p p' stored c c' pre r h hat hp
    simp only [decodeEvents, pure, Except.pure, Except.ok.injEq, Prod.mk.injEq] at h
    obtain ⟨rfl, rfl, rfl⟩ := h
    exact ⟨[], r, rfl, rfl, by simp, rfl, hp, rfl, by simpa using hat⟩
  | succ n ih =>
    intro i p p' stored c c' pre r h hat hp
    simp only [decodeEvents, bind_ok, pure, Except.pure, Except.ok.injEq, Prod.mk.injEq, Prod.exists] at h
    obtain ⟨s, c1, p1, h1, ss, c2, p2, h2, rfl, rfl, rfl⟩ := h
    obtain ⟨b, r1, he, hv, rfl, hp1, rfl, a1⟩ := decodeEvent_canonical h1 hat
    obtain ⟨bs, r2, hes, hn, hvs, rfl, hp2, rfl, a2⟩ := ih h2 a1 hp1
    refine ⟨b ++ bs, r2, ?_, by simp [hn], ?_, by simp [Nat.add_assoc], hp2, by simp, by simpa using a2⟩
    · simp [encodeEvents, he, hes, pure, Except.pure]
    · intro e hm
      rcases List.mem_cons.mp hm with rfl | hm
      · exact hv
      · exact hvs e hm

/-! ## A transaction -/

/-- Events of one transaction as they are stored, from the one at `i` on. -/
def storedFrom (t f count i : Nat) (es : List EventData) : List StoredEvent :=
  (es.zipIdx i).map fun (event, index) => ⟨f + index, t, index, count, event⟩

theorem encodeEvents_stored {t f count : Nat} (es : List EventData) :
    ∀ {i : Nat} {bytes : List Byte} {stored : List StoredEvent},
      encodeEvents t f count i es = .ok (bytes, stored) → stored = storedFrom t f count i es := by
  induction es with
  | nil =>
    intro i bytes stored h
    simp only [encodeEvents, pure, Except.pure, Except.ok.injEq, Prod.mk.injEq] at h
    exact h.2.symm
  | cons e es ih =>
    intro i bytes stored h
    simp only [encodeEvents, encodeEvent, bind_ok, require_ok, okOr_ok, checkedAdd_some, exists_const, pure, Except.pure,
      Except.ok.injEq, Prod.mk.injEq, Prod.exists] at h
    obtain ⟨b, s, ⟨_, _, ⟨_, rfl⟩, _, rfl, rfl⟩, bs, ss, hes, rfl, rfl⟩ := h
    rw [ih hes]
    rfl

theorem storedFrom_data (t f count i : Nat) (es : List EventData) : (storedFrom t f count i es).map (·.data) = es := by
  rw [storedFrom, List.map_map]
  exact List.zipIdx_map_fst i es

theorem storedFrom_length (t f count i : Nat) (es : List EventData) : (storedFrom t f count i es).length = es.length := by
  rw [storedFrom, List.length_map, List.length_zipIdx]

theorem storedFrom_transaction {t f count i : Nat} {es : List EventData} {e : StoredEvent}
    (h : e ∈ storedFrom t f count i es) : e.transaction = t := by
  obtain ⟨_, _, rfl⟩ := List.mem_map.mp h
  rfl

/-- The body of a transaction's frame. -/
def bodyOf (transaction firstSequence count : Nat) (encoded : List Byte) : List Byte :=
  leBytes 8 transaction ++ (leBytes 8 firstSequence ++ (leBytes 4 count ++ encoded))

theorem encodeTransaction_ok {t f : Nat} {es : List EventData} {frame : List Byte} {stored : List StoredEvent}
    {receipt : DurabilityReceipt} :
    encodeTransaction t f es = .ok (frame, stored, receipt) ↔
      ∃ encoded, encodeEvents t f es.length 0 es = .ok (encoded, stored) ∧
        (bodyOf t f es.length encoded).length ≤ maxFrameBodyBytes ∧ f + (es.length - 1) < 2 ^ 64 ∧
        frame = frameOf (bodyOf t f es.length encoded) ∧
        receipt = ⟨t, f, f + (es.length - 1), es.length, crc32c (bodyOf t f es.length encoded)⟩ ∧ es.length < 2 ^ 32 := by
  simp only [encodeTransaction, bind_ok, require_ok, okOr_ok, checkedAdd_some, exists_const, pure, Except.pure,
    Except.ok.injEq, Prod.mk.injEq, Prod.exists]
  constructor
  · rintro ⟨hlen, encoded, st, he, hb, _, last, ⟨hl, rfl⟩, rfl, rfl, rfl⟩
    exact ⟨encoded, he, hb, hl, rfl, rfl, hlen⟩
  · rintro ⟨encoded, he, hb, hl, rfl, rfl, hlen⟩
    refine ⟨hlen, encoded, stored, he, hb, ?_, _, ⟨hl, rfl⟩, rfl, rfl, rfl⟩
    simp only [bodyOf, maxFrameBodyBytes] at hb
    omega

/-- The scan's view of a Ledger: what opening it again should find. -/
def FileLedger.scan (ledger : FileLedger) : ScanResult :=
  ⟨ledger.head, ledger.events, ledger.file.length, ledger.payloadBytes⟩

/-- What `prepareAppend` checked, and what it encoded. -/
theorem prepareAppend_ok {ledger : FileLedger} {es : List EventData} {frame : List Byte} {stored : List StoredEvent}
    {receipt : DurabilityReceipt} {p : Nat} :
    ledger.prepareAppend ledger.head es = .ok (frame, stored, receipt, p) ↔
      ledger.poisoned = false ∧ validateEvents es = .ok () ∧ ledger.events.length + es.length ≤ maxReplayEvents ∧
        p = ledger.payloadBytes + payloadSum es ∧ p ≤ maxReplayPayloadBytes ∧
        ledger.head.transaction + 1 < 2 ^ 64 ∧ ledger.head.sequence + 1 < 2 ^ 64 ∧
        encodeTransaction (ledger.head.transaction + 1) (ledger.head.sequence + 1) es = .ok (frame, stored, receipt) := by
  have hsum : ∀ (l : List EventData) (a t : Nat),
      l.foldlM (fun total (event : EventData) => okOr (checkedAdd 64 total event.payload.length)
        LedgerError.integerOverflow) a = Except.ok t ↔ t = a + payloadSum l ∧ (l ≠ [] → t < 2 ^ 64) := by
    intro l
    induction l with
    | nil => intro a t; simp [pure, Except.pure, eq_comm]
    | cons e l ih =>
      intro a t
      simp only [List.foldlM_cons, bind_ok, okOr_ok, checkedAdd_some, ih, payloadSum_cons]
      constructor
      · rintro ⟨_, ⟨h, rfl⟩, rfl, h'⟩
        refine ⟨by omega, fun _ => ?_⟩
        rcases l with _ | ⟨x, l⟩
        · simpa using h
        · exact h' (by simp)
      · rintro ⟨rfl, h⟩
        have := h (by simp)
        exact ⟨_, ⟨by omega, rfl⟩, by omega, fun _ => this⟩
  simp only [FileLedger.prepareAppend, bind_ok, require_ok, okOr_ok, checkedAdd_some, exists_const, pure, Except.pure,
    Except.ok.injEq, Prod.mk.injEq, Prod.exists, hsum, checkedReplayPayloadBytes_ok]
  constructor
  · rintro ⟨hpo, -, ⟨⟩, hv, _, ⟨_, rfl⟩, hev, _, ⟨rfl, _⟩, _, ⟨rfl, hp⟩, _, ⟨ht, rfl⟩, _, ⟨hs, rfl⟩, _, _, _, he,
      rfl, rfl, rfl, rfl⟩
    exact ⟨hpo, hv, hev, by omega, by omega, ht, hs, he⟩
  · rintro ⟨hpo, hv, hev, rfl, hp, ht, hs, he⟩
    simp only [maxReplayEvents, maxReplayPayloadBytes] at hev hp
    refine ⟨hpo, trivial, (), hv, _, ⟨by omega, rfl⟩, hev, _, ⟨rfl, fun _ => by omega⟩, _, ⟨rfl, by simpa [maxReplayPayloadBytes] using hp⟩, _,
      ⟨ht, rfl⟩, _, ⟨hs, rfl⟩, _, _, _, he, rfl, rfl, rfl, by omega⟩

theorem decodeTransaction_encode {previous : LedgerHead} {n p : Nat} {es : List EventData} {frame : List Byte}
    {stored : List StoredEvent} {receipt : DurabilityReceipt}
    (he : encodeTransaction (previous.transaction + 1) (previous.sequence + 1) es = .ok (frame, stored, receipt))
    (hv : validateEvents es = .ok ()) (hn : n + es.length ≤ maxReplayEvents)
    (hp : p + payloadSum es ≤ maxReplayPayloadBytes) (ht : previous.transaction + 1 < 2 ^ 64)
    (hs : previous.sequence + 1 < 2 ^ 64) :
    ∃ body, frame = frameOf body ∧ body.length ≤ maxFrameBodyBytes ∧ body.length ≠ 0 ∧
      decodeTransaction body previous n p =
        .ok ⟨⟨receipt.transaction, receipt.lastSequence⟩, stored, p + payloadSum es⟩ := by
  obtain ⟨encoded, hes, hb, hl, rfl, rfl, hlen⟩ := encodeTransaction_ok.mp he
  obtain ⟨hne, hmax, hall⟩ := validateEvents_ok.mp hv
  refine ⟨_, rfl, hb, by simp [bodyOf], ?_⟩
  have hbl : (bodyOf (previous.transaction + 1) (previous.sequence + 1) es.length encoded).length < 2 ^ 64 := by
    simp only [maxFrameBodyBytes] at hb; omega
  generalize hbody : bodyOf (previous.transaction + 1) (previous.sequence + 1) es.length encoded = body at hbl
  have a0 := Cursor.at_new body
  rw [← hbody, bodyOf] at hbl
  have a0' : (Cursor.new body).At [] (leBytes 8 (previous.transaction + 1) ++ (leBytes 8 (previous.sequence + 1) ++
      (leBytes 4 es.length ++ (encoded ++ [])))) := by
    rw [List.append_nil]
    exact hbody ▸ a0
  obtain ⟨c1, e1, a1⟩ := uint_append a0' (by simpa using hbl) (by omega) "transaction id"
  obtain ⟨c2, e2, a2⟩ := uint_append a1 (by simpa using hbl) (by omega) "first sequence"
  obtain ⟨c3, e3, a3⟩ := uint_append a2 (by simpa using hbl) (by omega) "event count"
  obtain ⟨c4, e4, a4⟩ := decodeEvents_encode hlen es hes hall hp a3 (by simpa using hbl)
  have hcount : es.length ≠ 0 := fun h => hne (List.eq_nil_of_length_eq_zero h)
  have h1 : checkedAdd 64 previous.transaction 1 = some (previous.transaction + 1) := checkedAdd_some.mpr ⟨ht, rfl⟩
  have h2 : checkedAdd 64 previous.sequence 1 = some (previous.sequence + 1) := checkedAdd_some.mpr ⟨hs, rfl⟩
  have h3 : checkedAdd 64 n es.length = some (n + es.length) := by
    refine checkedAdd_some.mpr ⟨?_, rfl⟩
    simp only [maxReplayEvents] at hn; omega
  have h4 : checkedAdd 64 (previous.sequence + 1) (es.length - 1) = some (previous.sequence + 1 + (es.length - 1)) :=
    checkedAdd_some.mpr ⟨hl, rfl⟩
  have h5 : c4.isEmpty = true := (Cursor.at_isEmpty a4).mpr rfl
  simp [decodeTransaction, e1, e2, e3, e4, h1, h2, h3, h4, h5, hcount, hmax, hn, require, pure, Except.pure]

theorem decodeTransaction_canonical {previous : LedgerHead} {n p : Nat} {body : List Byte} {d : DecodedTransaction}
    (h : decodeTransaction body previous n p = .ok d) (hb : body.length ≤ maxFrameBodyBytes)
    (hp : p ≤ maxReplayPayloadBytes) :
    ∃ receipt, validateEvents (d.events.map (·.data)) = .ok () ∧ n + d.events.length ≤ maxReplayEvents ∧
      d.payloadBytes = p + payloadSum (d.events.map (·.data)) ∧ d.payloadBytes ≤ maxReplayPayloadBytes ∧
      previous.transaction + 1 < 2 ^ 64 ∧ previous.sequence + 1 < 2 ^ 64 ∧
      d.head = ⟨receipt.transaction, receipt.lastSequence⟩ ∧
      encodeTransaction (previous.transaction + 1) (previous.sequence + 1) (d.events.map (·.data)) =
        .ok (frameOf body, d.events, receipt) := by
  simp only [decodeTransaction, bind_ok, require_ok, okOr_ok, checkedAdd_some, exists_const, pure, Except.pure,
    Except.ok.injEq, Prod.exists] at h
  obtain ⟨tx, c1, e1, seq, c2, e2, count, c3, e3, ⟨h0, hmax⟩, _, ⟨ht, rfl⟩, rfl, _, ⟨hs, rfl⟩, rfl, _, ⟨_, rfl⟩, hn,
    evs, c4, p', e4, h5, _, ⟨hl, rfl⟩, rfl⟩ := h
  obtain ⟨_, r1, hbody, a1⟩ := uint_ok (Cursor.at_new body) e1
  obtain ⟨_, r2, rfl, a2⟩ := uint_ok a1 e2
  obtain ⟨hc, r3, rfl, a3⟩ := uint_ok a2 e3
  obtain ⟨bytes, r4, henc, rfl, hall, rfl, hp', rfl, a4⟩ := decodeEvents_canonical count e4 a3 hp
  obtain rfl := (Cursor.at_isEmpty a4).mp h5
  rw [List.append_nil] at hbody
  refine ⟨⟨previous.transaction + 1, previous.sequence + 1, previous.sequence + 1 + (evs.length - 1), evs.length,
    crc32c body⟩, ?_, hn, rfl, hp', ht, hs, rfl, ?_⟩
  · refine validateEvents_ok.mpr ⟨?_, by simpa using hmax, by simpa using hall⟩
    intro hnil
    exact h0 (by simpa using congrArg List.length hnil)
  · refine encodeTransaction_ok.mpr ⟨bytes, by simpa using henc, ?_, by simpa using hl, ?_, ?_, by simpa using hc⟩
    all_goals simp [bodyOf, ← hbody, hb]

end GreenTyper.Ledger
