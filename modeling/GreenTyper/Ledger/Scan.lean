/-
  GreenTyper.Ledger.Scan — what one turn of the scan makes of a frame (see
  `GreenTyper.Ledger.Format`), and the scan of a file that appends wrote.

  A whole frame is decoded, never torn (`scanFrame_frame`); a proper prefix of a frame is
  torn (`scanFrame_torn`); and what the scan takes for a frame is one, byte for byte
  (`scanFrame_canonical`). A scan that has read a Ledger's bytes goes on over what was
  appended to it (`scanFrom_appendAll`).
-/

import GreenTyper.Ledger.Codec

namespace GreenTyper.Ledger

open GreenTyper.Lib

/-! ## One frame -/

@[simp] theorem frameOf_length (body : List Byte) : (frameOf body).length = body.length + 20 := by
  simp [frameOf, transactionMagic, commitMagic]; omega

theorem notU32_lt (x : Nat) : notU32 x < 2 ^ 32 := by unfold notU32; omega

theorem notU32_inj {x y : Nat} (hx : x < 2 ^ 32) (hy : y < 2 ^ 32) (h : notU32 x = notU32 y) : x = y := by
  unfold notU32 at h; omega

/-- The first checks of a turn, on its three leading words. -/
theorem scanFrame_words {m l c r : List Byte} (hm : m.length = 4) (hl : l.length = 4) (hc : c.length = 4)
    (s : ScanResult) :
    scanFrame (m ++ (l ++ (c ++ r))) s = (do
      require (m = transactionMagic) (.corrupt s.validBytes "invalid transaction magic")
      require (leNat c = notU32 (leNat l)) (.corrupt (s.validBytes + 8) "transaction frame length check mismatch")
      require (leNat l ≠ 0 ∧ leNat l ≤ maxFrameBodyBytes)
        (.corrupt (s.validBytes + 4) "transaction frame length is out of bounds")
      if r.length < leNat l + 8 then .ok .torn
      else do
        require ((crc32c (r.take (leNat l))).toNat = leNat ((r.drop (leNat l)).take 4))
          (.corrupt (s.validBytes + 12 + leNat l) "transaction checksum mismatch")
        require ((r.drop (leNat l + 4)).take 4 = commitMagic)
          (.corrupt (s.validBytes + (4 + 4 + 4 + leNat l + 4 + 4) - 4) "transaction commit marker is invalid")
        let decoded ← decodeTransaction (r.take (leNat l)) s.head s.events.length s.payloadBytes
        return .frame (leNat l) decoded) := by
  have h4 : ¬ 12 + r.length < 4 := by omega
  have h12 : ¬ 12 + r.length < 12 := by omega
  have hlen : (m ++ (l ++ (c ++ r))).length = 12 + r.length := by simp; omega
  have hd4 : (m ++ (l ++ (c ++ r))).drop 4 = l ++ (c ++ r) := List.drop_left' hm
  have hd8 : (m ++ (l ++ (c ++ r))).drop 8 = c ++ r := by
    rw [← List.append_assoc]; exact List.drop_left' (by simp [hm, hl])
  have hd12 : ∀ k, (m ++ (l ++ (c ++ r))).drop (12 + k) = r.drop k := by
    intro k
    rw [← List.append_assoc, ← List.append_assoc, ← List.drop_drop, List.drop_left' (by simp [hm, hl, hc])]
  have hd12' : (m ++ (l ++ (c ++ r))).drop 12 = r := hd12 0
  have hd16 : (m ++ (l ++ (c ++ r))).drop (12 + leNat l + 4) = r.drop (leNat l + 4) := by rw [Nat.add_assoc, hd12]
  have htorn : 12 + r.length < 4 + 4 + 4 + leNat l + 4 + 4 ↔ r.length < leNat l + 8 := by omega
  simp only [scanFrame, h4, h12, hlen, if_false, hd4, hd8, hd12, hd12', hd16, List.take_left' hm, List.take_left' hl,
    List.take_left' hc, htorn]

/-- A turn on a frame's parts, the length word being the body's. -/
theorem scanFrame_parts {m l c body k e : List Byte} (hm : m.length = 4) (hl : l.length = 4) (hc : c.length = 4)
    (hk : k.length = 4) (he : e.length = 4) (hbody : leNat l = body.length) (r : List Byte) (s : ScanResult) :
    scanFrame (m ++ (l ++ (c ++ (body ++ (k ++ (e ++ r)))))) s = (do
      require (m = transactionMagic) (.corrupt s.validBytes "invalid transaction magic")
      require (leNat c = notU32 body.length) (.corrupt (s.validBytes + 8) "transaction frame length check mismatch")
      require (body.length ≠ 0 ∧ body.length ≤ maxFrameBodyBytes)
        (.corrupt (s.validBytes + 4) "transaction frame length is out of bounds")
      require ((crc32c body).toNat = leNat k)
        (.corrupt (s.validBytes + 12 + body.length) "transaction checksum mismatch")
      require (e = commitMagic)
        (.corrupt (s.validBytes + (4 + 4 + 4 + body.length + 4 + 4) - 4) "transaction commit marker is invalid")
      let decoded ← decodeTransaction body s.head s.events.length s.payloadBytes
      return .frame body.length decoded) := by
  have hlen : ¬ (body ++ (k ++ (e ++ r))).length < body.length + 8 := by simp; omega
  have hd4 : (body ++ (k ++ (e ++ r))).drop (body.length + 4) = e ++ r := by
    rw [← List.append_assoc]; exact List.drop_left' (by simp [hk])
  rw [scanFrame_words hm hl hc, hbody]
  simp only [hlen, if_false, List.take_left, List.drop_left, List.take_left' hk, hd4, List.take_left' he]

variable {body : List Byte}

theorem length_word (hmax : body.length ≤ maxFrameBodyBytes) : leNat (leBytes 4 body.length) = body.length := by
  apply leNat_leBytes
  simp only [maxFrameBodyBytes] at hmax; omega

theorem complement_word (n : Nat) : leNat (leBytes 4 (notU32 n)) = notU32 n := leNat_leBytes (notU32_lt n)

theorem checksum_word (body : List Byte) : leNat (leBytes 4 (crc32c body).toNat) = (crc32c body).toNat :=
  leNat_leBytes (crc32c body).isLt

/-- A whole frame is decoded: it is never taken for a torn one. -/
theorem scanFrame_frame (h0 : body.length ≠ 0) (hmax : body.length ≤ maxFrameBodyBytes) (r : List Byte)
    (s : ScanResult) :
    scanFrame (frameOf body ++ r) s =
      (decodeTransaction body s.head s.events.length s.payloadBytes).map (ScanStep.frame body.length) := by
  have hparts := scanFrame_parts rfl (leBytes_length 4 body.length) (leBytes_length 4 (notU32 body.length))
    (leBytes_length 4 (crc32c body).toNat) rfl (length_word hmax) r s (m := transactionMagic) (e := commitMagic)
  rw [require_bind rfl, complement_word, require_bind rfl, require_bind ⟨h0, hmax⟩, checksum_word, require_bind rfl,
    require_bind rfl] at hparts
  simp only [frameOf, List.append_assoc]
  rw [hparts]
  cases decodeTransaction body s.head s.events.length s.payloadBytes <;> rfl

/-- A proper prefix of a frame is torn. -/
theorem scanFrame_torn (h0 : body.length ≠ 0) (hmax : body.length ≤ maxFrameBodyBytes) {n : Nat}
    (hn : n < (frameOf body).length) (s : ScanResult) : scanFrame ((frameOf body).take n) s = .ok .torn := by
  have hlen : ((frameOf body).take n).length = n := by rw [List.length_take]; omega
  rcases Nat.lt_or_ge n 4 with h4 | h4
  · simp [scanFrame, hlen, h4]
  rcases Nat.lt_or_ge n 12 with h12 | h12
  · have hm : ((frameOf body).take n).take 4 = transactionMagic := by
      rw [List.take_take, Nat.min_eq_left h4]; rfl
    simp only [scanFrame, hlen, if_neg (Nat.not_lt.mpr h4), hm, require_bind, if_pos h12]
  · -- The three leading words are there; what follows them is short.
    obtain ⟨k, rfl⟩ := Nat.exists_eq_add_of_le h12
    have htake : (frameOf body).take (12 + k) = transactionMagic ++ (leBytes 4 body.length ++
        (leBytes 4 (notU32 body.length) ++ (body ++ (leBytes 4 (crc32c body).toNat ++ commitMagic)).take k)) := by
      have hpre : (transactionMagic ++ (leBytes 4 body.length ++ leBytes 4 (notU32 body.length))).length = 12 := by
        simp [transactionMagic]
      have hframe : frameOf body = (transactionMagic ++ (leBytes 4 body.length ++ leBytes 4 (notU32 body.length))) ++
          (body ++ (leBytes 4 (crc32c body).toNat ++ commitMagic)) := by simp [frameOf]
      rw [hframe, ← hpre, List.take_length_add_append, List.append_assoc, List.append_assoc]
    have hk : ((body ++ (leBytes 4 (crc32c body).toNat ++ commitMagic)).take k).length < body.length + 8 := by
      rw [frameOf_length] at hn
      rw [List.length_take]; omega
    rw [htake, scanFrame_words rfl (leBytes_length 4 _) (leBytes_length 4 _), require_bind rfl, length_word hmax,
      complement_word, require_bind rfl, require_bind ⟨h0, hmax⟩, if_pos hk]

/-- What the scan takes for a frame is one. -/
theorem scanFrame_canonical {rest : List Byte} {s : ScanResult} {n : Nat} {d : DecodedTransaction}
    (h : scanFrame rest s = .ok (.frame n d)) :
    ∃ body r, rest = frameOf body ++ r ∧ body.length = n ∧ n ≠ 0 ∧ n ≤ maxFrameBodyBytes ∧
      decodeTransaction body s.head s.events.length s.payloadBytes = .ok d := by
  by_cases h4 : rest.length < 4
  · simp [scanFrame, h4] at h
  by_cases h12 : rest.length < 12
  · simp [scanFrame, h4, h12, bind_ok] at h
  -- Cut the three leading words off, and then the body and the two trailing words.
  have hm : (rest.take 4).length = 4 := by simp; omega
  have hl : ((rest.drop 4).take 4).length = 4 := by simp; omega
  have hc : ((rest.drop 8).take 4).length = 4 := by simp; omega
  have hrest : rest = rest.take 4 ++ ((rest.drop 4).take 4 ++ ((rest.drop 8).take 4 ++ rest.drop 12)) := by
    rw [show rest.drop 12 = (rest.drop 8).drop 4 by simp, List.take_append_drop,
      show rest.drop 8 = (rest.drop 4).drop 4 by simp, List.take_append_drop, List.take_append_drop]
  generalize rest.take 4 = m at *
  generalize (rest.drop 4).take 4 = l at *
  generalize (rest.drop 8).take 4 = c at *
  generalize rest.drop 12 = r at *
  rw [hrest, scanFrame_words hm hl hc] at h
  simp only [bind_ok, require_ok, exists_const] at h
  obtain ⟨rfl, hcomp, ⟨h0, hmax⟩, h⟩ := h
  split at h
  · cases h
  rename_i hlong
  simp only [bind_ok, require_ok, exists_const, pure, Except.pure, Except.ok.injEq, ScanStep.frame.injEq] at h
  obtain ⟨hcrc, hcommit, d', hd, rfl, rfl⟩ := h
  have hblen : (r.take (leNat l)).length = leNat l := by simp; omega
  refine ⟨r.take (leNat l), r.drop (leNat l + 8), ?_, hblen, h0, hmax, hd⟩
  have hr : r = r.take (leNat l) ++ ((r.drop (leNat l)).take 4 ++ ((r.drop (leNat l + 4)).take 4 ++
      r.drop (leNat l + 8))) := by
    rw [show r.drop (leNat l + 8) = (r.drop (leNat l + 4)).drop 4 by simp, List.take_append_drop,
      show r.drop (leNat l + 4) = (r.drop (leNat l)).drop 4 by simp, List.take_append_drop, List.take_append_drop]
  have hk4 : ((r.drop (leNat l)).take 4).length = 4 := by simp; omega
  rw [hrest, frameOf, hblen, leBytes_of_leNat hl rfl, leBytes_of_leNat hc hcomp, leBytes_of_leNat hk4 hcrc.symm]
  rw [← hcommit]
  simp only [List.append_assoc]
  rw [← hr]

/-! ## The scan of a file -/

theorem scanFrom_end {file : List Byte} {s : ScanResult} (h : file.length ≤ s.validBytes) : scanFrom file s = .ok s := by
  rw [scanFrom, if_neg (Nat.not_lt.mpr h)]

theorem scanFrom_torn {file : List Byte} {s : ScanResult} (h : scanFrame (file.drop s.validBytes) s = .ok .torn) :
    scanFrom file s = .ok s := by
  rw [scanFrom]
  split
  · simp [h]
  · rfl

theorem scanFrom_error {file : List Byte} {s : ScanResult} {e : LedgerError} (hlt : s.validBytes < file.length)
    (h : scanFrame (file.drop s.validBytes) s = .error e) : scanFrom file s = .error e := by
  rw [scanFrom, if_pos hlt, h]

theorem scanFrom_frame {file r : List Byte} {s : ScanResult} {d : DecodedTransaction}
    (hdrop : file.drop s.validBytes = frameOf body ++ r) (h0 : body.length ≠ 0) (hmax : body.length ≤ maxFrameBodyBytes)
    (hd : decodeTransaction body s.head s.events.length s.payloadBytes = .ok d) :
    scanFrom file s = scanFrom file (s.push body.length d) := by
  have hlt : s.validBytes < file.length := by
    have := congrArg List.length hdrop
    simp only [List.length_drop, List.length_append, frameOf_length] at this
    omega
  have hframe : scanFrame (file.drop s.validBytes) s = .ok (.frame body.length d) := by
    rw [hdrop, scanFrame_frame h0 hmax, hd]; rfl
  rw [scanFrom, if_pos hlt, hframe]

/-! ## Appends, as the scan sees them -/

namespace FileLedger

/-- A successful append writes one frame, and that frame decodes to what the append
    added in memory. -/
theorem append_synced {ledger L : FileLedger} {es : List EventData} {receipt : DurabilityReceipt}
    (h : ledger.append ledger.head es .synced = (.ok receipt, L)) :
    ∃ body d, body.length ≠ 0 ∧ body.length ≤ maxFrameBodyBytes ∧
      decodeTransaction body ledger.head ledger.events.length ledger.payloadBytes = .ok d ∧
      L = ⟨ledger.file ++ frameOf body, d.head, ledger.events ++ d.events, d.payloadBytes, ledger.poisoned⟩ ∧
      d.events.map (·.data) = es ∧ (∀ e ∈ d.events, e.transaction = ledger.head.transaction + 1) ∧
      d.head.transaction = ledger.head.transaction + 1 := by
  unfold append at h
  split at h
  · cases h
  rename_i frame stored receipt' p hp
  obtain ⟨rfl, rfl⟩ := h
  obtain ⟨_, hv, hn, rfl, hmax, ht, hs, he⟩ := prepareAppend_ok.mp hp
  obtain ⟨body, rfl, hb, h0, hd⟩ := decodeTransaction_encode he hv hn hmax ht hs
  obtain ⟨encoded, hes, _, _, _, rfl, _⟩ := encodeTransaction_ok.mp he
  rw [encodeEvents_stored es hes] at hd ⊢
  exact ⟨body, _, h0, hb, hd, rfl, storedFrom_data _ _ _ _ _, fun _ => storedFrom_transaction, rfl⟩

/-- What a successful append adds in memory. -/
theorem append_stored {ledger L : FileLedger} {es : List EventData} {receipt : DurabilityReceipt}
    (h : ledger.append ledger.head es .synced = (.ok receipt, L)) :
    ledger.poisoned = false ∧ validateEvents es = .ok () ∧ ledger.events.length + es.length ≤ maxReplayEvents ∧
      ledger.payloadBytes + payloadSum es ≤ maxReplayPayloadBytes ∧ L.poisoned = false ∧
      L.head = ⟨ledger.head.transaction + 1, ledger.head.sequence + 1 + (es.length - 1)⟩ ∧
      L.events = ledger.events ++ storedFrom (ledger.head.transaction + 1) (ledger.head.sequence + 1) es.length 0 es := by
  unfold append at h
  split at h
  · cases h
  rename_i frame stored receipt' p hp
  obtain ⟨rfl, rfl⟩ := h
  obtain ⟨hpoison, hv, hn, rfl, hmax, _, _, he⟩ := prepareAppend_ok.mp hp
  obtain ⟨encoded, hes, _, _, _, rfl, _⟩ := encodeTransaction_ok.mp he
  exact ⟨hpoison, hv, hn, hmax, hpoison, rfl, by rw [encodeEvents_stored es hes]⟩

/-- One event is appended wherever the Ledger has room for it. -/
theorem append_single {ledger : FileLedger} {e : EventData} (hp : ledger.poisoned = false) (hv : validateEvent e = .ok ())
    (hn : ledger.events.length + 1 ≤ maxReplayEvents) (hb : ledger.payloadBytes + e.payload.length ≤ maxReplayPayloadBytes)
    (ht : ledger.head.transaction + 1 < 2 ^ 64) (hs : ledger.head.sequence + 1 < 2 ^ 64) :
    ∃ receipt L, ledger.append ledger.head [e] .synced = (.ok receipt, L) := by
  have hlen : e.payload.length ≤ 1024 * 1024 := by
    simp only [validateEvent, bind_ok, require_ok, exists_const] at hv
    exact hv.2.2
  have hadd : checkedAdd 64 (ledger.head.sequence + 1) 0 = some (ledger.head.sequence + 1) := checkedAdd_some.mpr ⟨hs, rfl⟩
  obtain ⟨bytes, stored, hes, hbytes⟩ : ∃ bytes stored,
      encodeEvents (ledger.head.transaction + 1) (ledger.head.sequence + 1) 1 0 [e] = .ok (bytes, stored) ∧
        bytes.length = 24 + e.payload.length := by
    simp only [encodeEvents, encodeEvent, hadd, okOr_some, ok_bind, pure, Except.pure]
    rw [require_bind (by decide), require_bind (by omega)]
    exact ⟨_, _, rfl, by simp; omega⟩
  have hbody : (bodyOf (ledger.head.transaction + 1) (ledger.head.sequence + 1) 1 bytes).length ≤ maxFrameBodyBytes := by
    simp [bodyOf, hbytes, maxFrameBodyBytes]
    omega
  obtain ⟨frame, receipt, henc⟩ : ∃ frame receipt,
      encodeTransaction (ledger.head.transaction + 1) (ledger.head.sequence + 1) [e] = .ok (frame, stored, receipt) :=
    ⟨_, _, encodeTransaction_ok.mpr ⟨bytes, hes, hbody, hs, rfl, rfl, show 1 < 2 ^ 32 by decide⟩⟩
  have hvalid : validateEvents [e] = .ok () := by
    simp only [validateEvents]
    rw [require_bind (by simp), require_bind (show [e].length ≤ maxEventsPerTransaction from Nat.succ_le_of_lt (by decide))]
    exact forM_ok.mpr fun x hx => by rw [List.mem_singleton.mp hx]; exact hv
  have hprep : ledger.prepareAppend ledger.head [e] = .ok (frame, stored, receipt, ledger.payloadBytes + payloadSum [e]) :=
    prepareAppend_ok.mpr ⟨hp, hvalid, hn, rfl, by simpa using hb, ht, hs, henc⟩
  rw [append, hprep]
  exact ⟨_, _, rfl⟩

theorem scan_push {ledger : FileLedger} {body : List Byte} {d : DecodedTransaction} :
    scan ⟨ledger.file ++ frameOf body, d.head, ledger.events ++ d.events, d.payloadBytes, ledger.poisoned⟩ =
      ledger.scan.push body.length d := by
  simp [scan, ScanResult.push]

theorem appendAll_cons {ledger L : FileLedger} {es : List EventData} {batches : List (List EventData)} :
    ledger.appendAll (es :: batches) = .ok L ↔
      ∃ receipt L', ledger.append ledger.head es .synced = (.ok receipt, L') ∧ L'.appendAll batches = .ok L := by
  rw [appendAll]
  split
  · rename_i receipt L' h
    rw [h]
    exact ⟨fun hall => ⟨receipt, L', rfl, hall⟩, by rintro ⟨_, _, ⟨⟩, hall⟩; exact hall⟩
  · rename_i e L' h
    simp [h]

/-- A scan that has read a Ledger's bytes reads one appended frame next. -/
theorem scanFrom_append {ledger L : FileLedger} {es : List EventData} {receipt : DurabilityReceipt}
    (h : ledger.append ledger.head es .synced = (.ok receipt, L)) (r : List Byte) :
    scanFrom (L.file ++ r) ledger.scan = scanFrom (L.file ++ r) L.scan := by
  obtain ⟨body, d, h0, hmax, hd, rfl, _⟩ := append_synced h
  rw [scan_push]
  have hdrop : (ledger.file ++ frameOf body ++ r).drop ledger.scan.validBytes = frameOf body ++ r := by
    rw [List.append_assoc]
    exact List.drop_left
  exact scanFrom_frame hdrop h0 hmax hd

theorem file_extends {batches : List (List EventData)} :
    ∀ {ledger L : FileLedger}, ledger.appendAll batches = .ok L → ledger.file <+: L.file := by
  induction batches with
  | nil =>
    intro ledger L h
    cases h
    exact List.prefix_rfl
  | cons es batches ih =>
    intro ledger L h
    obtain ⟨receipt, L', h1, h2⟩ := appendAll_cons.mp h
    obtain ⟨body, d, _, _, _, rfl, _⟩ := append_synced h1
    exact (List.prefix_append ledger.file (frameOf body)).trans (ih h2)

theorem scanFrom_appendAll {batches : List (List EventData)} :
    ∀ {ledger L : FileLedger}, ledger.appendAll batches = .ok L →
      ∀ r, scanFrom (L.file ++ r) ledger.scan = scanFrom (L.file ++ r) L.scan := by
  induction batches with
  | nil =>
    intro ledger L h r
    cases h
    rfl
  | cons es batches ih =>
    intro ledger L h r
    obtain ⟨receipt, L', h1, h2⟩ := appendAll_cons.mp h
    obtain ⟨tail, htail⟩ := file_extends h2
    have hstep := scanFrom_append h1 (tail ++ r)
    rw [← List.append_assoc, htail] at hstep
    rw [hstep]
    exact ih h2 r

theorem scan_fresh : fresh.scan = .start := by
  have hlen : ledgerHeader.length = headerBytes := by
    simp [ledgerHeader, headerPrefix, headerMagic, headerBytes]
  simp [scan, fresh, ScanResult.start, hlen]

end FileLedger

end GreenTyper.Ledger
