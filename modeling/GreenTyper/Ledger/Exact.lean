/-
  GreenTyper.Ledger.Exact — replay against append (see `GreenTyper.Ledger.Recovery`).

  Scanning what appends wrote gives the Ledger they built in memory, and a file that the
  scan accepts to its last byte is, past its header, what appending the transactions it
  decoded writes (`replay_exact`). So every limit of an append is a limit of replay, and
  each list of transactions has one encoding.
-/

import GreenTyper.Ledger.Recovery

namespace GreenTyper.Ledger

open GreenTyper.Lib FileLedger

/-- The transactions of a scan, by their ids. -/
def ScanResult.transactions (scan : ScanResult) : List (List EventData) :=
  (List.range scan.head.transaction).map fun t =>
    (scan.events.filter (fun e => e.transaction == t + 1)).map (·.data)

/-- No event is of a transaction past the head. -/
def ScanResult.Numbered (scan : ScanResult) : Prop := ∀ e ∈ scan.events, e.transaction ≤ scan.head.transaction

theorem ScanResult.push_numbered {s : ScanResult} {n : Nat} {d : DecodedTransaction} (h : s.Numbered)
    (hd : ∀ e ∈ d.events, e.transaction = s.head.transaction + 1) (hh : d.head.transaction = s.head.transaction + 1) :
    (s.push n d).Numbered := by
  intro e he
  show e.transaction ≤ d.head.transaction
  rw [hh]
  rcases List.mem_append.mp he with he | he
  · exact Nat.le_succ_of_le (h e he)
  · exact Nat.le_of_eq (hd e he)

theorem ScanResult.push_transactions {s : ScanResult} {n : Nat} {d : DecodedTransaction} (h : s.Numbered)
    (hd : ∀ e ∈ d.events, e.transaction = s.head.transaction + 1) (hh : d.head.transaction = s.head.transaction + 1) :
    (s.push n d).transactions = s.transactions ++ [d.events.map (·.data)] := by
  have hold : ∀ t < s.head.transaction, d.events.filter (fun e => e.transaction == t + 1) = [] := by
    intro t ht
    rw [List.filter_eq_nil_iff]
    intro e he
    have := hd e he
    simp only [beq_iff_eq]
    omega
  have hnew : s.events.filter (fun e => e.transaction == s.head.transaction + 1) = [] := by
    rw [List.filter_eq_nil_iff]
    intro e he
    have := h e he
    simp only [beq_iff_eq]
    omega
  have hall : d.events.filter (fun e => e.transaction == s.head.transaction + 1) = d.events := by
    rw [List.filter_eq_self]
    intro e he
    simp [hd e he]
  simp only [ScanResult.transactions, ScanResult.push, hh, List.range_succ, List.map_append, List.filter_append,
    List.map_cons, List.map_nil, hnew, hall, List.nil_append]
  congr 1
  apply List.map_congr_left
  intro t ht
  rw [hold t (List.mem_range.mp ht), List.map_nil, List.append_nil]

theorem appendAll_transactions {batches : List (List EventData)} :
    ∀ {ledger L : FileLedger}, ledger.appendAll batches = .ok L → ledger.scan.Numbered →
      L.scan.transactions = ledger.scan.transactions ++ batches := by
  induction batches with
  | nil =>
    intro ledger L h _
    cases h
    simp
  | cons es batches ih =>
    intro ledger L h hnum
    obtain ⟨receipt, L', h1, h2⟩ := appendAll_cons.mp h
    obtain ⟨body, d, _, _, _, rfl, hdata, htx, hhead⟩ := append_synced h1
    have hpush := @scan_push ledger body d
    have hnum' := ScanResult.push_numbered (n := body.length) hnum htx hhead
    rw [ih h2 (hpush ▸ hnum'), hpush, ScanResult.push_transactions hnum htx hhead, hdata, List.append_assoc]
    rfl

/-- One frame the scan accepts is what an append of its events writes. -/
theorem append_of_scanFrame {rest : List Byte} {ledger : FileLedger} {n : Nat} {d : DecodedTransaction}
    (h : scanFrame rest ledger.scan = .ok (.frame n d)) (hp : ledger.poisoned = false)
    (hmax : ledger.payloadBytes ≤ maxReplayPayloadBytes) :
    ∃ body r receipt, rest = frameOf body ++ r ∧ body.length = n ∧ d.payloadBytes ≤ maxReplayPayloadBytes ∧
      ledger.append ledger.head (d.events.map (·.data)) .synced =
        (.ok receipt, ⟨ledger.file ++ frameOf body, d.head, ledger.events ++ d.events, d.payloadBytes, false⟩) := by
  obtain ⟨body, r, hrest, rfl, h0, hb, hd⟩ := scanFrame_canonical h
  obtain ⟨receipt, hv, hn, hpay, hpmax, ht, hs, hhead, henc⟩ := decodeTransaction_canonical hd hb hmax
  refine ⟨body, r, receipt, hrest, rfl, hpmax, ?_⟩
  have hn' : ledger.events.length + (d.events.map (·.data)).length ≤ maxReplayEvents := by
    rw [List.length_map]; exact hn
  have hprep : ledger.prepareAppend ledger.head (d.events.map (·.data)) =
      .ok (frameOf body, d.events, receipt, d.payloadBytes) :=
    prepareAppend_ok.mpr ⟨hp, hv, hn', hpay, hpmax, ht, hs, henc⟩
  rw [append, hprep, hhead, hp]

/-- From any point of a scan that ends with the file: the rest of the file is what
    appends of the transactions it decoded write. -/
theorem scanFrom_canonical (file : List Byte) (s : ScanResult) :
    ∀ {res : ScanResult} {ledger : FileLedger}, scanFrom file s = .ok res → ledger.scan = s → ledger.poisoned = false →
      s.payloadBytes ≤ maxReplayPayloadBytes → res.validBytes = file.length →
      ∃ batches L, ledger.appendAll batches = .ok L ∧ L.scan = res ∧ L.file = ledger.file ++ file.drop s.validBytes := by
  induction s using scanFrom.induct file with
  | case1 s hlt e he =>
    intro res ledger h
    rw [scanFrom_error hlt he] at h
    cases h
  | case2 s hlt htorn =>
    intro res ledger h hs _ _ hend
    rw [scanFrom_torn htorn] at h
    cases h
    exact absurd hend (Nat.ne_of_lt hlt)
  | case3 s hlt n d hframe ih =>
    intro res ledger h hs hp hmax hend
    subst hs
    rw [scanFrom, if_pos hlt, hframe] at h
    obtain ⟨body, r, receipt, hrest, rfl, hpmax, happ⟩ := append_of_scanFrame hframe hp hmax
    have hpush := @scan_push ledger body d
    rw [hp] at hpush
    obtain ⟨batches, L, hall, hL, hfile⟩ := ih h hpush rfl hpmax hend
    refine ⟨d.events.map (·.data) :: batches, L, appendAll_cons.mpr ⟨receipt, _, happ, hall⟩, hL, ?_⟩
    have hdrop : file.drop (ledger.scan.push body.length d).validBytes = r := by
      show file.drop (ledger.scan.validBytes + (body.length + 20)) = r
      rw [← List.drop_drop, hrest]
      exact List.drop_left' (frameOf_length body)
    rw [hfile, hdrop, hrest, List.append_assoc]
  | case4 s hge =>
    intro res ledger h hs _ _ _
    rw [scanFrom_end (Nat.le_of_not_lt hge)] at h
    cases h
    refine ⟨[], ledger, rfl, hs, ?_⟩
    rw [List.drop_of_length_le (Nat.le_of_not_lt hge), List.append_nil]

/-- Replay is exact in both directions. -/
theorem replay_exact :
    (∀ batches L, fresh.appendAll batches = .ok L →
      scanTransactions L.file = .ok ⟨L.head, L.events, L.file.length, L.payloadBytes⟩ ∧
      L.scan.transactions = batches) ∧
    (∀ image res, scanTransactions image = .ok res → res.validBytes = image.length →
      ∃ L, fresh.appendAll res.transactions = .ok L ∧ L.scan = res ∧
        image = image.take headerBytes ++ L.file.drop headerBytes ∧
        (validateHeader image = .ok () → image = L.file)) := by
  have hstart : fresh.scan.Numbered := by
    intro e he
    cases he
  have hnone : fresh.scan.transactions = [] := rfl
  constructor
  · intro batches L h
    refine ⟨scanTransactions_file h, ?_⟩
    rw [appendAll_transactions h hstart, hnone, List.nil_append]
  · intro image res h hend
    obtain ⟨batches, L, hall, hL, hfile⟩ := scanFrom_canonical image .start h scan_fresh rfl (Nat.zero_le _) hend
    have htx := appendAll_transactions hall hstart
    rw [hnone, List.nil_append, hL] at htx
    have hrest : L.file.drop headerBytes = image.drop headerBytes := by
      rw [hfile]
      exact List.drop_left' ledgerHeader_length
    refine ⟨L, htx ▸ hall, hL, ?_, ?_⟩
    · rw [hrest, List.take_append_drop]
    · intro hheader
      rw [hfile, show fresh.file = ledgerHeader from rfl, ← validateHeader_ok.mp hheader]
      exact (List.take_append_drop headerBytes image).symm

theorem replay_exact_twoBatches :
    ∃ L L', fresh.appendAll twoBatches = .ok L ∧
      scanTransactions L.file = .ok ⟨L.head, L.events, L.file.length, L.payloadBytes⟩ ∧
      fresh.appendAll twoBatches = .ok L' ∧ L.file = L'.file := by
  have h : okAnd (fresh.appendAll twoBatches) (fun _ => true) = true := by decide +kernel
  obtain ⟨L, hL, _⟩ := okAnd_iff.mp h
  obtain ⟨hscan, htx⟩ := replay_exact.1 twoBatches L hL
  obtain ⟨L', hL', _, _, hfile⟩ := replay_exact.2 L.file _ hscan rfl
  obtain ⟨r, hr⟩ := header_first hL
  exact ⟨L, L', hL, hscan, htx ▸ hL', hfile (hr ▸ validateHeader_append r)⟩

end GreenTyper.Ledger
