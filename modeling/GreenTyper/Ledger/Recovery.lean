/-
  GreenTyper.Ledger.Recovery — reading a Ledger file back, whole or cut short (see
  `GreenTyper.Ledger.Scan`).

  A file cut anywhere past its header opens as the Ledger of the transactions that are
  whole in it, and the rest is its tail (`torn_tail_recovery`). So a write that fails
  after any number of bytes leaves a file that opens to the state before it or to the
  state after it (`reopen_after_append`).
-/

import GreenTyper.Ledger.Scan

namespace GreenTyper.Ledger

open GreenTyper.Lib

/-! ## The header -/

theorem ledgerHeader_length : ledgerHeader.length = headerBytes := by
  simp [ledgerHeader, headerPrefix, headerMagic, headerBytes]

/-- There is one valid header. -/
theorem validateHeader_ok {file : List Byte} : validateHeader file = .ok () ↔ file.take headerBytes = ledgerHeader := by
  simp only [validateHeader, bind_ok, require_ok, exists_const]
  constructor
  · rintro ⟨hlen, hmagic, hversion, hreserved, hcrc⟩
    have h16 : (file.take headerBytes).length = 16 := by
      rw [List.length_take, Nat.min_eq_left hlen]; rfl
    generalize file.take headerBytes = header at *
    have hv : leBytes 2 formatVersion = (header.drop 8).take 2 := leBytes_of_leNat (by simp [h16]) hversion
    have hpre : header.take 12 = headerPrefix := by
      rw [headerPrefix, ← hmagic, hv, show leBytes 2 0 = [0, 0] from rfl, ← hreserved,
        show header.take 12 = header.take (8 + 2 + 2) from rfl, List.take_add, List.take_add]
    rw [ledgerHeader, ← hpre, leBytes_of_leNat (by simp [h16]) hcrc.symm, List.take_append_drop]
  · intro h
    have hlen : headerBytes ≤ file.length := by
      have := congrArg List.length h
      rw [ledgerHeader_length, List.length_take] at this
      omega
    rw [h]
    refine ⟨hlen, rfl, rfl, rfl, ?_⟩
    have h12 : headerPrefix.length = 12 := by simp [headerPrefix, headerMagic]
    rw [ledgerHeader, List.take_left' h12, List.drop_left' h12, checksum_word]

theorem validateHeader_append (r : List Byte) : validateHeader (ledgerHeader ++ r) = .ok () :=
  validateHeader_ok.mpr (List.take_left' ledgerHeader_length)

namespace FileLedger

theorem appendAll_poisoned {batches : List (List EventData)} :
    ∀ {ledger L : FileLedger}, ledger.appendAll batches = .ok L → L.poisoned = ledger.poisoned := by
  induction batches with
  | nil =>
    intro ledger L h
    cases h
    rfl
  | cons es batches ih =>
    intro ledger L h
    obtain ⟨receipt, L', h1, h2⟩ := appendAll_cons.mp h
    obtain ⟨body, d, _, _, _, rfl, _⟩ := append_synced h1
    rw [ih h2]

theorem header_first {batches : List (List EventData)} {L : FileLedger} (h : fresh.appendAll batches = .ok L) :
    ledgerHeader <+: L.file := file_extends h

/-- The data of a Ledger's events is what was appended. -/
theorem appendAll_events {batches : List (List EventData)} :
    ∀ {ledger L : FileLedger}, ledger.appendAll batches = .ok L →
      L.events.map (·.data) = ledger.events.map (·.data) ++ batches.flatten := by
  induction batches with
  | nil =>
    intro ledger L h
    cases h
    simp
  | cons es batches ih =>
    intro ledger L h
    obtain ⟨receipt, L', h1, h2⟩ := appendAll_cons.mp h
    obtain ⟨body, d, _, _, _, rfl, hdata, _⟩ := append_synced h1
    rw [ih h2]
    simp [hdata]

theorem events_prefix {batches : List (List EventData)} :
    ∀ {ledger L : FileLedger}, ledger.appendAll batches = .ok L → ledger.events <+: L.events := by
  induction batches with
  | nil =>
    intro ledger L h
    cases h
    exact List.prefix_rfl
  | cons es batches ih =>
    intro ledger L h
    obtain ⟨receipt, L', h1, h2⟩ := appendAll_cons.mp h
    obtain ⟨body, d, _, _, _, rfl, _⟩ := append_synced h1
    exact (List.prefix_append ledger.events d.events).trans (ih h2)

/-- The state after the first `k` batches, on the way to the state after all of them. -/
theorem appendAll_take {batches : List (List EventData)} (k : Nat) :
    ∀ {ledger L : FileLedger}, ledger.appendAll batches = .ok L →
      ∃ Lk, ledger.appendAll (batches.take k) = .ok Lk ∧ Lk.appendAll (batches.drop k) = .ok L := by
  induction batches generalizing k with
  | nil =>
    intro ledger L h
    exact ⟨ledger, by simp [appendAll], by simpa using h⟩
  | cons es batches ih =>
    intro ledger L h
    cases k with
    | zero => exact ⟨ledger, rfl, h⟩
    | succ k =>
      obtain ⟨receipt, L', h1, h2⟩ := appendAll_cons.mp h
      obtain ⟨Lk, hk, hrest⟩ := ih k h2
      exact ⟨Lk, appendAll_cons.mpr ⟨receipt, L', h1, hk⟩, hrest⟩

theorem appendAll_concat {batches : List (List EventData)} {es : List EventData} {receipt : DurabilityReceipt} :
    ∀ {ledger M L : FileLedger}, ledger.appendAll batches = .ok M → M.append M.head es .synced = (.ok receipt, L) →
      ledger.appendAll (batches ++ [es]) = .ok L := by
  induction batches with
  | nil =>
    intro ledger M L h happ
    cases h
    exact appendAll_cons.mpr ⟨receipt, L, happ, rfl⟩
  | cons b batches ih =>
    intro ledger M L h happ
    obtain ⟨r, L', h1, h2⟩ := appendAll_cons.mp h
    exact appendAll_cons.mpr ⟨r, L', h1, ih h2 happ⟩

/-! ## A file cut short -/

/-- A scan of a cut file stops after the last whole frame, from any Ledger on the way. -/
theorem scanFrom_take {batches : List (List EventData)} :
    ∀ {ledger L : FileLedger} {n : Nat}, ledger.appendAll batches = .ok L → ledger.file.length ≤ n → n ≤ L.file.length →
      ∃ k Lk, k ≤ batches.length ∧ ledger.appendAll (batches.take k) = .ok Lk ∧ Lk.file.length ≤ n ∧
        (∀ Lnext, ledger.appendAll (batches.take (k + 1)) = .ok Lnext → k < batches.length → n < Lnext.file.length) ∧
        scanFrom (L.file.take n) ledger.scan = .ok Lk.scan := by
  induction batches with
  | nil =>
    intro ledger L n h hge hle
    cases h
    refine ⟨0, ledger, Nat.le_refl 0, rfl, hge, fun _ _ h => absurd h (Nat.lt_irrefl 0), scanFrom_end ?_⟩
    show ((ledger.file).take n).length ≤ ledger.file.length
    rw [List.length_take]; omega
  | cons es batches ih =>
    intro ledger L n h hge hle
    obtain ⟨receipt, L', h1, h2⟩ := appendAll_cons.mp h
    obtain ⟨tail, htail⟩ := file_extends h2
    rcases Nat.lt_or_ge n L'.file.length with hn | hn
    · -- The cut falls in the next frame.
      refine ⟨0, ledger, Nat.zero_le _, rfl, hge, ?_, ?_⟩
      · intro Lnext hnext _
        obtain ⟨_, Lnext', hn1, hn2⟩ := appendAll_cons.mp hnext
        rw [h1] at hn1
        cases hn1
        cases hn2
        exact hn
      · obtain ⟨body, d, h0, hmax, _, rfl, _⟩ := append_synced h1
        apply scanFrom_torn
        show scanFrame (((L.file).take n).drop ledger.file.length) ledger.scan = _
        simp only [List.length_append, List.append_assoc] at hn htail
        rw [← htail, List.drop_take, List.drop_left, List.take_append_of_le_length (by omega)]
        exact scanFrame_torn h0 hmax (by omega) _
    · obtain ⟨k, Lk, hk, hLk, hlen, hmaxk, hscan⟩ := ih h2 hn hle
      refine ⟨k + 1, Lk, Nat.succ_le_succ hk, appendAll_cons.mpr ⟨receipt, L', h1, hLk⟩, hlen, ?_, ?_⟩
      · intro Lnext hnext hlt
        obtain ⟨_, Lnext', hn1, hn2⟩ := appendAll_cons.mp hnext
        rw [h1] at hn1
        cases hn1
        exact hmaxk Lnext hn2 (Nat.lt_of_succ_lt_succ hlt)
      · obtain ⟨m, rfl⟩ := Nat.exists_eq_add_of_le hn
        have htake : (L.file).take (L'.file.length + m) = L'.file ++ tail.take m := by
          rw [← htail, List.take_length_add_append]
        rw [htake, scanFrom_append h1, ← htake]
        exact hscan

/-- A Ledger's own file opens as that Ledger, and a cut of a longer one with the rest as
    its tail. -/
theorem open_of_scan {file : List Byte} {L : FileLedger} (hheader : validateHeader file = .ok ())
    (hpre : L.file <+: file) (hp : L.poisoned = false) (hscan : scanTransactions file = .ok L.scan)
    (create repairTail : Bool) :
    openWithPolicy file create repairTail =
      if file.length = L.file.length ∨ repairTail = true then
        .ok (L, ⟨L.head, L.events, file.length - L.file.length⟩)
      else .error (.incompleteTail (file.length - L.file.length)) := by
  have hne : ¬ (file.length = 0 ∧ create = true) := by
    rintro ⟨h, _⟩
    obtain rfl := List.eq_nil_of_length_eq_zero h
    cases hheader
  have hle : L.file.length ≤ file.length := hpre.length_le
  have hvalid : L.scan.validBytes = L.file.length := rfl
  have htake : file.take L.file.length = L.file := (List.prefix_iff_eq_take.mp hpre).symm
  have htail : file.length - L.file.length = 0 ∨ repairTail = true ↔ file.length = L.file.length ∨ repairTail = true := by
    constructor <;> rintro (h | h) <;> first | exact Or.inr h | exact Or.inl (by omega)
  simp only [openWithPolicy, if_neg hne, hheader, hscan, ok_bind, pure, Except.pure, hvalid, htake]
  rw [require_bind hle]
  split
  · rename_i h
    rw [require_bind (htail.mpr h)]
    cases L
    cases hp
    rfl
  · rename_i h
    rw [require_bind_neg (fun h' => h (htail.mp h'))]

/-- What opening reports is what the opened Ledger holds. -/
theorem openWithPolicy_report {file : List Byte} {create repairTail : Bool} {L : FileLedger} {report : ReplayReport}
    (h : openWithPolicy file create repairTail = .ok (L, report)) :
    report.head = L.head ∧ report.events = L.events ∧ L.poisoned = false := by
  simp only [openWithPolicy] at h
  split at h
  · simp only [bind_ok, require_ok, exists_const, pure, Except.pure, Except.ok.injEq, Prod.mk.injEq, exists_eq_left'] at h
    obtain ⟨scan, _, _, _, rfl, rfl⟩ := h
    exact ⟨rfl, rfl, rfl⟩
  · simp only [bind_ok, require_ok, exists_const, pure, Except.pure, Except.ok.injEq, Prod.mk.injEq, exists_eq_left'] at h
    obtain ⟨_, _, scan, _, _, _, rfl, rfl⟩ := h
    exact ⟨rfl, rfl, rfl⟩

/-- Where opening without repair succeeds, so does opening with it, to the same Ledger. -/
theorem openFile_of_strict {file : List Byte} {x : FileLedger × ReplayReport} (h : openExistingStrict file = .ok x) :
    openFile file = .ok x := by
  have hne : ¬ (file.length = 0 ∧ true = true) := by
    rintro ⟨hnil, _⟩
    rw [List.eq_nil_of_length_eq_zero hnil] at h
    cases h
  have hne' : ¬ (file.length = 0 ∧ false = true) := fun h => nomatch h.2
  rw [openExistingStrict, openWithPolicy, if_neg hne'] at h
  rw [openFile, openWithPolicy, if_neg hne]
  simp only [bind_ok, require_ok, exists_const, pure, Except.pure, Except.ok.injEq, exists_eq_left'] at h ⊢
  obtain ⟨u, hheader, scan, hscan, hle, _, h⟩ := h
  exact ⟨u, hheader, scan, hscan, hle, Or.inr trivial, h⟩

/-- What reading the first `n` bytes of the Ledger `L` of `batches` gives: the Ledger
    `Lk` of the first `k`. -/
structure Recovered (batches : List (List EventData)) (L : FileLedger) (n k : Nat) (Lk : FileLedger) : Prop where
  /-- The first `k` transactions are whole in the prefix, and no more are. -/
  count : k ≤ batches.length
  state : fresh.appendAll (batches.take k) = .ok Lk
  whole : Lk.file.length ≤ n
  next : ∀ Lnext, fresh.appendAll (batches.take (k + 1)) = .ok Lnext → k < batches.length → n < Lnext.file.length
  /-- Their events come back, in order and as they were stored. -/
  data : Lk.events.map (·.data) = (batches.take k).flatten
  stored : Lk.events <+: L.events
  scanned : scanTransactions (L.file.take n) = .ok ⟨Lk.head, Lk.events, Lk.file.length, Lk.payloadBytes⟩
  /-- The rest of the bytes is the tail. -/
  inspected : inspect (L.file.take n) = .ok ⟨Lk.head, Lk.events, n - Lk.file.length⟩
  opened : openFile (L.file.take n) = .ok (Lk, ⟨Lk.head, Lk.events, n - Lk.file.length⟩)
  /-- The valid bytes are the shorter Ledger's file, which has no tail. -/
  truncated : (L.file.take n).take Lk.file.length = Lk.file
  rescanned : scanTransactions Lk.file = .ok ⟨Lk.head, Lk.events, Lk.file.length, Lk.payloadBytes⟩
  strict : (∃ e, openExistingStrict (L.file.take n) = .error e) ↔ n - Lk.file.length ≠ 0

theorem scanTransactions_file {batches : List (List EventData)} {L : FileLedger} (h : fresh.appendAll batches = .ok L) :
    scanTransactions L.file = .ok L.scan := by
  have hall := scanFrom_appendAll h []
  rw [List.append_nil, scan_fresh] at hall
  rw [scanTransactions, hall]
  exact scanFrom_end (Nat.le_refl _)

/-- A Ledger's own file opens as that Ledger. -/
theorem openFile_file {batches : List (List EventData)} {L : FileLedger} (h : fresh.appendAll batches = .ok L) :
    openFile L.file = .ok (L, ⟨L.head, L.events, 0⟩) := by
  obtain ⟨r, hr⟩ := header_first h
  have hheader : validateHeader L.file = .ok () := hr ▸ validateHeader_append r
  rw [openFile, open_of_scan hheader List.prefix_rfl (appendAll_poisoned h) (scanTransactions_file h), if_pos (Or.inl rfl),
    Nat.sub_self]

/-- A new file opens as the Ledger without transactions. -/
theorem openFile_nil : openFile [] = .ok (fresh, ⟨.default, [], 0⟩) := by
  have hscan : scanTransactions ledgerHeader = .ok fresh.scan := @scanTransactions_file [] fresh rfl
  simp only [openFile, openWithPolicy, hscan, List.length_nil, if_true, and_self, ok_bind, pure, Except.pure]
  rw [require_bind (show fresh.scan.validBytes ≤ ledgerHeader.length from Nat.le_refl _), require_bind (Or.inr trivial)]
  simp [scan, fresh]

/-- Part of a header opens to no Ledger, or to a new one. -/
theorem openFile_headerPart {written : Nat} {x : FileLedger × ReplayReport}
    (h : openFile (ledgerHeader.take written) = .ok x) : x.1 = fresh := by
  rcases Nat.eq_zero_or_pos written with rfl | hpos
  · rw [List.take_zero, openFile_nil] at h
    cases h
    rfl
  rcases Nat.lt_or_ge written headerBytes with hlt | hge
  · have hlen : (ledgerHeader.take written).length = written := by
      rw [List.length_take, ledgerHeader_length, Nat.min_eq_left (Nat.le_of_lt hlt)]
    rw [openFile, openWithPolicy, if_neg (by omega)] at h
    obtain ⟨_, hheader, _⟩ := bind_ok.mp h
    have hfull := congrArg List.length (validateHeader_ok.mp hheader)
    rw [List.length_take, hlen, ledgerHeader_length] at hfull
    omega
  · rw [List.take_of_length_le (by rw [ledgerHeader_length]; exact hge)] at h
    have hfresh := @openFile_file [] fresh rfl
    rw [show fresh.file = ledgerHeader from rfl, h] at hfresh
    rw [Except.ok.inj hfresh]

/-- A Ledger file cut at any byte past its header reads as the transactions that are
    whole in what is left, with the rest as its tail. -/
theorem torn_tail_recovery {batches : List (List EventData)} {L : FileLedger} {n : Nat}
    (h : fresh.appendAll batches = .ok L) (hge : headerBytes ≤ n) (hle : n ≤ L.file.length) :
    ∃ k Lk, Recovered batches L n k Lk := by
  obtain ⟨k, Lk, hk, hLk, hlen, hmax, hscan⟩ :=
    scanFrom_take h (by rw [show fresh.file = ledgerHeader from rfl, ledgerHeader_length]; exact hge) hle
  obtain ⟨Lk', hLk', hrest⟩ := appendAll_take k h
  obtain rfl : Lk = Lk' := by rw [hLk] at hLk'; cases hLk'; rfl
  have hpre : Lk.file <+: (L.file).take n :=
    List.prefix_of_prefix_length_le (file_extends hrest) (List.take_prefix n L.file) (by rw [List.length_take]; omega)
  have hheader : validateHeader ((L.file).take n) = .ok () := by
    obtain ⟨r, hr⟩ := (header_first hLk).trans hpre
    exact hr ▸ validateHeader_append r
  have hp : Lk.poisoned = false := appendAll_poisoned hLk
  have hn : ((L.file).take n).length = n := by rw [List.length_take, Nat.min_eq_left hle]
  have hscan' : scanTransactions ((L.file).take n) = .ok Lk.scan := by
    rw [scanTransactions, ← scan_fresh]
    exact hscan
  have hopen := open_of_scan hheader hpre hp hscan'
  rw [hn] at hopen
  refine ⟨k, Lk, hk, hLk, hlen, hmax, ?_, events_prefix hrest, hscan', ?_, ?_, ?_, scanTransactions_file hLk, ?_⟩
  · simpa [fresh] using appendAll_events hLk
  · have hvalid : Lk.scan.validBytes = Lk.file.length := rfl
    simp only [inspect, hheader, hscan', ok_bind, hn, hvalid]
    rw [require_bind hlen]
    rfl
  · rw [openFile, hopen, if_pos (Or.inr rfl)]
  · exact (List.prefix_iff_eq_take.mp hpre).symm
  · rw [openExistingStrict, hopen]
    split
    · rename_i heq
      have : n = Lk.file.length := by simpa using heq
      simp [this]
    · rename_i heq
      have : n ≠ Lk.file.length := by simpa using heq
      simp only [Except.error.injEq, exists_eq', true_iff]
      omega

/-- Two transactions, for runs on fixed bytes. -/
def twoBatches : List (List EventData) := [[⟨1, 1, [0x41]⟩], [⟨1, 2, []⟩, ⟨1, 3, [0x42, 0x43]⟩]]

theorem torn_tail_recovery_twoBatches :
    ∃ L k Lk, fresh.appendAll twoBatches = .ok L ∧ Recovered twoBatches L 100 k Lk := by
  have h : okAnd (fresh.appendAll twoBatches) (fun L => 100 ≤ L.file.length) = true := by decide +kernel
  obtain ⟨L, hL, hlen⟩ := okAnd_iff.mp h
  obtain ⟨k, Lk, hk⟩ := torn_tail_recovery hL (n := 100) (by decide) (by simpa using hlen)
  exact ⟨L, k, Lk, hL, hk⟩

/-- A write that fails after any number of bytes leaves a file that opens to the Ledger
    before it, or to the Ledger a synced write would have left. -/
theorem reopen_after_append {batches : List (List EventData)} {ledger L : FileLedger} {es : List EventData}
    {receipt : DurabilityReceipt} (h : fresh.appendAll batches = .ok ledger)
    (happ : ledger.append ledger.head es .synced = (.ok receipt, L)) (written : Nat) :
    ∃ torn report, ledger.append ledger.head es (.failed written) = (.error .durabilityAmbiguous, torn) ∧
      torn.poisoned = true ∧
      (openFile torn.file = .ok (ledger, report) ∨ openFile torn.file = .ok (L, report)) := by
  have hall := appendAll_concat h happ
  unfold append at happ ⊢
  split at happ
  · cases happ
  rename_i frame stored receipt' p hp
  obtain ⟨rfl, rfl⟩ := happ
  have hheader : headerBytes ≤ ledger.file.length := by
    have := (header_first h).length_le
    rwa [ledgerHeader_length] at this
  -- What is on the disk is a cut of the longer Ledger's file.
  have hcut : ledger.file ++ frame.take written = (ledger.file ++ frame).take (ledger.file.length + written) := by
    rw [List.take_length_add_append]
  obtain ⟨n, hn, hge, hle⟩ : ∃ n, ledger.file ++ frame.take written = (ledger.file ++ frame).take n ∧
      ledger.file.length ≤ n ∧ n ≤ (ledger.file ++ frame).length := by
    rcases Nat.le_total (ledger.file.length + written) (ledger.file ++ frame).length with hw | hw
    · exact ⟨_, hcut, by omega, hw⟩
    · exact ⟨(ledger.file ++ frame).length, by rw [hcut, List.take_length, List.take_of_length_le hw], by simp,
        Nat.le_refl _⟩
  obtain ⟨k, Lk, hk⟩ := torn_tail_recovery hall (Nat.le_trans hheader hge) hle
  refine ⟨_, ⟨Lk.head, Lk.events, n - Lk.file.length⟩, rfl, rfl, ?_⟩
  show openFile (ledger.file ++ frame.take written) = _ ∨ openFile (ledger.file ++ frame.take written) = _
  rw [hn]
  have hcount := hk.count
  rw [List.length_append, List.length_singleton] at hcount
  rcases Nat.lt_or_ge k batches.length with hlt | hge'
  · -- Fewer than the old transactions would leave an old one out.
    exfalso
    obtain ⟨Lnext, hnext, hrest⟩ := appendAll_take (k + 1) h
    have hnext' : fresh.appendAll ((batches ++ [es]).take (k + 1)) = .ok Lnext := by
      rwa [List.take_append_of_le_length (by omega)]
    have := hk.next Lnext hnext' (by rw [List.length_append]; omega)
    have := (file_extends hrest).length_le
    omega
  · have hstate := hk.state
    rcases Nat.eq_or_lt_of_le hge' with heq | hgt
    · rw [← heq, List.take_left, h] at hstate
      cases hstate
      exact Or.inl hk.opened
    · rw [show k = (batches ++ [es]).length by simp; omega, List.take_length, hall] at hstate
      cases hstate
      exact Or.inr hk.opened

/-- How an append to a Ledger of appends ends: refused and nothing written, done, or
    torn. -/
theorem append_fate {batches : List (List EventData)} {ledger : FileLedger} (h : fresh.appendAll batches = .ok ledger)
    (es : List EventData) (write : WriteOutcome) :
    (∃ e, ledger.append ledger.head es write = (.error e, ledger)) ∨
      ∃ receipt L, ledger.append ledger.head es .synced = (.ok receipt, L) ∧
        (ledger.append ledger.head es write = (.ok receipt, L) ∨
          ∃ torn report, ledger.append ledger.head es write = (.error .durabilityAmbiguous, torn) ∧ torn.poisoned = true ∧
            (openFile torn.file = .ok (ledger, report) ∨ openFile torn.file = .ok (L, report))) := by
  cases hprep : ledger.prepareAppend ledger.head es with
  | error e => exact Or.inl ⟨e, by rw [append, hprep]⟩
  | ok x =>
    obtain ⟨frame, stored, receipt, p⟩ := x
    obtain ⟨L, hL⟩ : ∃ L, ledger.append ledger.head es .synced = (.ok receipt, L) := by
      rw [append, hprep]
      exact ⟨_, rfl⟩
    refine Or.inr ⟨receipt, L, hL, ?_⟩
    cases write with
    | synced => exact Or.inl hL
    | failed written => exact Or.inr (reopen_after_append h hL written)

theorem append_poisoned {ledger : FileLedger} (h : ledger.poisoned = true) (es : List EventData) (write : WriteOutcome) :
    ledger.append ledger.head es write = (.error .writerPoisoned, ledger) := by
  rw [append, prepareAppend, require_bind_neg (by simp [h])]

end FileLedger

end GreenTyper.Ledger
