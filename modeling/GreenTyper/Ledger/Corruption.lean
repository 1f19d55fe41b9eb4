/-
  GreenTyper.Ledger.Corruption — one changed byte anywhere in a Ledger file makes
  opening it fail (`single_byte_corruption`, see `GreenTyper.Ledger.Scan`).

  Where the byte lies decides which check sees it: the header's fields, a frame's magic,
  the length word against its complement, the checksum over the body, the checksum word
  itself or the commit marker. A changed length word is caught by its complement before
  the length is used, so a damaged frame is never taken for a torn one; a frame before
  the damaged one is whole, so the scan reaches the damage or fails earlier.
-/

import GreenTyper.Ledger.Recovery

namespace GreenTyper.Ledger

open GreenTyper.Lib

theorem crc32c_ne {xs ys : List Byte} (h : OneChanged xs ys) : crc32c ys ≠ crc32c xs := by
  intro heq
  exact Crc.fold_ne (p := crcPolynomial) (by decide) (by decide) h _ (BitVec.not_inj.mp heq)

/-- Four changed bytes read as another number. -/
theorem leNat_ne {xs ys : List Byte} (h : OneChanged xs ys) : leNat ys ≠ leNat xs :=
  fun heq => h.ne (leNat_inj h.length heq)

variable {body : List Byte}

/-- A frame with one changed byte is an error of the scan, whatever follows it. -/
theorem scanFrame_changed {frame : List Byte} (h0 : body.length ≠ 0) (hmax : body.length ≤ maxFrameBodyBytes)
    (h : OneChanged (frameOf body) frame) (r : List Byte) (s : ScanResult) : ∃ e, scanFrame (frame ++ r) s = .error e := by
  have hl := leBytes_length 4 body.length
  have hc := leBytes_length 4 (notU32 body.length)
  have hk := leBytes_length 4 (crc32c body).toNat
  rcases h.append with ⟨m, hm, rfl⟩ | ⟨_, h1, rfl⟩
  · -- the magic
    simp only [List.append_assoc]
    rw [scanFrame_parts hm.length hl hc hk rfl (length_word hmax), require_bind_neg hm.ne]
    exact ⟨_, rfl⟩
  rcases h1.append with ⟨l, hl', rfl⟩ | ⟨_, h2, rfl⟩
  · -- the length, against its complement
    have hne : ¬ leNat (leBytes 4 (notU32 body.length)) = notU32 (leNat l) := by
      rw [complement_word]
      intro heq
      have hlt : leNat l < 2 ^ 32 := by
        have := leNat_lt l
        rwa [hl'.length, leBytes_length] at this
      have hb : body.length < 2 ^ 32 := by simp only [maxFrameBodyBytes] at hmax; omega
      exact leNat_ne hl' (by rw [length_word hmax, notU32_inj hb hlt heq])
    simp only [List.append_assoc]
    rw [scanFrame_words rfl (hl'.length.trans hl) hc, require_bind rfl, require_bind_neg hne]
    exact ⟨_, rfl⟩
  rcases h2.append with ⟨c, hc', rfl⟩ | ⟨_, h3, rfl⟩
  · -- the complement
    have hne : ¬ leNat c = notU32 body.length := by
      have := leNat_ne hc'
      rwa [complement_word] at this
    simp only [List.append_assoc]
    rw [scanFrame_parts rfl hl (hc'.length.trans hc) hk rfl (length_word hmax), require_bind rfl, require_bind_neg hne]
    exact ⟨_, rfl⟩
  rcases h3.append with ⟨body', hb', rfl⟩ | ⟨_, h4, rfl⟩
  · -- the body, against its checksum
    have hlen : leNat (leBytes 4 body.length) = body'.length := by rw [length_word hmax, hb'.length]
    have hne : ¬ (crc32c body').toNat = leNat (leBytes 4 (crc32c body).toNat) := by
      rw [checksum_word]
      exact fun heq => crc32c_ne hb' (BitVec.eq_of_toNat_eq heq)
    have hcomp : leNat (leBytes 4 (notU32 body.length)) = notU32 body'.length := by rw [complement_word, hb'.length]
    simp only [List.append_assoc]
    rw [scanFrame_parts rfl hl hc hk rfl hlen, require_bind rfl, require_bind hcomp,
      require_bind (by rw [hb'.length]; exact ⟨h0, hmax⟩), require_bind_neg hne]
    exact ⟨_, rfl⟩
  rcases h4.append with ⟨k, hk', rfl⟩ | ⟨e, he, rfl⟩
  · -- the checksum
    have hne : ¬ (crc32c body).toNat = leNat k := by
      have := leNat_ne hk'
      rw [checksum_word] at this
      exact fun heq => this heq.symm
    simp only [List.append_assoc]
    rw [scanFrame_parts rfl hl hc (hk'.length.trans hk) rfl (length_word hmax), require_bind rfl, complement_word,
      require_bind rfl, require_bind ⟨h0, hmax⟩, require_bind_neg hne]
    exact ⟨_, rfl⟩
  · -- the commit marker
    simp only [List.append_assoc]
    rw [scanFrame_parts rfl hl hc hk he.length (length_word hmax), require_bind rfl, complement_word, require_bind rfl,
      require_bind ⟨h0, hmax⟩, checksum_word, require_bind rfl, require_bind_neg he.ne]
    exact ⟨_, rfl⟩

/-- Frames of encoded transactions, of any ids and events. -/
def Encoded (frame : List Byte) : Prop :=
  ∃ t f es stored receipt, encodeTransaction t f es = .ok (frame, stored, receipt)

theorem Encoded.frameOf {frame : List Byte} (h : Encoded frame) :
    ∃ body, frame = frameOf body ∧ body.length ≠ 0 ∧ body.length ≤ maxFrameBodyBytes := by
  obtain ⟨t, f, es, stored, receipt, h⟩ := h
  obtain ⟨encoded, _, hb, _, rfl, _⟩ := encodeTransaction_ok.mp h
  exact ⟨_, rfl, by simp [bodyOf], hb⟩

/-- The scan of frames one of which has a changed byte: it fails there, or earlier. -/
theorem scanFrom_changed {file : List Byte} (frames : List (List Byte)) :
    ∀ {s : ScanResult}, (∀ f ∈ frames, Encoded f) → OneChanged frames.flatten (file.drop s.validBytes) →
      ∃ e, scanFrom file s = .error e := by
  induction frames with
  | nil =>
    intro s _ h
    cases h
  | cons frame frames ih =>
    intro s hall h
    obtain ⟨body, rfl, h0, hmax⟩ := (hall frame (by simp)).frameOf
    have hlt : s.validBytes < file.length := by
      have := h.length
      rw [List.length_drop, List.flatten_cons, List.length_append, frameOf_length] at this
      omega
    rw [List.flatten_cons] at h
    rcases h.append with ⟨frame', hf, hdrop⟩ | ⟨rest, hrest, hdrop⟩
    · obtain ⟨e, he⟩ := scanFrame_changed h0 hmax hf frames.flatten s
      exact ⟨e, scanFrom_error hlt (hdrop ▸ he)⟩
    · cases hd : decodeTransaction body s.head s.events.length s.payloadBytes with
      | error e =>
        refine ⟨e, scanFrom_error hlt ?_⟩
        rw [hdrop, scanFrame_frame h0 hmax, hd]
        rfl
      | ok d =>
        rw [scanFrom_frame hdrop h0 hmax hd]
        refine ih (fun f hf => hall f (by simp [hf])) ?_
        show OneChanged _ (file.drop (s.validBytes + (body.length + 20)))
        rw [← List.drop_drop, hdrop, List.drop_left' (frameOf_length body)]
        exact hrest

namespace FileLedger

/-- Opening a Ledger file of complete transactions with any one byte changed fails, from
    the header's validation or from the scan, whatever the policy. -/
theorem single_byte_corruption {frames : List (List Byte)} {i : Nat} {old b : Byte} (hall : ∀ f ∈ frames, Encoded f)
    (hold : (ledgerHeader ++ frames.flatten)[i]? = some old) (hb : b ≠ old) (create repairTail : Bool) :
    let file := (ledgerHeader ++ frames.flatten).set i b
    ∃ e, (validateHeader file = .error e ∨ (validateHeader file = .ok () ∧ scanTransactions file = .error e)) ∧
      openWithPolicy file create repairTail = .error e ∧ inspect file = .error e := by
  intro file
  have hchanged : OneChanged (ledgerHeader ++ frames.flatten) file := .of_set hold hb
  have hne : ¬ (file.length = 0 ∧ create = true) := by
    rw [hchanged.length, List.length_append, ledgerHeader_length]
    simp only [headerBytes]
    omega
  cases hheader : validateHeader file with
  | error e =>
    refine ⟨e, Or.inl rfl, ?_, ?_⟩
    · simp only [openWithPolicy, if_neg hne, hheader, error_bind]
    · simp only [inspect, hheader, error_bind]
  | ok _ =>
    have htake := validateHeader_ok.mp hheader
    rcases hchanged.append with ⟨header, hh, hfile⟩ | ⟨rest, hrest, hfile⟩
    · rw [hfile, List.take_left' (hh.length.trans ledgerHeader_length)] at htake
      exact absurd htake hh.ne
    · have hdrop : file.drop ScanResult.start.validBytes = rest := by
        rw [hfile]
        exact List.drop_left' ledgerHeader_length
      obtain ⟨e, he⟩ := @scanFrom_changed file frames .start hall (hdrop ▸ hrest)
      have hscan : scanTransactions file = .error e := he
      refine ⟨e, Or.inr ⟨rfl, hscan⟩, ?_, ?_⟩
      · simp only [openWithPolicy, if_neg hne, hheader, hscan, pure, Except.pure, ok_bind, error_bind]
      · simp only [inspect, hheader, hscan, ok_bind, error_bind]

theorem single_byte_corruption_length_word :
    ∃ frame e, Encoded frame ∧ openFile ((ledgerHeader ++ [frame].flatten).set 20 0xff) = .error e := by
  have h : okAnd (encodeTransaction 1 1 [⟨1, 1, [0x41]⟩]) (fun r => r.1[4]? = some 45) = true := by decide +kernel
  obtain ⟨⟨frame, stored, receipt⟩, henc, hbyte⟩ := okAnd_iff.mp h
  have hframe : Encoded frame := ⟨_, _, _, _, _, henc⟩
  have hold : (ledgerHeader ++ [frame].flatten)[20]? = some 45 := by
    rw [List.getElem?_append_right (by rw [ledgerHeader_length]; decide), ledgerHeader_length]
    simpa [headerBytes] using hbyte
  obtain ⟨e, _, hopen, _⟩ := single_byte_corruption (i := 20) (b := 0xff) (by simpa using hframe) hold (by decide) true true
  exact ⟨frame, e, hframe, hopen⟩

end FileLedger

end GreenTyper.Ledger
