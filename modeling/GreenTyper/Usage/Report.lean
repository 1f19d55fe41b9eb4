/-
  GreenTyper.Usage.Report — usage reports page by page (`usage.rs`).

  (1) A cursor reads back as it was issued (`decode_encode`).
  (2) A page starts where the one before it ended, so the pages from no cursor on are the
      attempts cut into pieces, whatever their sizes (`followPages_from`).
  (3) A cursor of another revision or another moment is refused (`report_stale`,
      `report_mismatch`).
-/

import GreenTyper.Lib.Hex
import GreenTyper.Usage.Projection
import GreenTyper.Usage.Windows

namespace GreenTyper.Usage

open Lib

def maxUsagePageSize : Nat := 1000
def maxUsageCursorBytes : Nat := 160

structure UsageRevision where
  transaction : UInt64
  sequence : UInt64
  deriving DecidableEq

structure UsageCursor where
  text : String
  deriving DecidableEq

structure UsageCursorState where
  revision : UsageRevision
  asOf : Int
  nextIndex : Nat
  deriving DecidableEq

/-! ## Cursors -/

/-- `str::parse::<i64>`. -/
def parseSigned (text : List Char) : Option Int :=
  if text.head? = some '-' then
    if text.tail.head? = some '+' then none else (parseUnsigned (2 ^ 63 + 1) text.tail).map fun n : Nat => -(n : Int)
  else (parseUnsigned (2 ^ 63) text).map Int.ofNat

def cursorPayload (transaction sequence : Nat) (asOf : Int) (nextIndex : Nat) : String :=
  "v1:" ++ transaction.repr ++ ":" ++ sequence.repr ++ ":" ++ asOf.repr ++ ":" ++ nextIndex.repr

def UsageCursor.encode (sha256 : Sha256) (revision : UsageRevision) (asOf : UsageTimestamp) (nextIndex : Nat) : UsageCursor :=
  let payload := cursorPayload revision.transaction.toNat revision.sequence.toNat asOf.unixMillis nextIndex
  ⟨payload ++ ":" ++ hexDigest (sha256 (utf8 payload))⟩

def UsageCursor.decode (sha256 : Sha256) (cursor : UsageCursor) : Except UsageError UsageCursorState := do
  require (cursor.text ≠ "" ∧ byteLen cursor.text ≤ maxUsageCursorBytes ∧ cursor.text.toList.all (·.toNat < 0x80)) .invalidCursor
  match cursor.text.toList.splitOn ':' with
  | version :: transaction :: sequence :: asOf :: nextIndex :: checksum :: more => do
    let transaction ← okOr (parseUnsigned (2 ^ 64) transaction) .invalidCursor
    let sequence ← okOr (parseUnsigned (2 ^ 64) sequence) .invalidCursor
    let asOf ← okOr (parseSigned asOf) .invalidCursor
    let nextIndex ← okOr (parseUnsigned (2 ^ 64) nextIndex) .invalidCursor
    require (version = "v1".toList ∧ more = [] ∧ byteLen (String.ofList checksum) = 64) .invalidCursor
    let payload := cursorPayload transaction sequence asOf nextIndex
    require (checksum = (hexDigest (sha256 (utf8 payload))).toList) .invalidCursor
    return ⟨⟨.ofNat transaction, .ofNat sequence⟩, asOf, nextIndex⟩
  | _ => .error .invalidCursor

def UsageCursor.fromStr (sha256 : Sha256) (value : String) : Except UsageError UsageCursor := do
  let cursor := UsageCursor.mk value
  let _ ← cursor.decode sha256
  return cursor

theorem repr_digit {n : Nat} : ∀ c ∈ n.repr.toList, 48 ≤ c.toNat ∧ c.toNat ≤ 57 := by
  intro c hc
  rw [Nat.toList_repr] at hc
  have := Nat.isDigit_of_mem_toDigits (by decide) (by decide) hc
  simp only [Char.isDigit, Bool.and_eq_true, decide_eq_true_eq, ge_iff_le, UInt32.le_iff_toNat_le] at this
  exact this

theorem parseUnsigned_repr {bound n : Nat} (h : n < bound) : parseUnsigned bound n.repr.toList = some n := by
  have hsign : n.repr.toList.head? ≠ some '+' := by
    intro hhead
    have := repr_digit _ (List.mem_of_mem_head? (Option.mem_def.mpr hhead))
    revert this
    decide
  have hdigits : n.repr.toList ≠ [] ∧ n.repr.toList.all isAsciiDigit := by
    refine ⟨?_, ?_⟩
    · rw [Nat.toList_repr]
      exact Nat.toDigits_ne_nil
    · rw [List.all_eq_true]
      intro c hc
      have := repr_digit c hc
      simp only [isAsciiDigit, Bool.and_eq_true, decide_eq_true_eq]
      omega
  have hvalue : n.repr.toList.foldl (fun value c => 10 * value + (c.toNat - 0x30)) 0 = n := by
    rw [Nat.toList_repr]
    exact Nat.ofDigitChars_ten_toDigits
  unfold parseUnsigned
  rw [if_neg hsign]
  show (if _ then _ else _) = _
  rw [if_pos hdigits, hvalue, if_pos h]

theorem parseSigned_repr {a : Int} (h : -2 ^ 63 ≤ a ∧ a < 2 ^ 63) : parseSigned a.repr.toList = some a := by
  rw [Int.repr_eq_if]
  by_cases ha : 0 ≤ a
  · have hsign : a.toNat.repr.toList.head? ≠ some '-' := by
      intro hhead
      have := repr_digit _ (List.mem_of_mem_head? (Option.mem_def.mpr hhead))
      revert this
      decide
    rw [if_pos ha, parseSigned, if_neg hsign, parseUnsigned_repr (by omega), Option.map_some, Int.ofNat_eq_natCast, Int.toNat_of_nonneg ha]
  · have hsign : (-a).toNat.repr.toList.head? ≠ some '+' := by
      intro hhead
      have := repr_digit _ (List.mem_of_mem_head? (Option.mem_def.mpr hhead))
      revert this
      decide
    rw [if_neg ha, parseSigned, String.toList_append]
    show (if some '-' = some '-' then if (-a).toNat.repr.toList.head? = some '+' then none else _ else _) = _
    rw [if_pos rfl, if_neg hsign]
    show (parseUnsigned (2 ^ 63 + 1) (-a).toNat.repr.toList).map _ = _
    rw [parseUnsigned_repr (by omega), Option.map_some, Int.toNat_of_nonneg (by omega), Int.neg_neg]

/-! ## Reports -/

structure RuntimeUsageQuery where
  pageSize : Option Nat
  cursor : Option UsageCursor

def RuntimeUsageQuery.summaryOnly : RuntimeUsageQuery := ⟨none, none⟩

def RuntimeUsageQuery.page (pageSize : Nat) (cursor : Option UsageCursor) : Except UsageError RuntimeUsageQuery := do
  require (pageSize ≠ 0 ∧ pageSize ≤ maxUsagePageSize) .invalidPageSize
  return ⟨some pageSize, cursor⟩

structure UsageAttemptPage where
  attempts : List UsageAttempt
  nextCursor : Option UsageCursor

structure RuntimeUsageReport where
  revision : UsageRevision
  summary : RuntimeUsageSummary
  page : Option UsageAttemptPage

namespace UsageProjection

/-- Where the page of a cursor starts. -/
def pageStart (sha256 : Sha256) (projection : UsageProjection) (asOf : UsageTimestamp) (revision : UsageRevision) :
    Option UsageCursor → Except UsageError Nat
  | none => .ok 0
  | some cursor => do
    let state ← cursor.decode sha256
    require (state.revision = revision) .staleCursor
    require (state.asOf = asOf.unixMillis) .cursorQueryMismatch
    require (state.nextIndex ≤ projection.attempts.length) .invalidCursor
    return state.nextIndex

def report (sha256 : Sha256) (projection : UsageProjection) (thread : Option Nat) (asOf : UsageTimestamp) (revision : UsageRevision)
    (query : RuntimeUsageQuery) : Except UsageError RuntimeUsageReport :=
  let summary := projection.summary thread asOf
  match query.pageSize with
  | none => .ok ⟨revision, summary, none⟩
  | some pageSize => do
    let start ← projection.pageStart sha256 asOf revision query.cursor
    let finish := min (min (start + pageSize) maxU64) projection.attempts.length
    let nextCursor := if finish < projection.attempts.length then some (.encode sha256 revision asOf finish) else none
    return ⟨revision, summary, some ⟨(projection.attempts.drop start).take (finish - start), nextCursor⟩⟩

end UsageProjection

/-! ## What a cursor is made of -/

/-- A character of a cursor's number. -/
def isNumeral (c : Char) : Prop := c = '-' ∨ 48 ≤ c.toNat ∧ c.toNat ≤ 57

theorem repr_numerals {a : Int} : ∀ c ∈ a.repr.toList, isNumeral c := by
  intro c hc
  rw [Int.repr_eq_if] at hc
  split at hc
  · exact .inr (repr_digit c hc)
  · rw [String.toList_append, List.mem_append] at hc
    rcases hc with hc | hc
    · exact .inl (by simpa using hc)
    · exact .inr (repr_digit c hc)

theorem repr_length {n : Nat} (h : n < 2 ^ 64) : n.repr.toList.length ≤ 20 := by
  rw [Nat.toList_repr]
  exact (Nat.length_toDigits_le_iff (by decide) (by decide)).mpr (by omega)

theorem int_repr_length {a : Int} (h : -2 ^ 63 ≤ a ∧ a < 2 ^ 63) : a.repr.toList.length ≤ 20 := by
  rw [Int.repr_eq_if]
  split
  · exact repr_length (by omega)
  · have hshort : (-a).toNat.repr.toList.length ≤ 19 := by
      rw [Nat.toList_repr]
      exact (Nat.length_toDigits_le_iff (by decide) (by decide)).mpr (by omega)
    rw [String.toList_append, List.length_append]
    show 1 + _ ≤ _
    omega

theorem isNumeral.plain {c : Char} (h : isNumeral c) : c ≠ ':' ∧ c.toNat < 0x80 := by
  rcases h with rfl | ⟨hlow, hhigh⟩
  · decide
  · refine ⟨?_, by omega⟩
    intro hcolon
    subst hcolon
    revert hhigh
    decide

theorem isHexDigest.plain {c : Char} (h : isHexDigest c = true) : c ≠ ':' ∧ c.toNat < 0x80 := by
  refine ⟨?_, isHexDigest_ascii h⟩
  intro hcolon
  subst hcolon
  revert h
  decide

variable {sha256 : Sha256} {revision : UsageRevision} {asOf : UsageTimestamp} {index : Nat}

theorem encode_toList (sha256 : Sha256) (revision : UsageRevision) (asOf : UsageTimestamp) (index : Nat) :
    (UsageCursor.encode sha256 revision asOf index).text.toList = "v1".toList ++ ':' :: (revision.transaction.toNat.repr.toList ++ ':' ::
      (revision.sequence.toNat.repr.toList ++ ':' :: (asOf.unixMillis.repr.toList ++ ':' :: (index.repr.toList ++ ':' ::
        (hexDigest (sha256 (utf8 (cursorPayload revision.transaction.toNat revision.sequence.toNat asOf.unixMillis index)))).toList)))) := by
  simp only [UsageCursor.encode, cursorPayload, String.toList_append, List.append_assoc]
  rfl

/-- A cursor is decoded from the parts between its colons. -/
theorem encode_parts (sha256 : Sha256) (revision : UsageRevision) (asOf : UsageTimestamp) (index : Nat) :
    (UsageCursor.encode sha256 revision asOf index).text.toList.splitOn ':' = ["v1".toList, revision.transaction.toNat.repr.toList,
      revision.sequence.toNat.repr.toList, asOf.unixMillis.repr.toList, index.repr.toList,
      (hexDigest (sha256 (utf8 (cursorPayload revision.transaction.toNat revision.sequence.toNat asOf.unixMillis index)))).toList] := by
  have hnat : ∀ n : Nat, ':' ∉ n.repr.toList := fun n hc => (isNumeral.plain (.inr (repr_digit _ hc))).1 rfl
  have hint : ':' ∉ asOf.unixMillis.repr.toList := fun hc => (repr_numerals _ hc).plain.1 rfl
  have hhex : ∀ digest, ':' ∉ (hexDigest digest).toList := fun digest hc => (isHexDigest.plain (hexDigest_chars digest _ hc)).1 rfl
  rw [encode_toList, List.splitOn_append_cons_self_of_not_mem (by decide), List.splitOn_append_cons_self_of_not_mem (hnat _),
    List.splitOn_append_cons_self_of_not_mem (hnat _), List.splitOn_append_cons_self_of_not_mem hint,
    List.splitOn_append_cons_self_of_not_mem (hnat _), List.splitOn_eq_singleton (hhex _)]

theorem encode_ascii : ∀ c ∈ (UsageCursor.encode sha256 revision asOf index).text.toList, c.toNat < 0x80 := by
  intro c hc
  have hnat : ∀ n : Nat, c ∈ n.repr.toList → c.toNat < 0x80 := fun n hc => (isNumeral.plain (.inr (repr_digit c hc))).2
  have hcolon : (':' : Char).toNat < 0x80 := by decide
  have hversion : ∀ c ∈ "v1".toList, c.toNat < 0x80 := fun c hc => of_decide_eq_true (List.all_eq_true.mp
    (show ("v1".toList.all fun c => decide (c.toNat < 0x80)) = true by decide) c hc)
  simp only [encode_toList, List.mem_append, List.mem_cons] at hc
  rcases hc with hc | rfl | hc | rfl | hc | rfl | hc | rfl | hc | rfl | hc
  · exact hversion c hc
  · exact hcolon
  · exact hnat _ hc
  · exact hcolon
  · exact hnat _ hc
  · exact hcolon
  · exact (repr_numerals c hc).plain.2
  · exact hcolon
  · exact hnat _ hc
  · exact hcolon
  · exact (isHexDigest.plain (hexDigest_chars _ c hc)).2

theorem byteLen_of_ascii {s : String} (h : ∀ c ∈ s.toList, c.toNat < 0x80) : byteLen s = s.toList.length := by
  refine byteLen_ascii fun c hc => ?_
  have hle : c.val.toNat ≤ 127 := Nat.le_of_lt_succ (h c hc)
  rw [Char.utf8Size, if_pos (UInt32.le_iff_toNat_le.mpr hle)]

/-- (1) A cursor reads back. -/
theorem decode_encode (h : index < 2 ^ 64) :
    (UsageCursor.encode sha256 revision asOf index).decode sha256 = .ok ⟨revision, asOf.unixMillis, index⟩ := by
  have hlen : (UsageCursor.encode sha256 revision asOf index).text.toList.length ≤ maxUsageCursorBytes := by
    have htransaction := repr_length revision.transaction.toNat_lt
    have hsequence := repr_length revision.sequence.toNat_lt
    have hasOf := int_repr_length asOf.fits
    have hindex := repr_length h
    have hmax : maxUsageCursorBytes = 160 := rfl
    have hversion : "v1".toList.length = 2 := rfl
    simp only [encode_toList, List.length_append, List.length_cons, hexDigest_length]
    omega
  have hshape : (UsageCursor.encode sha256 revision asOf index).text ≠ "" ∧
      byteLen (UsageCursor.encode sha256 revision asOf index).text ≤ maxUsageCursorBytes ∧
      (UsageCursor.encode sha256 revision asOf index).text.toList.all (·.toNat < 0x80) = true := by
    refine ⟨?_, ?_, ?_⟩
    · intro hempty
      have hnil := congrArg String.toList hempty
      rw [encode_toList] at hnil
      cases hnil
    · rwa [byteLen_of_ascii encode_ascii]
    · rw [List.all_eq_true]
      exact fun c hc => decide_eq_true (encode_ascii c hc)
  have hhex : ∀ digest, byteLen (String.ofList (hexDigest digest).toList) = 64 := by
    intro digest
    rw [String.ofList_toList, byteLen_of_ascii fun c hc => (isHexDigest.plain (hexDigest_chars digest c hc)).2, hexDigest_length]
  unfold UsageCursor.decode
  rw [require_bind hshape, encode_parts]
  simp only [parseUnsigned_repr revision.transaction.toNat_lt, parseUnsigned_repr revision.sequence.toNat_lt, parseSigned_repr asOf.fits,
    parseUnsigned_repr h, okOr_some, ok_bind, hhex]
  rw [require_bind ⟨trivial, trivial, trivial⟩, require_bind trivial, UInt64.ofNat_toNat, UInt64.ofNat_toNat]
  rfl

theorem fromStr_encode (h : index < 2 ^ 64) :
    UsageCursor.fromStr sha256 (UsageCursor.encode sha256 revision asOf index).text = .ok (.encode sha256 revision asOf index) := by
  unfold UsageCursor.fromStr
  show ((UsageCursor.encode sha256 revision asOf index).decode sha256 >>= _) = _
  rw [decode_encode h]
  rfl

/-! ## Page by page -/

namespace UsageProjection

variable {projection : UsageProjection} {thread : Option Nat}

/-- Asks for pages of these sizes, each with the text of the cursor of the one before, until
    there is no cursor. -/
def followPages (sha256 : Sha256) (projection : UsageProjection) (thread : Option Nat) (asOf : UsageTimestamp)
    (revision : UsageRevision) : List Nat → Option UsageCursor → Except UsageError (List (List UsageAttempt) × Option UsageCursor)
  | [], cursor => .ok ([], cursor)
  | size :: sizes, cursor => do
    let query ← RuntimeUsageQuery.page size cursor
    let report ← projection.report sha256 thread asOf revision query
    let page ← okOr report.page .invalidCursor
    match page.nextCursor with
    | none => return ([page.attempts], none)
    | some next => do
      let next ← UsageCursor.fromStr sha256 next.text
      let (pages, cursor) ← followPages sha256 projection thread asOf revision sizes (some next)
      return (page.attempts :: pages, cursor)

theorem pageStart_decoded {cursor : UsageCursor} {state : UsageCursorState} (h : cursor.decode sha256 = .ok state) :
    projection.pageStart sha256 asOf revision (some cursor) = (do
      require (state.revision = revision) .staleCursor
      require (state.asOf = asOf.unixMillis) .cursorQueryMismatch
      require (state.nextIndex ≤ projection.attempts.length) .invalidCursor
      return state.nextIndex) := by
  show (cursor.decode sha256 >>= _) = _
  rw [h, ok_bind]

/-- The cursor of what is left to visit from an index on: none at the end. -/
def cursorAfter (sha256 : Sha256) (asOf : UsageTimestamp) (revision : UsageRevision) (projection : UsageProjection) (finish : Nat) :
    Option UsageCursor :=
  if finish < projection.attempts.length then some (.encode sha256 revision asOf finish) else none

/-- (2) A page has the attempts from its start on, as many as it can, and a cursor to the
    next one unless there are no more. -/
theorem report_page (thread : Option Nat) (hfits : projection.attempts.length ≤ maxVecLength) {start size : Nat} (hstart : start ≤ projection.attempts.length)
    (hsize : size ≤ maxUsagePageSize) {cursor : Option UsageCursor}
    (hcursor : cursor = none ∧ start = 0 ∨ cursor = some (.encode sha256 revision asOf start)) :
    projection.report sha256 thread asOf revision ⟨some size, cursor⟩ = .ok ⟨revision, projection.summary thread asOf,
      some ⟨(projection.attempts.drop start).take size, cursorAfter sha256 asOf revision projection (start + size)⟩⟩ := by
  have hmax : maxVecLength + maxUsagePageSize < 2 ^ 64 := by decide
  have hu64 : maxU64 = 2 ^ 64 - 1 := rfl
  have hpage : projection.pageStart sha256 asOf revision cursor = .ok start := by
    rcases hcursor with ⟨rfl, rfl⟩ | rfl
    · rfl
    · rw [pageStart_decoded (decode_encode (by omega)), require_bind rfl, require_bind rfl, require_bind hstart]
      rfl
  unfold report
  show (projection.pageStart sha256 asOf revision cursor >>= _) = _
  rw [hpage, ok_bind]
  by_cases hmore : start + size < projection.attempts.length
  · have hfinish : min (min (start + size) maxU64) projection.attempts.length = start + size := by omega
    simp only [hfinish, cursorAfter, if_pos hmore, Nat.add_sub_cancel_left]
    rfl
  · have hfinish : min (min (start + size) maxU64) projection.attempts.length = projection.attempts.length := by omega
    have htake : (projection.attempts.drop start).take (projection.attempts.length - start) = (projection.attempts.drop start).take size := by
      rw [List.take_of_length_le (by rw [List.length_drop]), List.take_of_length_le (by rw [List.length_drop]; omega)]
    simp only [hfinish, cursorAfter, if_neg hmore, if_neg (Nat.lt_irrefl _), htake]
    rfl

theorem followPages_last {size : Nat} {sizes : List Nat} {cursor : Option UsageCursor} {attempts : List UsageAttempt}
    {summary : RuntimeUsageSummary} (hsize : size ≠ 0 ∧ size ≤ maxUsagePageSize)
    (hpage : projection.report sha256 thread asOf revision ⟨some size, cursor⟩ = .ok ⟨revision, summary, some ⟨attempts, none⟩⟩) :
    projection.followPages sha256 thread asOf revision (size :: sizes) cursor = .ok ([attempts], none) := by
  unfold followPages RuntimeUsageQuery.page
  rw [require_bind hsize]
  show (projection.report sha256 thread asOf revision ⟨some size, cursor⟩ >>= _) = _
  rw [hpage]
  rfl

theorem followPages_more {size : Nat} {sizes : List Nat} {cursor after : Option UsageCursor} {next : UsageCursor}
    {attempts : List UsageAttempt} {pages : List (List UsageAttempt)} {summary : RuntimeUsageSummary}
    (hsize : size ≠ 0 ∧ size ≤ maxUsagePageSize)
    (hpage : projection.report sha256 thread asOf revision ⟨some size, cursor⟩ = .ok ⟨revision, summary, some ⟨attempts, some next⟩⟩)
    (hnext : UsageCursor.fromStr sha256 next.text = .ok next)
    (hrest : projection.followPages sha256 thread asOf revision sizes (some next) = .ok (pages, after)) :
    projection.followPages sha256 thread asOf revision (size :: sizes) cursor = .ok (attempts :: pages, after) := by
  unfold followPages RuntimeUsageQuery.page
  rw [require_bind hsize]
  show (projection.report sha256 thread asOf revision ⟨some size, cursor⟩ >>= _) = _
  rw [hpage]
  show (UsageCursor.fromStr sha256 next.text >>= _) = _
  rw [hnext]
  show (projection.followPages sha256 thread asOf revision sizes (some next) >>= _) = _
  rw [hrest]
  rfl

/-- The pages from an index on are the attempts from there on, cut into pieces; each page
    but the last takes at least one. -/
theorem followPages_from (hfits : projection.attempts.length ≤ maxVecLength) {sizes : List Nat} : ∀ {start : Nat} {cursor : Option UsageCursor},
    sizes ≠ [] → (∀ size ∈ sizes, size ≠ 0 ∧ size ≤ maxUsagePageSize) → start ≤ projection.attempts.length →
    (cursor = none ∧ start = 0 ∨ cursor = some (.encode sha256 revision asOf start)) →
    ∃ pages next, projection.followPages sha256 thread asOf revision sizes cursor = .ok (pages, next) ∧
      pages.flatten <+: projection.attempts.drop start ∧
      (next = none → pages.flatten = projection.attempts.drop start) ∧
      (projection.attempts.length ≤ start + sizes.length → next = none) := by
  have hmax : maxVecLength < 2 ^ 64 := by decide
  induction sizes with
  | nil => exact fun h => absurd rfl h
  | cons size sizes ih =>
    intro start cursor _ hsizes hstart hcursor
    obtain ⟨hsize, hsizes⟩ := List.forall_mem_cons.mp hsizes
    have hpage := report_page thread hfits hstart hsize.2 hcursor
    have hcut : projection.attempts.drop start =
        (projection.attempts.drop start).take size ++ projection.attempts.drop (start + size) := by
      rw [← List.drop_drop, List.take_append_drop]
    by_cases hmore : start + size < projection.attempts.length
    · rw [cursorAfter, if_pos hmore] at hpage
      by_cases hsome : sizes = []
      · subst hsome
        refine ⟨_, _, followPages_more hsize hpage (fromStr_encode (by omega)) rfl, ?_, fun h => (by cases h), fun h => ?_⟩
        · rw [List.flatten_singleton]
          exact List.take_prefix _ _
        · rw [List.length_singleton] at h
          omega
      · obtain ⟨pages, next, hfollow, hwithin, hall, hstop⟩ := ih hsome hsizes (Nat.le_of_lt hmore) (.inr rfl)
        refine ⟨_, next, followPages_more hsize hpage (fromStr_encode (by omega)) hfollow, ?_, fun h => ?_, fun h => hstop ?_⟩
        · obtain ⟨rest, hrest⟩ := hwithin
          exact ⟨rest, by rw [List.flatten_cons, List.append_assoc, hrest, ← hcut]⟩
        · rw [List.flatten_cons, hall h, ← hcut]
        · rw [List.length_cons] at h
          omega
    · rw [cursorAfter, if_neg hmore] at hpage
      have hend : (projection.attempts.drop start).take size = projection.attempts.drop start :=
        List.take_of_length_le (by rw [List.length_drop]; omega)
      refine ⟨_, none, followPages_last hsize hpage, ?_, fun _ => ?_, fun _ => rfl⟩
      · rw [List.flatten_singleton]
        exact List.take_prefix _ _
      · rw [List.flatten_singleton, hend]

/-- (3) A cursor of another revision is stale. -/
theorem report_stale {other : UsageRevision} {moment : UsageTimestamp} {size : Nat} (hindex : index < 2 ^ 64) (h : other ≠ revision) :
    projection.report sha256 thread asOf revision ⟨some size, some (.encode sha256 other moment index)⟩ = .error .staleCursor := by
  unfold report
  show (projection.pageStart sha256 asOf revision (some _) >>= _) = _
  rw [pageStart_decoded (decode_encode hindex), require_bind_neg h]
  rfl

/-- (3) A cursor of another moment does not match the query. -/
theorem report_mismatch {moment : UsageTimestamp} {size : Nat} (hindex : index < 2 ^ 64) (h : moment ≠ asOf) :
    projection.report sha256 thread asOf revision ⟨some size, some (.encode sha256 revision moment index)⟩ =
      .error .cursorQueryMismatch := by
  have hmillis : moment.unixMillis ≠ asOf.unixMillis := by
    intro heq
    cases moment
    cases asOf
    cases heq
    exact h rfl
  unfold report
  show (projection.pageStart sha256 asOf revision (some _) >>= _) = _
  rw [pageStart_decoded (decode_encode hindex), require_bind rfl, require_bind_neg hmillis]
  rfl

/-! ## Every usage state -/

/-- The number of an attempt and its Turn. -/
def identity (attempt : UsageAttempt) : Nat × Nat := (attempt.turn, attempt.attempt)

theorem Run.distinct {projection : UsageProjection} (hrun : Run default projection) : (projection.attempts.map identity).Nodup := by
  induction hrun with
  | refl => exact List.nodup_nil
  | tail _ hstep ih =>
    cases hstep with
    | @record attempt _ _ hrecord =>
      obtain ⟨_, hnone, hrecord⟩ := bind_ok.mp hrecord
      cases hrecord
      rw [List.map_append, List.map_singleton, List.nodup_append]
      refine ⟨ih, List.nodup_singleton _, fun k hk l hl => ?_⟩
      obtain ⟨other, hother, rfl⟩ := List.mem_map.mp hk
      obtain rfl := List.mem_singleton.mp hl
      intro heq
      have hfree := List.any_eq_false.mp (require_ok.mp hnone) other hother
      simp only [identity, Prod.mk.injEq] at heq
      simp [isAttempt, heq.1, heq.2] at hfree
    | @evaluate turn attempt outcome heval =>
      simp only [recordCostEvaluation, bind_ok, okOr_ok] at heval
      obtain ⟨a, hfind, a', hevaluate, _, _, _, _, _, _, _, _, _, _, hnext⟩ := heval
      cases hnext
      obtain ⟨pre, post, hsplit, hset⟩ := attempt_split hfind
      have hsame := recordCostEvaluation_same hevaluate
      have hidentity : identity a' = identity a := by rw [identity, identity, hsame.turn, hsame.attempt]
      rw [hset, List.map_append, List.map_cons, hidentity]
      rwa [hsplit, List.map_append, List.map_cons] at ih

/-- Every attempt of a usage state is visited once and in order by the pages from no cursor
    on, which end after as many requests as there are attempts; a cursor of another revision
    or moment is refused. -/
theorem pagination_complete (sha256 : Sha256) {projection : UsageProjection} (hrun : Run default projection) (thread : Option Nat)
    (asOf : UsageTimestamp) (revision : UsageRevision) :
    (projection.attempts.map identity).Nodup ∧
    (∀ sizes : List Nat, sizes ≠ [] → (∀ size ∈ sizes, size ≠ 0 ∧ size ≤ maxUsagePageSize) →
      ∃ pages next, projection.followPages sha256 thread asOf revision sizes none = .ok (pages, next) ∧
        pages.flatten <+: projection.attempts ∧ (next = none → pages.flatten = projection.attempts) ∧
        (projection.attempts.length ≤ sizes.length → next = none)) ∧
    (∀ other moment index size, index < 2 ^ 64 → other ≠ revision →
      projection.report sha256 thread asOf revision ⟨some size, some (.encode sha256 other moment index)⟩ = .error .staleCursor) ∧
    (∀ moment index size, index < 2 ^ 64 → moment ≠ asOf →
      projection.report sha256 thread asOf revision ⟨some size, some (.encode sha256 revision moment index)⟩ =
        .error .cursorQueryMismatch) := by
  refine ⟨hrun.distinct, fun sizes hsome hsizes => ?_, fun _ _ _ _ => report_stale, fun _ _ _ => report_mismatch⟩
  obtain ⟨pages, next, hfollow, hwithin, hall, hstop⟩ :=
    @followPages_from sha256 revision asOf projection thread hrun.exact.fits sizes 0 none hsome hsizes (Nat.zero_le _) (.inl ⟨rfl, rfl⟩)
  rw [List.drop_zero] at hwithin hall
  rw [Nat.zero_add] at hstop
  exact ⟨pages, next, hfollow, hwithin, hall, hstop⟩

/-- Two failed attempts, one to a page; the only digest is that of the payload `v1:1:2:0:1`. -/
theorem pagination_complete_failed : ∃ projection : UsageProjection, projection.attempts.length = 2 ∧ ∃ pages,
    projection.followPages (fun _ => #v[0x8c, 0x73, 0xc1, 0xed, 0x57, 0xe9, 0xbf, 0xe8, 0x6b, 0xef, 0x53, 0xbf, 0xd2, 0x44, 0x75, 0x6e,
      0x1a, 0x61, 0x1f, 0x59, 0xf4, 0xcc, 0x30, 0xf5, 0x3b, 0x23, 0xa8, 0x37, 0x44, 0x06, 0x19, 0x35]) none ⟨0, by decide⟩ ⟨1, 2⟩ [1, 1] none =
        .ok (pages, none) ∧ pages.flatten = projection.attempts := by
  let first : UsageAttempt := ⟨1, 1, 1, none, "profile", "model", none, none, none, none, none, none, none, none, none, .failed,
    none, .unknown, none, none, [], .nil⟩
  let second : UsageAttempt := { first with attempt := 2 }
  have hnew : IsNew first :=
    ⟨1, 1, 1, none, "profile", "model", none, none, none, .failed, none, [], none, none, none, first, rfl, rfl⟩
  have hnew' : IsNew second :=
    ⟨2, 1, 1, none, "profile", "model", none, none, none, .failed, none, [], none, none, none, second, rfl, rfl⟩
  have hrecord : ∃ next, default.record first = .ok next := ⟨_, rfl⟩
  obtain ⟨one, hrecord⟩ := hrecord
  have hone : one.attempts = [first] := by
    cases hrecord
    rfl
  have hrecord' : ∃ next, one.record second = .ok next := by
    unfold record
    rw [hone]
    exact ⟨_, rfl⟩
  obtain ⟨two, hrecord'⟩ := hrecord'
  have htwo : two.attempts = [first, second] := by
    obtain ⟨_, _, h⟩ := bind_ok.mp hrecord'
    cases h
    rw [hone]
    rfl
  have hrun : Run default two :=
    (Relation.ReflTransGen.single (.record hnew (by decide) hrecord)).tail (.record hnew' (by rw [hone]; decide) hrecord')
  obtain ⟨_, hpages, _⟩ := pagination_complete (fun _ => #v[0x8c, 0x73, 0xc1, 0xed, 0x57, 0xe9, 0xbf, 0xe8, 0x6b, 0xef, 0x53, 0xbf, 0xd2, 0x44, 0x75, 0x6e,
      0x1a, 0x61, 0x1f, 0x59, 0xf4, 0xcc, 0x30, 0xf5, 0x3b, 0x23, 0xa8, 0x37, 0x44, 0x06, 0x19, 0x35]) hrun none ⟨0, by decide⟩ ⟨1, 2⟩
  obtain ⟨pages, next, hfollow, _, hall, hstop⟩ := hpages [1, 1] (by decide) (by decide)
  obtain rfl := hstop (by rw [htwo]; decide)
  exact ⟨two, by rw [htwo]; rfl, pages, hfollow, hall rfl⟩

end UsageProjection

end GreenTyper.Usage
