/-
  GreenTyper.Lib.Lines — a byte sequence as lines that end in CRLF, LF or CR.

  `splitLines` gives the ended lines and the bytes after the last end; `nextLineEnding`
  finds the first end. A CR that is the last byte seen leaves open whether an LF belongs
  to it, so the line after a CR is read from `dropLf` of what follows (`splitLines_end`).
-/

import GreenTyper.Lib.Bytes

namespace GreenTyper.Lib

def lf : Byte := 0x0a
def cr : Byte := 0x0d

/-- The bytes without an LF at their start. -/
def dropLf : List Byte → List Byte
  | [] => []
  | b :: rest => if b = lf then rest else b :: rest

abbrev Lines := List (List Byte) × List Byte

/-- A line ends before `lines`. -/
def endLine (lines : Lines) : Lines := ([] :: lines.1, lines.2)

/-- The byte `b` stands before `lines`, in the first of them. -/
def extendLine (b : Byte) : Lines → Lines
  | ([], rest) => ([], b :: rest)
  | (line :: lines, rest) => ((b :: line) :: lines, rest)

/-- The lines that end, without their ends, and the bytes after the last end. -/
def splitLines : List Byte → Lines
  | [] => ([], [])
  | b :: bytes =>
    if b = lf then endLine (splitLines bytes)
    else if b = cr then
      match bytes with
      | [] => endLine ([], [])
      | c :: rest => if c = lf then endLine (splitLines rest) else endLine (splitLines (c :: rest))
    else extendLine b (splitLines bytes)

/-- Where the first line ends, and whether it ends in a CR. -/
def nextLineEnding : List Byte → Option (Nat × Bool)
  | [] => none
  | b :: bytes =>
    if b = lf then some (0, false)
    else if b = cr then some (0, true)
    else (nextLineEnding bytes).map fun (index, byCr) => (index + 1, byCr)

/-- What follows a line end: after a CR an LF still belongs to it. -/
def afterEnd (byCr : Bool) (bytes : List Byte) : List Byte := if byCr then dropLf bytes else bytes

theorem splitLines_cons (b : Byte) (bytes : List Byte) : splitLines (b :: bytes) =
    if b = lf then endLine (splitLines bytes)
    else if b = cr then endLine (splitLines (dropLf bytes))
    else extendLine b (splitLines bytes) := by
  cases bytes with
  | nil => rw [splitLines.eq_def]; rfl
  | cons c rest =>
    rw [splitLines.eq_def, dropLf]
    dsimp only
    split
    · rfl
    split
    · split <;> rfl
    · rfl

/-- The first line, and the lines after its end. -/
theorem splitLines_end {bytes : List Byte} : ∀ {index : Nat} {byCr : Bool}, nextLineEnding bytes = some (index, byCr) →
    ∀ more, splitLines (bytes ++ more) =
      (bytes.take index :: (splitLines (afterEnd byCr (bytes.drop (index + 1) ++ more))).1,
        (splitLines (afterEnd byCr (bytes.drop (index + 1) ++ more))).2) := by
  induction bytes with
  | nil => intro index byCr h; cases h
  | cons b bytes ih =>
    intro index byCr h more
    rw [nextLineEnding] at h
    split at h
    · rename_i hb
      cases h
      rw [List.cons_append, splitLines_cons, if_pos hb]
      rfl
    split at h
    · rename_i hlf hb
      cases h
      rw [List.cons_append, splitLines_cons, if_neg hlf, if_pos hb]
      rfl
    rename_i hlf hcr
    obtain ⟨⟨index', byCr'⟩, hnext, heq⟩ := Option.map_eq_some_iff.mp h
    cases heq
    rw [List.cons_append, splitLines_cons, if_neg hlf, if_neg hcr, ih hnext more]
    rfl

/-- Without a line end, the bytes start the first line or are all that is left. -/
theorem splitLines_open {bytes : List Byte} (h : nextLineEnding bytes = none) (more : List Byte) :
    (∃ line lines rest, splitLines (bytes ++ more) = ((bytes ++ line) :: lines, rest)) ∨
      ∃ rest, splitLines (bytes ++ more) = ([], bytes ++ rest) := by
  induction bytes with
  | nil =>
    rcases hsplit : splitLines more with ⟨_ | ⟨line, lines⟩, rest⟩
    · exact .inr ⟨rest, hsplit⟩
    · exact .inl ⟨line, lines, rest, hsplit⟩
  | cons b bytes ih =>
    rw [nextLineEnding] at h
    split at h
    · cases h
    split at h
    · cases h
    rename_i hlf hcr
    rw [List.cons_append, splitLines_cons, if_neg hlf, if_neg hcr]
    rcases ih (Option.map_eq_none_iff.mp h) with ⟨line, lines, rest, hsplit⟩ | ⟨rest, hsplit⟩
    · exact .inl ⟨line, lines, rest, by rw [hsplit]; rfl⟩
    · exact .inr ⟨rest, by rw [hsplit]; rfl⟩

theorem splitLines_of_open {bytes : List Byte} (h : nextLineEnding bytes = none) : splitLines bytes = ([], bytes) := by
  induction bytes with
  | nil => rfl
  | cons b bytes ih =>
    rw [nextLineEnding] at h
    split at h
    · cases h
    split at h
    · cases h
    rename_i hlf hcr
    rw [splitLines_cons, if_neg hlf, if_neg hcr, ih (Option.map_eq_none_iff.mp h)]
    rfl

theorem nextLineEnding_lt {bytes : List Byte} : ∀ {index : Nat} {byCr : Bool},
    nextLineEnding bytes = some (index, byCr) → index < bytes.length := by
  induction bytes with
  | nil => intro index byCr h; cases h
  | cons b bytes ih =>
    intro index byCr h
    rw [nextLineEnding] at h
    split at h
    · cases h
      exact Nat.succ_pos _
    split at h
    · cases h
      exact Nat.succ_pos _
    obtain ⟨⟨index', byCr'⟩, hnext, heq⟩ := Option.map_eq_some_iff.mp h
    cases heq
    exact Nat.succ_lt_succ (ih hnext)

end GreenTyper.Lib
