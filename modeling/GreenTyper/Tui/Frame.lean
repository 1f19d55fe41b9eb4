/-
  GreenTyper.Tui.Frame — the cells of a screen (`TerminalFrame` of `terminal.rs`).

  A row is written symbol by symbol, up to the first that does not fit; a wide symbol takes
  a cell and the continuation after it. A grapheme of no column or of more than two ends the
  frame: that is the only way it can fail (`frame_built`). A row that is written once is well
  formed (`setCells_wellFormed`); on a screen without a body the notice is written over the
  status line, and may leave the second half of a symbol that it took the first half of.

  A frame is its rows here: the cell `row * width + column` of the source is the one in
  `column` of `row`.
-/

import GreenTyper.Tui.Layout

namespace GreenTyper.Tui

open Lib

def maxTerminalColumns : Nat := 512
def maxTerminalRows : Nat := 256
def maxTerminalCells : Nat := 128 * 1024

inductive TerminalError where
  | invalidDimensions
  | dimensionMismatch
  | unsupportedCellWidth
  /-- An index out of range, which ends the program. -/
  | panicked
  deriving DecidableEq

inductive TerminalStyle where
  | plain
  | header
  | accent
  | dim
  | warning
  deriving DecidableEq

structure TerminalCell where
  symbol : String
  continuation : Bool
  style : TerminalStyle
  deriving DecidableEq

def TerminalCell.blank : TerminalCell := ⟨" ", false, .plain⟩

structure TerminalFrame where
  width : Nat
  height : Nat
  rows : List (List TerminalCell)
  deriving DecidableEq

variable (unicode : Unicode)

/-- The cells of one symbol. -/
def placeSymbol (cells : List TerminalCell) (column : Nat) (symbol : String) (width : Nat) (style : TerminalStyle) : List TerminalCell :=
  (List.range' 1 (width - 1)).foldl (fun cells continued => cells.set (column + continued) ⟨"", true, style⟩)
    (cells.set column ⟨symbol, false, style⟩)

/-- The loop of `set_row`. -/
def setCells (style : TerminalStyle) : List String → Nat → List TerminalCell → Except TerminalError (List TerminalCell)
  | [], _, cells => .ok cells
  | grapheme :: rest, column, cells =>
    let displayWidth := unicode.width grapheme
    if displayWidth = 0 ∨ 2 < displayWidth then .error .unsupportedCellWidth
    else if cells.length < column + displayWidth then .ok cells
    else setCells style rest (column + displayWidth) (placeSymbol cells column grapheme displayWidth style)

namespace TerminalFrame

def blank (width height : Nat) : Except TerminalError TerminalFrame := do
  require (width * height ≤ maxTerminalCells) .invalidDimensions
  require (width ≠ 0 ∧ height ≠ 0 ∧ width ≤ maxTerminalColumns ∧ height ≤ maxTerminalRows) .invalidDimensions
  return ⟨width, height, List.replicate height (List.replicate width .blank)⟩

def setRow (frame : TerminalFrame) (row : Nat) (text : String) (style : TerminalStyle) : Except TerminalError TerminalFrame := do
  let cells ← okOr frame.rows[row]? .panicked
  let cells ← setCells unicode style (unicode.graphemes text) 0 cells
  return { frame with rows := frame.rows.set row cells }

/-- The rows from `row` on, each with its style. -/
def setRows (frame : TerminalFrame) : Nat → List (String × TerminalStyle) → Except TerminalError TerminalFrame
  | _, [] => .ok frame
  | row, (text, style) :: rest => do (← frame.setRow unicode row text style).setRows (row + 1) rest

/-- The style of a row of the body. -/
def bodyRow (index : Nat) (row : LayoutRowView) : String × TerminalStyle :=
  (row.text, if row.selected then .accent else if index = 0 then .header else .plain)

def fromLayoutWithNotice (layout : PresentationLayoutView) (notice : Option String) : Except TerminalError TerminalFrame := do
  let frame ← blank layout.viewport.columns layout.viewport.height.toNat
  let statusStart := layout.viewport.height.toNat - layout.statusline.rows.length
  let noticeRow := notice.map fun _ => statusStart - 1
  let bodyLimit := noticeRow.getD statusStart
  let frame ← frame.setRows unicode 0 ((layout.body.take bodyLimit).mapIdx bodyRow)
  let frame ← frame.setRows unicode statusStart (layout.statusline.rows.map fun row => (row.text, .dim))
  match notice, noticeRow with
  | some notice, some noticeRow => frame.setRow unicode noticeRow (sanitizeControls notice) .warning
  | _, _ => return frame

end TerminalFrame

/-! ## Well-formed rows -/

/-- Symbols of one column, and symbols of two with their continuation. -/
inductive WellFormedRow : List TerminalCell → Prop where
  | nil : WellFormedRow []
  | narrow {symbol : String} {style : TerminalStyle} {rest : List TerminalCell} (hwidth : unicode.width symbol = 1)
    (hrest : WellFormedRow rest) : WellFormedRow (⟨symbol, false, style⟩ :: rest)
  | wide {symbol : String} {style : TerminalStyle} {rest : List TerminalCell} (hwidth : unicode.width symbol = 2)
    (hrest : WellFormedRow rest) : WellFormedRow (⟨symbol, false, style⟩ :: ⟨"", true, style⟩ :: rest)

def TerminalFrame.WellFormed (frame : TerminalFrame) : Prop := ∀ cells ∈ frame.rows, WellFormedRow unicode cells

section Rows

variable {unicode} {cells rest : List TerminalCell} {style : TerminalStyle}

theorem WellFormedRow.append (h : WellFormedRow unicode cells) (hrest : WellFormedRow unicode rest) :
    WellFormedRow unicode (cells ++ rest) := by
  induction h with
  | nil => exact hrest
  | narrow hwidth _ ih => exact .narrow hwidth ih
  | wide hwidth _ ih => exact .wide hwidth ih

theorem wellFormed_blank (hspace : unicode.width " " = 1) (width : Nat) : WellFormedRow unicode (List.replicate width .blank) := by
  induction width with
  | zero => exact .nil
  | succ width ih => exact .narrow hspace ih

/-- A row begins with a symbol. -/
theorem WellFormedRow.head {cell : TerminalCell} (h : WellFormedRow unicode (cell :: rest)) : cell.continuation = false := by
  cases h <;> rfl

/-- A row falls into two where the second part begins with a symbol. -/
theorem WellFormedRow.split (h : WellFormedRow unicode (cells ++ rest)) (hhead : ∀ cell ∈ rest.head?, cell.continuation = false) :
    WellFormedRow unicode cells ∧ WellFormedRow unicode rest := by
  generalize hall : cells ++ rest = all at h
  induction h generalizing cells with
  | nil =>
    obtain ⟨hcells, hrest⟩ := List.append_eq_nil_iff.mp hall
    rw [hcells, hrest]
    exact ⟨.nil, .nil⟩
  | narrow hwidth hrow ih =>
    cases cells with
    | nil =>
      rw [List.nil_append] at hall
      rw [hall]
      exact ⟨.nil, .narrow hwidth hrow⟩
    | cons cell cells =>
      rw [List.cons_append, List.cons.injEq] at hall
      obtain ⟨hleft, hright⟩ := ih hall.2
      rw [hall.1]
      exact ⟨.narrow hwidth hleft, hright⟩
  | wide hwidth hrow ih =>
    cases cells with
    | nil =>
      rw [List.nil_append] at hall
      rw [hall]
      exact ⟨.nil, .wide hwidth hrow⟩
    | cons cell cells =>
      rw [List.cons_append, List.cons.injEq] at hall
      obtain ⟨hcell, hall⟩ := hall
      cases cells with
      | nil =>
        -- The second part would begin with the continuation.
        rw [List.nil_append] at hall
        rw [hall] at hhead
        cases hhead _ rfl
      | cons next cells =>
        rw [List.cons_append, List.cons.injEq] at hall
        obtain ⟨hleft, hright⟩ := ih hall.2
        rw [hcell, hall.1]
        exact ⟨.wide hwidth hleft, hright⟩

/-- A continuation follows its symbol, and is that of no other. -/
theorem WellFormedRow.before {cell : TerminalCell} (h : WellFormedRow unicode (cells ++ cell :: rest)) (hcell : cell.continuation = true) :
    ∃ before symbol style, cells = before ++ [⟨symbol, false, style⟩] ∧ unicode.width symbol = 2 ∧ cell = ⟨"", true, style⟩ := by
  generalize hall : cells ++ cell :: rest = all at h
  induction h generalizing cells with
  | nil => cases List.append_eq_nil_iff.mp hall with | intro _ hcons => cases hcons
  | @narrow symbol style tail hwidth hrow ih =>
    cases cells with
    | nil =>
      rw [List.nil_append, List.cons.injEq] at hall
      rw [hall.1] at hcell
      cases hcell
    | cons first cells =>
      rw [List.cons_append, List.cons.injEq] at hall
      obtain ⟨before, found, foundStyle, hcells, hfound, hsame⟩ := ih hall.2
      exact ⟨first :: before, found, foundStyle, by rw [hcells]; rfl, hfound, hsame⟩
  | @wide symbol style tail hwidth hrow ih =>
    cases cells with
    | nil =>
      rw [List.nil_append, List.cons.injEq] at hall
      rw [hall.1] at hcell
      cases hcell
    | cons first cells =>
      rw [List.cons_append, List.cons.injEq] at hall
      obtain ⟨hfirst, hall⟩ := hall
      cases cells with
      | nil =>
        rw [List.nil_append, List.cons.injEq] at hall
        exact ⟨[], symbol, style, by rw [hfirst]; rfl, hwidth, hall.1⟩
      | cons next cells =>
        rw [List.cons_append, List.cons.injEq] at hall
        obtain ⟨before, found, foundStyle, hcells, hfound, hsame⟩ := ih hall.2
        exact ⟨first :: next :: before, found, foundStyle, by rw [hcells]; rfl, hfound, hsame⟩

/-- A wide symbol is followed by its continuation. -/
theorem WellFormedRow.after {cell : TerminalCell} (hempty : unicode.width "" = 0) (h : WellFormedRow unicode (cells ++ cell :: rest))
    (hcell : unicode.width cell.symbol = 2) : ∃ tail, rest = ⟨"", true, cell.style⟩ :: tail := by
  generalize hall : cells ++ cell :: rest = all at h
  induction h generalizing cells with
  | nil => cases List.append_eq_nil_iff.mp hall with | intro _ hcons => cases hcons
  | @narrow symbol style tail hwidth hrow ih =>
    cases cells with
    | nil =>
      rw [List.nil_append, List.cons.injEq] at hall
      rw [hall.1, hwidth] at hcell
      cases hcell
    | cons first cells =>
      rw [List.cons_append, List.cons.injEq] at hall
      exact ih hall.2
  | @wide symbol style tail hwidth hrow ih =>
    cases cells with
    | nil =>
      rw [List.nil_append, List.cons.injEq] at hall
      rw [hall.1, hall.2]
      exact ⟨tail, rfl⟩
    | cons first cells =>
      rw [List.cons_append, List.cons.injEq] at hall
      obtain ⟨_, hall⟩ := hall
      cases cells with
      | nil =>
        rw [List.nil_append, List.cons.injEq] at hall
        rw [hall.1, hempty] at hcell
        cases hcell
      | cons next cells =>
        rw [List.cons_append, List.cons.injEq] at hall
        exact ih hall.2

end Rows

/-! ## Writing a row -/

section Cells

variable {unicode} {cells : List TerminalCell} {symbol : String} {style : TerminalStyle}

theorem placeSymbol_length (cells : List TerminalCell) (column : Nat) (symbol : String) (width : Nat) (style : TerminalStyle) :
    (placeSymbol cells column symbol width style).length = cells.length := by
  unfold placeSymbol
  generalize hlist : List.range' 1 (width - 1) = continued
  clear hlist
  generalize hfirst : cells.set column ⟨symbol, false, style⟩ = first
  have hlength : first.length = cells.length := by rw [← hfirst, List.length_set]
  rw [← hlength]
  clear hfirst hlength
  induction continued generalizing first with
  | nil => rfl
  | cons offset continued ih => rw [List.foldl_cons, ih, List.length_set]

theorem placeSymbol_narrow (before : List TerminalCell) (cell : TerminalCell) (after : List TerminalCell) :
    placeSymbol (before ++ cell :: after) before.length symbol 1 style = before ++ ⟨symbol, false, style⟩ :: after := by
  show (before ++ cell :: after).set before.length _ = _
  rw [List.set_append_right _ _ (Nat.le_refl _), Nat.sub_self, List.set_cons_zero]

theorem placeSymbol_wide (before : List TerminalCell) (cell next : TerminalCell) (after : List TerminalCell) :
    placeSymbol (before ++ cell :: next :: after) before.length symbol 2 style =
      before ++ ⟨symbol, false, style⟩ :: ⟨"", true, style⟩ :: after := by
  show ((before ++ cell :: next :: after).set before.length _).set (before.length + 1) _ = _
  rw [List.set_append_right _ _ (Nat.le_refl _), Nat.sub_self, List.set_cons_zero,
    List.set_append_right _ _ (by omega), Nat.add_sub_cancel_left, List.set_cons_succ, List.set_cons_zero]

/-- Each grapheme that begins in a row of `width` columns takes one column or two. -/
def Drawable (unicode : Unicode) (graphemes : List String) (width : Nat) : Prop :=
  ∀ before grapheme after, graphemes = before ++ grapheme :: after → (before.map unicode.width).sum ≤ width →
    unicode.width grapheme = 1 ∨ unicode.width grapheme = 2

theorem drawable_cons {grapheme : String} {rest : List String} {width : Nat} : Drawable unicode (grapheme :: rest) width ↔
    (unicode.width grapheme = 1 ∨ unicode.width grapheme = 2) ∧
      (unicode.width grapheme ≤ width → Drawable unicode rest (width - unicode.width grapheme)) := by
  constructor
  · intro h
    refine ⟨h [] grapheme rest rfl (Nat.zero_le _), ?_⟩
    intro hfits before next after hrest hbefore
    refine h (grapheme :: before) next after (by rw [hrest]; rfl) ?_
    rw [List.map_cons, List.sum_cons]
    omega
  · intro h before next after hrest hbefore
    cases before with
    | nil =>
      rw [List.nil_append, List.cons.injEq] at hrest
      rw [← hrest.1]
      exact h.1
    | cons first before =>
      rw [List.cons_append, List.cons.injEq] at hrest
      rw [List.map_cons, List.sum_cons, ← hrest.1] at hbefore
      exact h.2 (by omega) before next after hrest.2 (by omega)

/-- What succeeds where `p` holds, and fails for a grapheme's width where it does not. -/
def Guarded {α : Type} (p : Prop) (result : Except TerminalError α) : Prop :=
  (p ∧ ∃ value, result = .ok value) ∨ (¬ p ∧ result = .error .unsupportedCellWidth)

theorem Guarded.bind {α β : Type} {p q : Prop} {first : Except TerminalError α} {next : α → Except TerminalError β}
    (h : Guarded p first) (hnext : ∀ value, first = .ok value → Guarded q (next value)) : Guarded (p ∧ q) (first >>= next) := by
  rcases h with ⟨hp, value, hvalue⟩ | ⟨hp, hvalue⟩
  · rw [hvalue, ok_bind]
    rcases hnext value hvalue with ⟨hq, hlast⟩ | ⟨hq, hlast⟩
    · exact Or.inl ⟨⟨hp, hq⟩, hlast⟩
    · exact Or.inr ⟨fun h => hq h.2, hlast⟩
  · rw [hvalue, error_bind]
    exact Or.inr ⟨fun h => hp h.1, rfl⟩

theorem Guarded.congr {α : Type} {p q : Prop} {result : Except TerminalError α} (h : Guarded p result) (hiff : p ↔ q) :
    Guarded q result := by
  rw [propext hiff] at h
  exact h

theorem setCells_guarded (style : TerminalStyle) (graphemes : List String) : ∀ {column : Nat} {cells : List TerminalCell},
    column ≤ cells.length → Guarded (Drawable unicode graphemes (cells.length - column)) (setCells unicode style graphemes column cells) := by
  induction graphemes with
  | nil =>
    intro column cells _
    refine Or.inl ⟨?_, cells, rfl⟩
    intro before grapheme after h
    exact absurd h.symm (by simp)
  | cons grapheme rest ih =>
    intro column cells hcolumn
    unfold setCells
    dsimp only
    by_cases hwidth : unicode.width grapheme = 0 ∨ 2 < unicode.width grapheme
    · rw [if_pos hwidth]
      refine Or.inr ⟨fun h => ?_, rfl⟩
      have := (drawable_cons.mp h).1
      omega
    rw [if_neg hwidth]
    by_cases hfull : cells.length < column + unicode.width grapheme
    · rw [if_pos hfull]
      refine Or.inl ⟨drawable_cons.mpr ⟨by omega, fun h => ?_⟩, cells, rfl⟩
      omega
    · rw [if_neg hfull]
      have hrest := ih (show column + unicode.width grapheme ≤
        (placeSymbol cells column grapheme (unicode.width grapheme) style).length by rw [placeSymbol_length]; omega)
      rw [placeSymbol_length] at hrest
      refine hrest.congr ?_
      rw [drawable_cons, Nat.sub_add_eq]
      constructor
      · exact fun h => ⟨by omega, fun _ => h⟩
      · exact fun h => h.2 (by omega)

theorem setCells_length (graphemes : List String) : ∀ {column : Nat} {cells written : List TerminalCell},
    setCells unicode style graphemes column cells = .ok written → written.length = cells.length := by
  induction graphemes with
  | nil =>
    intro column cells written h
    cases h
    rfl
  | cons grapheme rest ih =>
    intro column cells written h
    unfold setCells at h
    dsimp only at h
    by_cases hwidth : unicode.width grapheme = 0 ∨ 2 < unicode.width grapheme
    · rw [if_pos hwidth] at h
      cases h
    rw [if_neg hwidth] at h
    by_cases hfull : cells.length < column + unicode.width grapheme
    · rw [if_pos hfull] at h
      cases h
      rfl
    · rw [if_neg hfull] at h
      rw [ih h, placeSymbol_length]

/-- A row written once, on blanks, is well formed. -/
theorem setCells_wellFormed (hspace : unicode.width " " = 1) (graphemes : List String) :
    ∀ {before written : List TerminalCell} (blanks : Nat), WellFormedRow unicode before →
      setCells unicode style graphemes before.length (before ++ List.replicate blanks .blank) = .ok written →
        WellFormedRow unicode written := by
  induction graphemes with
  | nil =>
    intro before written blanks hbefore h
    cases h
    exact hbefore.append (wellFormed_blank hspace blanks)
  | cons grapheme rest ih =>
    intro before written blanks hbefore h
    unfold setCells at h
    dsimp only at h
    by_cases hwidth : unicode.width grapheme = 0 ∨ 2 < unicode.width grapheme
    · rw [if_pos hwidth] at h
      cases h
    rw [if_neg hwidth, List.length_append, List.length_replicate] at h
    by_cases hfull : before.length + blanks < before.length + unicode.width grapheme
    · rw [if_pos hfull] at h
      cases h
      exact hbefore.append (wellFormed_blank hspace blanks)
    rw [if_neg hfull] at h
    by_cases hnarrow : unicode.width grapheme = 1
    · obtain ⟨left, hleft⟩ := Nat.exists_eq_add_of_le (show 1 ≤ blanks by omega)
      rw [hnarrow, hleft, Nat.add_comm 1, List.replicate_succ, placeSymbol_narrow] at h
      have hnext : WellFormedRow unicode (before ++ [⟨grapheme, false, style⟩]) := hbefore.append (.narrow hnarrow .nil)
      refine ih left hnext ?_
      rw [List.length_append, List.append_assoc]
      exact h
    · have hwide : unicode.width grapheme = 2 := by omega
      obtain ⟨left, hleft⟩ := Nat.exists_eq_add_of_le (show 2 ≤ blanks by omega)
      rw [hwide, hleft, Nat.add_comm 2, List.replicate_succ, List.replicate_succ, placeSymbol_wide] at h
      have hnext : WellFormedRow unicode (before ++ [⟨grapheme, false, style⟩, ⟨"", true, style⟩]) := hbefore.append (.wide hwide .nil)
      refine ih left hnext ?_
      rw [List.length_append, List.append_assoc]
      exact h

end Cells

/-! ## Writing a frame -/

namespace TerminalFrame

/-- As many rows as its height, each of its width. -/
def Shaped (frame : TerminalFrame) : Prop := frame.rows.length = frame.height ∧ ∀ cells ∈ frame.rows, cells.length = frame.width

/-- Rows written one after the other: the row, its text and the style. -/
def writeRows (frame : TerminalFrame) : List (Nat × String × TerminalStyle) → Except TerminalError TerminalFrame
  | [] => .ok frame
  | (row, text, style) :: rest => do (← frame.setRow unicode row text style).writeRows rest

/-- A blank screen with rows written on it. -/
def written (width height : Nat) (writes : List (Nat × String × TerminalStyle)) : Except TerminalError TerminalFrame := do
  (← blank width height).writeRows unicode writes

section Writes

variable {unicode} {frame result : TerminalFrame} {width height row : Nat} {text : String} {style : TerminalStyle}

theorem blank_ok : blank width height = .ok frame ↔
    (width * height ≤ maxTerminalCells ∧ width ≠ 0 ∧ height ≠ 0 ∧ width ≤ maxTerminalColumns ∧ height ≤ maxTerminalRows) ∧
      frame = ⟨width, height, List.replicate height (List.replicate width .blank)⟩ := by
  unfold blank
  rw [seq_ok, require_ok, seq_ok, require_ok]
  constructor
  · intro ⟨hcells, hsize, h⟩
    cases h
    exact ⟨⟨hcells, hsize⟩, rfl⟩
  · intro ⟨⟨hcells, hsize⟩, h⟩
    rw [h]
    exact ⟨hcells, hsize, rfl⟩

theorem blank_shaped (h : blank width height = .ok frame) : frame.Shaped := by
  obtain ⟨_, hframe⟩ := blank_ok.mp h
  rw [hframe]
  exact ⟨List.length_replicate, fun cells hcells => by rw [List.eq_of_mem_replicate hcells, List.length_replicate]⟩

theorem blank_wellFormed (hspace : unicode.width " " = 1) (h : blank width height = .ok frame) : frame.WellFormed unicode := by
  obtain ⟨_, hframe⟩ := blank_ok.mp h
  rw [hframe]
  intro cells hcells
  rw [List.eq_of_mem_replicate hcells]
  exact wellFormed_blank hspace width

theorem setRow_ok : frame.setRow unicode row text style = .ok result ↔ ∃ cells written, frame.rows[row]? = some cells ∧
    setCells unicode style (unicode.graphemes text) 0 cells = .ok written ∧ result = { frame with rows := frame.rows.set row written } := by
  unfold setRow
  constructor
  · intro h
    obtain ⟨cells, hcells, h⟩ := bind_ok.mp h
    obtain ⟨written, hwritten, h⟩ := bind_ok.mp h
    cases h
    exact ⟨cells, written, okOr_ok.mp hcells, hwritten, rfl⟩
  · intro ⟨cells, written, hcells, hwritten, h⟩
    rw [hcells, okOr_some, ok_bind, hwritten, h]
    rfl

theorem setRow_shaped (hshaped : frame.Shaped) (h : frame.setRow unicode row text style = .ok result) :
    result.Shaped ∧ result.width = frame.width ∧ result.height = frame.height := by
  obtain ⟨cells, written, hcells, hwritten, hresult⟩ := setRow_ok.mp h
  rw [hresult]
  refine ⟨⟨?_, ?_⟩, rfl, rfl⟩
  · rw [List.length_set]
    exact hshaped.1
  · intro other hother
    rcases List.mem_or_eq_of_mem_set hother with hold | hnew
    · exact hshaped.2 other hold
    · rw [hnew, setCells_length _ hwritten]
      exact hshaped.2 cells (List.mem_of_getElem? hcells)

theorem setRow_guarded (hshaped : frame.Shaped) (hrow : row < frame.height) (text : String) (style : TerminalStyle) :
    Guarded (Drawable unicode (unicode.graphemes text) frame.width) (frame.setRow unicode row text style) := by
  have hlt : row < frame.rows.length := by rw [hshaped.1]; exact hrow
  have hlength := hshaped.2 _ (List.getElem_mem hlt)
  have hcells : Guarded (Drawable unicode (unicode.graphemes text) (frame.rows[row].length - 0)) _ :=
    setCells_guarded style (unicode.graphemes text) (Nat.zero_le _)
  rw [Nat.sub_zero, hlength] at hcells
  unfold setRow
  rw [List.getElem?_eq_getElem hlt, okOr_some, ok_bind]
  refine (hcells.bind (q := True) fun value _ => Or.inl ⟨trivial, _, rfl⟩).congr ?_
  rw [and_true]

theorem writeRows_shaped (writes : List (Nat × String × TerminalStyle)) : ∀ {frame : TerminalFrame}, frame.Shaped →
    frame.writeRows unicode writes = .ok result → result.Shaped ∧ result.width = frame.width ∧ result.height = frame.height := by
  induction writes with
  | nil =>
    intro frame hshaped h
    cases h
    exact ⟨hshaped, rfl, rfl⟩
  | cons write rest ih =>
    obtain ⟨row, text, style⟩ := write
    intro frame hshaped h
    obtain ⟨next, hnext, h⟩ := bind_ok.mp h
    obtain ⟨hshaped, hwidth, hheight⟩ := setRow_shaped hshaped hnext
    obtain ⟨hresult, hwidth', hheight'⟩ := ih hshaped h
    exact ⟨hresult, hwidth'.trans hwidth, hheight'.trans hheight⟩

theorem writeRows_guarded (writes : List (Nat × String × TerminalStyle)) : ∀ {frame : TerminalFrame}, frame.Shaped →
    (∀ write ∈ writes, write.1 < frame.height) →
      Guarded (∀ write ∈ writes, Drawable unicode (unicode.graphemes write.2.1) frame.width) (frame.writeRows unicode writes) := by
  induction writes with
  | nil => exact fun _ _ => Or.inl ⟨fun _ h => absurd h List.not_mem_nil, _, rfl⟩
  | cons write rest ih =>
    obtain ⟨row, text, style⟩ := write
    intro frame hshaped hrows
    obtain ⟨hrow, hrows⟩ := List.forall_mem_cons.mp hrows
    rw [List.forall_mem_cons]
    refine (setRow_guarded hshaped hrow text style).bind fun next hnext => ?_
    obtain ⟨hshaped, hwidth, hheight⟩ := setRow_shaped hshaped hnext
    rw [← hwidth]
    exact ih hshaped (by rw [hheight]; exact hrows)

/-- Rows that are each written once are well formed. -/
theorem writeRows_wellFormed (hspace : unicode.width " " = 1) (writes : List (Nat × String × TerminalStyle)) :
    ∀ {frame : TerminalFrame}, frame.WellFormed unicode → (writes.map (·.1)).Nodup →
      (∀ write ∈ writes, frame.rows[write.1]? = some (List.replicate frame.width .blank)) →
        frame.writeRows unicode writes = .ok result → result.WellFormed unicode := by
  induction writes with
  | nil =>
    intro frame hwell _ _ h
    cases h
    exact hwell
  | cons write rest ih =>
    obtain ⟨row, text, style⟩ := write
    intro frame hwell hdistinct hblank h
    obtain ⟨next, hnext, h⟩ := bind_ok.mp h
    obtain ⟨cells, written, hcells, hwritten, hnext⟩ := setRow_ok.mp hnext
    rw [List.map_cons, List.nodup_cons] at hdistinct
    obtain ⟨hfirst, hblank⟩ := List.forall_mem_cons.mp hblank
    cases hcells.symm.trans hfirst
    refine ih ?_ hdistinct.2 ?_ h
    · rw [hnext]
      intro other hother
      rcases List.mem_or_eq_of_mem_set hother with hold | hnew
      · exact hwell other hold
      · rw [hnew]
        exact setCells_wellFormed hspace _ frame.width .nil hwritten
    · intro write hwrite
      have hne : row ≠ write.1 := fun h => hdistinct.1 (List.mem_map.mpr ⟨write, hwrite, h.symm⟩)
      rw [hnext, List.getElem?_set_ne hne]
      exact hblank write hwrite

theorem written_shaped {writes : List (Nat × String × TerminalStyle)} (h : written unicode width height writes = .ok frame) :
    frame.Shaped ∧ frame.width = width ∧ frame.height = height := by
  obtain ⟨first, hblank, h⟩ := bind_ok.mp h
  obtain ⟨hshaped, hwidth, hheight⟩ := writeRows_shaped writes (blank_shaped hblank) h
  obtain ⟨_, hfirst⟩ := blank_ok.mp hblank
  rw [hfirst] at hwidth hheight
  exact ⟨hshaped, hwidth, hheight⟩

theorem written_wellFormed (hspace : unicode.width " " = 1) {writes : List (Nat × String × TerminalStyle)}
    (hdistinct : (writes.map (·.1)).Nodup) (hrows : ∀ write ∈ writes, write.1 < height)
    (h : written unicode width height writes = .ok frame) : frame.WellFormed unicode := by
  obtain ⟨first, hblank, h⟩ := bind_ok.mp h
  refine writeRows_wellFormed hspace writes (blank_wellFormed hspace hblank) hdistinct ?_ h
  obtain ⟨_, hfirst⟩ := blank_ok.mp hblank
  intro write hwrite
  rw [hfirst, List.getElem?_replicate_of_lt (hrows write hwrite)]

end Writes

end TerminalFrame

/-! ## The frame of a layout -/

/-- Rows one below the other. -/
def rowWrites (row : Nat) (rows : List (String × TerminalStyle)) : List (Nat × String × TerminalStyle) :=
  (rows.zipIdx row).map fun (entry, row) => (row, entry)

/-- Where the status line begins. -/
def PresentationLayoutView.statusStart (layout : PresentationLayoutView) : Nat :=
  layout.viewport.height.toNat - layout.statusline.rows.length

/-- What `from_layout_with_notice` writes, in its order. -/
def layoutWrites (layout : PresentationLayoutView) (notice : Option String) : List (Nat × String × TerminalStyle) :=
  let bodyLimit := (notice.map fun _ => layout.statusStart - 1).getD layout.statusStart
  rowWrites 0 ((layout.body.take bodyLimit).mapIdx TerminalFrame.bodyRow) ++
    rowWrites layout.statusStart (layout.statusline.rows.map fun row => (row.text, .dim)) ++
      (notice.map fun notice => (layout.statusStart - 1, sanitizeControls notice, TerminalStyle.warning)).toList

section Layouts

variable {unicode} {frame : TerminalFrame} {layout : PresentationLayoutView} {status : StatuslineView} {notice : Option String}

theorem rowWrites_cons (row : Nat) (entry : String × TerminalStyle) (rows : List (String × TerminalStyle)) :
    rowWrites row (entry :: rows) = (row, entry) :: rowWrites (row + 1) rows := rfl

theorem rowWrites_rows (row : Nat) (rows : List (String × TerminalStyle)) :
    (rowWrites row rows).map (·.1) = List.range' row rows.length := by
  unfold rowWrites
  rw [List.map_map]
  exact List.zipIdx_map_snd row rows

theorem setRows_eq (rows : List (String × TerminalStyle)) : ∀ (frame : TerminalFrame) (row : Nat),
    frame.setRows unicode row rows = frame.writeRows unicode (rowWrites row rows) := by
  induction rows with
  | nil => exact fun _ _ => rfl
  | cons entry rows ih =>
    obtain ⟨text, style⟩ := entry
    intro frame row
    rw [rowWrites_cons]
    show (frame.setRow unicode row text style >>= fun frame => frame.setRows unicode (row + 1) rows) =
      (frame.setRow unicode row text style >>= fun frame => frame.writeRows unicode (rowWrites (row + 1) rows))
    congr 1
    funext next
    exact ih next (row + 1)

theorem writeRows_append (writes writes' : List (Nat × String × TerminalStyle)) : ∀ frame : TerminalFrame,
    frame.writeRows unicode (writes ++ writes') = frame.writeRows unicode writes >>= fun frame => frame.writeRows unicode writes' := by
  induction writes with
  | nil => exact fun _ => rfl
  | cons write writes ih =>
    obtain ⟨row, text, style⟩ := write
    intro frame
    show (frame.setRow unicode row text style >>= fun frame => frame.writeRows unicode (writes ++ writes')) =
      (frame.setRow unicode row text style >>= fun frame => frame.writeRows unicode writes) >>= _
    rw [bind_assoc]
    congr 1
    funext next
    exact ih next

/-- The frame of a layout is written row by row. -/
theorem fromLayout_written (layout : PresentationLayoutView) (notice : Option String) :
    TerminalFrame.fromLayoutWithNotice unicode layout notice =
      TerminalFrame.written unicode layout.viewport.columns layout.viewport.height.toNat (layoutWrites layout notice) := by
  unfold TerminalFrame.fromLayoutWithNotice TerminalFrame.written layoutWrites
  congr 1
  funext frame
  rw [writeRows_append, writeRows_append, bind_assoc]
  dsimp only
  rw [setRows_eq]
  unfold PresentationLayoutView.statusStart
  congr 1
  funext frame
  rw [setRows_eq]
  congr 1
  funext frame
  cases notice with
  | none => rfl
  | some notice =>
    show frame.setRow unicode _ _ _ = (frame.setRow unicode _ _ _ >>= fun frame => .ok frame)
    cases frame.setRow unicode (layout.viewport.height.toNat - layout.statusline.rows.length - 1) (sanitizeControls notice) .warning with
    | error e => rfl
    | ok frame => rfl

theorem build_rows (unicode : Unicode) (status : StatuslineView) (viewport : Viewport) :
    1 ≤ (StatuslineLayoutView.build unicode status viewport).rows.length ∧
      (StatuslineLayoutView.build unicode status viewport).rows.length ≤ viewport.height.toNat := by
  have hheight : viewport.height.toNat ≠ 0 := fun h => viewport.height_pos (UInt16.toNat_inj.mp h)
  unfold StatuslineLayoutView.build
  dsimp only
  by_cases htwo : 120 ≤ viewport.columns ∧ 2 ≤ viewport.height.toNat
  · rw [if_pos htwo]
    exact ⟨Nat.le_add_left 1 1, htwo.2⟩
  · rw [if_neg htwo]
    exact ⟨Nat.le_refl 1, Nat.one_le_iff_ne_zero.mpr hheight⟩

theorem body_rows (layout : PresentationLayoutView) (limit : Nat) :
    ((layout.body.take limit).mapIdx TerminalFrame.bodyRow).length ≤ limit := by
  rw [List.length_mapIdx, List.length_take]
  omega

/-- Every row written is one of the screen. -/
theorem layoutWrites_rows (hstatus : layout.statusline = StatuslineLayoutView.build unicode status layout.viewport) :
    ∀ write ∈ layoutWrites layout notice, write.1 < layout.viewport.height.toNat := by
  obtain ⟨hsome, hfits⟩ := build_rows unicode status layout.viewport
  rw [← hstatus] at hsome hfits
  intro write hwrite
  unfold layoutWrites at hwrite
  dsimp only at hwrite
  rcases List.mem_append.mp hwrite with hrows | hnotice
  · rcases List.mem_append.mp hrows with hbody | hline
    · have hrow : write.1 ∈ List.range' 0 _ := rowWrites_rows 0 _ ▸ List.mem_map_of_mem hbody
      have hbody := body_rows layout ((notice.map fun _ => layout.statusStart - 1).getD layout.statusStart)
      have hlimit : (notice.map fun _ => layout.statusStart - 1).getD layout.statusStart ≤ layout.statusStart := by
        cases notice with
        | none => exact Nat.le_refl _
        | some notice => exact Nat.sub_le _ _
      have hstart : layout.statusStart ≤ layout.viewport.height.toNat := Nat.sub_le _ _
      rw [List.mem_range'_1] at hrow
      omega
    · have hrow : write.1 ∈ List.range' layout.statusStart _ := rowWrites_rows layout.statusStart _ ▸ List.mem_map_of_mem hline
      rw [List.mem_range'_1, List.length_map] at hrow
      unfold PresentationLayoutView.statusStart at hrow
      omega
  · cases notice with
    | none => cases hnotice
    | some notice =>
      rw [List.mem_singleton.mp hnotice]
      show layout.statusStart - 1 < _
      unfold PresentationLayoutView.statusStart
      omega

/-- A notice above the status line is on a row of its own. -/
theorem layoutWrites_distinct (habove : notice = none ∨ 1 ≤ layout.statusStart) : ((layoutWrites layout notice).map (·.1)).Nodup := by
  have hbody := body_rows layout ((notice.map fun _ => layout.statusStart - 1).getD layout.statusStart)
  unfold layoutWrites
  dsimp only
  rw [List.map_append, List.map_append, rowWrites_rows, rowWrites_rows]
  have hrows : (List.range' 0 ((layout.body.take ((notice.map fun _ => layout.statusStart - 1).getD layout.statusStart)).mapIdx
      TerminalFrame.bodyRow).length ++ List.range' layout.statusStart
        (layout.statusline.rows.map fun row => (row.text, TerminalStyle.dim)).length).Nodup := by
    refine List.nodup_append.mpr ⟨List.nodup_range', List.nodup_range', ?_⟩
    intro row hrow other hother
    rw [List.mem_range'_1] at hrow hother
    cases notice with
    | none =>
      change _ ≤ layout.statusStart at hbody
      omega
    | some notice =>
      change _ ≤ layout.statusStart - 1 at hbody
      omega
  cases notice with
  | none =>
    rw [show (((none : Option String).map fun notice => (layout.statusStart - 1, sanitizeControls notice, TerminalStyle.warning)).toList.map
      (·.1)) = [] from rfl, List.append_nil]
    exact hrows
  | some notice =>
    refine List.nodup_append.mpr ⟨hrows, List.nodup_singleton _, ?_⟩
    intro row hrow other hother
    rw [List.mem_singleton.mp hother]
    change _ ≤ layout.statusStart - 1 at hbody
    rw [List.mem_append, List.mem_range'_1, List.mem_range'_1] at hrow
    have hstart : 1 ≤ layout.statusStart := by
      rcases habove with hnone | hstart
      · cases hnone
      · exact hstart
    show row ≠ layout.statusStart - 1
    change 0 ≤ row ∧ row < 0 + _ ∨ _ at hrow
    omega

/-- A cell is a continuation exactly when the one before it in its row holds a symbol of two columns. -/
def TerminalFrame.Continued (unicode : Unicode) (frame : TerminalFrame) : Prop :=
  ∀ cells ∈ frame.rows, (∀ cell ∈ cells.head?, cell.continuation = false) ∧
    ∀ before cell next after, cells = before ++ cell :: next :: after → (next.continuation = true ↔ unicode.width cell.symbol = 2)

theorem TerminalFrame.WellFormed.continued (hempty : unicode.width "" = 0) (h : frame.WellFormed unicode) : frame.Continued unicode := by
  intro cells hcells
  have hrow := h cells hcells
  constructor
  · intro cell hcell
    obtain ⟨rest, hrest⟩ := List.head?_eq_some_iff.mp hcell
    rw [hrest] at hrow
    exact hrow.head
  · intro before cell next after hsplit
    rw [hsplit] at hrow
    constructor
    · intro hnext
      have hrow' : WellFormedRow unicode ((before ++ [cell]) ++ next :: after) := by
        rw [List.append_assoc]
        exact hrow
      obtain ⟨first, symbol, style, hbefore, hwide, _⟩ := hrow'.before hnext
      obtain ⟨_, hlast⟩ := List.append_inj' hbefore rfl
      rw [List.singleton_inj.mp hlast]
      exact hwide
    · intro hwide
      obtain ⟨tail, htail⟩ := hrow.after hempty hwide
      rw [(List.cons.inj htail).1]

theorem layout_built (hlayout : layout.statusline = StatuslineLayoutView.build unicode status layout.viewport)
    (hcolumns : layout.viewport.columns ≤ maxTerminalColumns) (hheight : layout.viewport.height.toNat ≤ maxTerminalRows) :
    Guarded (∀ write ∈ layoutWrites layout notice, Drawable unicode (unicode.graphemes write.2.1) layout.viewport.columns)
      (TerminalFrame.fromLayoutWithNotice unicode layout notice) := by
  have hwidth : layout.viewport.columns ≠ 0 := fun h => layout.viewport.width_pos (UInt16.toNat_inj.mp h)
  have htall : layout.viewport.height.toNat ≠ 0 := fun h => layout.viewport.height_pos (UInt16.toNat_inj.mp h)
  have hcells : layout.viewport.columns * layout.viewport.height.toNat ≤ maxTerminalColumns * maxTerminalRows :=
    Nat.mul_le_mul hcolumns hheight
  have hblank := TerminalFrame.blank_ok.mpr ⟨⟨hcells, hwidth, htall, hcolumns, hheight⟩, rfl⟩
  rw [fromLayout_written]
  unfold TerminalFrame.written
  rw [hblank, ok_bind]
  exact TerminalFrame.writeRows_guarded _ (TerminalFrame.blank_shaped hblank) (layoutWrites_rows hlayout)

theorem layout_continued (hempty : unicode.width "" = 0) (hspace : unicode.width " " = 1)
    (hlayout : layout.statusline = StatuslineLayoutView.build unicode status layout.viewport)
    (habove : notice = none ∨ 1 ≤ layout.statusStart) (h : TerminalFrame.fromLayoutWithNotice unicode layout notice = .ok frame) :
    frame.Continued unicode := by
  rw [fromLayout_written] at h
  exact (TerminalFrame.written_wellFormed hspace (layoutWrites_distinct habove) (layoutWrites_rows hlayout) h).continued hempty

end Layouts

/-- A layout is drawn on a screen within the limits unless a grapheme that begins in its row takes no column or more than
    two, and the continuations of the frame are those of its wide symbols unless the notice is on the status line. -/
theorem frame_built (unicode : Unicode) (hempty : unicode.width "" = 0) (hspace : unicode.width " " = 1) (status : StatuslineView)
    (layout : PresentationLayoutView) (hlayout : layout.statusline = StatuslineLayoutView.build unicode status layout.viewport)
    (hcolumns : layout.viewport.columns ≤ maxTerminalColumns) (hheight : layout.viewport.height.toNat ≤ maxTerminalRows)
    (notice : Option String) :
    Guarded (∀ write ∈ layoutWrites layout notice, Drawable unicode (unicode.graphemes write.2.1) layout.viewport.columns)
      (TerminalFrame.fromLayoutWithNotice unicode layout notice) ∧
    ∀ frame, TerminalFrame.fromLayoutWithNotice unicode layout notice = .ok frame → notice = none ∨ 1 ≤ layout.statusStart →
      frame.Continued unicode :=
  ⟨layout_built hlayout hcolumns hheight, fun _ h habove => layout_continued hempty hspace hlayout habove h⟩

section Examples

/-- As `Unicode.ascii`, and a zero-width space takes no column. -/
def Unicode.spaced : Unicode :=
  ⟨fun text => text.toList.map String.singleton, fun text => (text.toList.filter (· ≠ '\u200b')).length⟩

def spacedApproval : ProductToolApprovalView := { echoApproval with arguments := "\x7b\"message\":\"he\u200bllo\"\x7d" }

def spacedLayout : PresentationLayoutView := (narrowSession.showToolApproval spacedApproval).layout .spaced echoStatus

theorem frame_built_spaced :
    Guarded (∀ write ∈ layoutWrites spacedLayout (some "ready"), Drawable .spaced (Unicode.spaced.graphemes write.2.1) 24)
      (TerminalFrame.fromLayoutWithNotice .spaced spacedLayout (some "ready")) ∧
    ∀ frame, TerminalFrame.fromLayoutWithNotice .spaced spacedLayout (some "ready") = .ok frame →
      some "ready" = none ∨ 1 ≤ spacedLayout.statusStart → frame.Continued .spaced :=
  frame_built .spaced (by decide) (by decide) echoStatus spacedLayout rfl (by decide) (by decide) (some "ready")

/-- A zero-width space in a Tool's arguments ends the screen that asks for it. -/
theorem zero_width_not_drawn : (∀ text, ∀ grapheme ∈ Unicode.spaced.graphemes text, Unicode.spaced.width grapheme ≤ 2) ∧
    TerminalFrame.fromLayoutWithNotice .spaced spacedLayout none = .error .unsupportedCellWidth := by
  refine ⟨?_, by decide +kernel⟩
  intro text grapheme hmem
  obtain ⟨c, _, hc⟩ := List.mem_map.mp hmem
  rw [← hc]
  show ((String.singleton c).toList.filter (· ≠ '\u200b')).length ≤ 2
  rw [String.toList_singleton]
  exact (List.length_filter_le _ _).trans (Nat.le_succ 1)

end Examples

end GreenTyper.Tui
