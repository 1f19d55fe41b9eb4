/-
  GreenTyper.Tui.Renderer — drawing what changed (`DirectVtRenderer` of `terminal.rs`), and
  the terminal it is drawn on.

  In every row the renderer marks the columns where the last frame and the next one differ,
  with the neighbours that belong to a wide symbol of either, and writes the marked runs. A
  run begins and ends where neither frame has a continuation (`run_begins`, `run_ends`), so
  writing it leaves the cells on both sides as they were, and the row becomes that of the
  next frame (`drawRuns_row`). This takes well-formed frames: a continuation that follows no
  wide symbol is skipped without moving the cursor, and what is written after it lands one
  column to the left.
-/

import GreenTyper.Tui.Frame

namespace GreenTyper.Tui

open Lib

/-! ## The renderer -/

/-- What the renderer writes to the terminal. -/
inductive VtCommand where
  | cursorTo (row column : Nat)
  | sgr (style : TerminalStyle)
  | print (symbol : String)
  | clear
  | home
  deriving DecidableEq

/-- Every style begins with a reset, and plain is no more than that. -/
def terminalStyle : TerminalStyle → String
  | .plain => "\x1b[0m"
  | .header => "\x1b[0;1;38;5;6m"
  | .accent => "\x1b[0;38;5;2m"
  | .dim => "\x1b[0;2;38;5;8m"
  | .warning => "\x1b[0;38;5;3m"

/-- The bytes of a command. -/
def VtCommand.text : VtCommand → String
  | .cursorTo row column => "\x1b[" ++ toString row ++ ";" ++ toString column ++ "H"
  | .sgr style => terminalStyle style
  | .print symbol => symbol
  | .clear => "\x1b[2J"
  | .home => "\x1b[H"

structure DirectVtRenderer where
  previous : TerminalFrame
  hasFrame : Bool
  deriving DecidableEq

variable (unicode : Unicode)

def cellAt (cells : List TerminalCell) (column : Nat) : TerminalCell := cells[column]?.getD .blank

/-- What one column marks as changed. -/
def markColumn (width : Nat) (previous current : List TerminalCell) (changed : List Bool) (column : Nat) : List Bool :=
  let previous := cellAt previous column
  let current := cellAt current column
  if previous = current then changed
  else
    let changed := changed.set column true
    let changed := if (previous.continuation ∨ current.continuation) ∧ 0 < column then changed.set (column - 1) true else changed
    if (unicode.width previous.symbol = 2 ∨ unicode.width current.symbol = 2) ∧ column + 1 < width then
      changed.set (column + 1) true
    else changed

def changedColumns (width : Nat) (previous current : List TerminalCell) : List Bool :=
  (List.range width).foldl (markColumn unicode width previous current) (List.replicate width false)

/-- The cells of a run, with the style that is active. -/
def printCells : Option TerminalStyle → List TerminalCell → List VtCommand
  | _, [] => []
  | active, cell :: rest =>
    if cell.continuation then printCells active rest
    else if active = some cell.style then .print cell.symbol :: printCells active rest
    else .sgr cell.style :: .print cell.symbol :: printCells (some cell.style) rest

/-- The loop over a row from `column` on; each turn of it takes a column or more. -/
def drawRuns (row : Nat) : Nat → Nat → List (Bool × TerminalCell) → List VtCommand
  | 0, _, _ => []
  | _ + 1, _, [] => []
  | turns + 1, column, (false, _) :: rest => drawRuns row turns (column + 1) rest
  | turns + 1, column, (true, cell) :: rest =>
    let run := cell :: (rest.takeWhile (·.1)).map (·.2)
    .cursorTo (row + 1) (column + 1) :: printCells none run ++
      .sgr .plain :: drawRuns row turns (column + run.length) (rest.dropWhile (·.1))

def drawRow (width row : Nat) (previous current : List TerminalCell) : List VtCommand :=
  drawRuns row width 0 ((changedColumns unicode width previous current).zip current)

namespace DirectVtRenderer

def new (width height : Nat) : Except TerminalError DirectVtRenderer := do
  return ⟨← TerminalFrame.blank width height, false⟩

def resize (width height : Nat) : Except TerminalError (DirectVtRenderer × List VtCommand) := do
  return (⟨← TerminalFrame.blank width height, false⟩, [.clear, .home])

def draw (renderer : DirectVtRenderer) (frame : TerminalFrame) : Except TerminalError (DirectVtRenderer × List VtCommand) :=
  if renderer.hasFrame ∧ renderer.previous = frame then .ok (renderer, [])
  else do
    require (renderer.previous.width = frame.width ∧ renderer.previous.height = frame.height) .dimensionMismatch
    return (⟨frame, true⟩, (List.range frame.height).flatMap fun row =>
      drawRow unicode frame.width row (renderer.previous.rows[row]?.getD []) (frame.rows[row]?.getD []))

end DirectVtRenderer

/-! ## The terminal -/

/-- What a terminal shows, its cursor and the style of what it prints next. -/
structure Screen where
  width : Nat
  height : Nat
  rows : List (List TerminalCell)
  row : Nat
  column : Nat
  style : TerminalStyle
  deriving DecidableEq

def Screen.cleared (width height : Nat) : Screen :=
  ⟨width, height, List.replicate height (List.replicate width .blank), 0, 0, .plain⟩

-- The style of a blank in the place of half a symbol, from the cell that was there and the active style: terminals differ.
variable (halved : TerminalCell → TerminalStyle → TerminalStyle)

/-- A cell without its symbol. -/
def blankCell (style : TerminalStyle) (cell : TerminalCell) : TerminalCell := ⟨" ", false, halved cell style⟩

/-- Writing over half of a symbol blanks its other half. -/
def overwrite (cells : List TerminalCell) (column : Nat) (symbol : String) (style : TerminalStyle) : List TerminalCell :=
  let width := unicode.width symbol
  let cells := if (cellAt cells column).continuation then cells.modify (column - 1) (blankCell halved style) else cells
  let cells := if (cellAt cells (column + width)).continuation then cells.modify (column + width) (blankCell halved style) else cells
  placeSymbol cells column symbol width style

/-- A symbol is printed where the row has room for it. -/
def Screen.step (screen : Screen) : VtCommand → Screen
  | .cursorTo row column => { screen with row := row - 1, column := column - 1 }
  | .sgr style => { screen with style }
  | .print symbol =>
    if screen.width < screen.column + unicode.width symbol then screen
    else { screen with
      rows := screen.rows.modify screen.row fun cells => overwrite unicode halved cells screen.column symbol screen.style
      column := screen.column + unicode.width symbol }
  | .clear => { screen with rows := List.replicate screen.height (List.replicate screen.width .blank) }
  | .home => { screen with row := 0, column := 0 }

def Screen.execute (screen : Screen) (commands : List VtCommand) : Screen := commands.foldl (Screen.step unicode halved) screen

/-! ## Draws and resizes -/

inductive DrawEvent where
  | draw (frame : TerminalFrame)
  /-- The terminal has this size now, and shows these rows until it is cleared. -/
  | resize (width height : Nat) (left : List (List TerminalCell))

def drawStep (state : DirectVtRenderer × Screen) : DrawEvent → Except TerminalError (DirectVtRenderer × Screen)
  | .draw frame => do
    let (renderer, commands) ← state.1.draw unicode frame
    return (renderer, state.2.execute unicode halved commands)
  | .resize width height left => do
    let (renderer, commands) ← DirectVtRenderer.resize width height
    let resized := { state.2 with width, height, rows := left }
    return (renderer, resized.execute unicode halved commands)

/-- A new renderer on a cleared screen, and what is drawn from there. -/
def drawRun (width height : Nat) (events : List DrawEvent) : Except TerminalError (DirectVtRenderer × Screen) := do
  events.foldlM (drawStep unicode halved) (← DirectVtRenderer.new width height, Screen.cleared width height)

/-! ## Where runs begin and end -/

section Marks

variable {unicode} {previous current cells : List TerminalCell} {width column j : Nat}

/-- Column `column` marks column `j`. -/
def Marks (unicode : Unicode) (width : Nat) (previous current : List TerminalCell) (column j : Nat) : Prop :=
  cellAt previous column ≠ cellAt current column ∧
    (j = column ∨
      j + 1 = column ∧ ((cellAt previous column).continuation ∨ (cellAt current column).continuation) ∨
      j = column + 1 ∧ column + 1 < width ∧
        (unicode.width (cellAt previous column).symbol = 2 ∨ unicode.width (cellAt current column).symbol = 2))

theorem getElem?_set_true {changed : List Bool} {i : Nat} : (changed.set i true)[j]? = some true ↔
    changed[j]? = some true ∨ (j < changed.length ∧ j = i) := by
  rw [List.getElem?_set]
  by_cases hij : i = j
  · rw [if_pos hij]
    by_cases hi : i < changed.length
    · rw [if_pos hi]
      exact ⟨fun _ => Or.inr ⟨by omega, hij.symm⟩, fun _ => rfl⟩
    · rw [if_neg hi, List.getElem?_eq_none (by omega)]
      constructor
      · intro h
        cases h
      · intro h
        rcases h with h | h
        · cases h
        · omega
  · rw [if_neg hij]
    constructor
    · exact Or.inl
    · intro h
      rcases h with h | h
      · exact h
      · exact absurd h.2.symm hij

theorem markColumn_true {changed : List Bool} : (markColumn unicode width previous current changed column)[j]? = some true ↔
    changed[j]? = some true ∨ (j < changed.length ∧ Marks unicode width previous current column j) := by
  unfold markColumn Marks
  dsimp only
  by_cases hsame : cellAt previous column = cellAt current column
  · rw [if_pos hsame]
    exact ⟨Or.inl, fun h => h.resolve_right fun h => h.2.1 hsame⟩
  rw [if_neg hsame]
  by_cases hbefore : ((cellAt previous column).continuation ∨ (cellAt current column).continuation) ∧ 0 < column
  · rw [if_pos hbefore]
    by_cases hafter : (unicode.width (cellAt previous column).symbol = 2 ∨ unicode.width (cellAt current column).symbol = 2) ∧
        column + 1 < width
    · rw [if_pos hafter, getElem?_set_true, getElem?_set_true, getElem?_set_true, List.length_set, List.length_set]
      grind
    · rw [if_neg hafter, getElem?_set_true, getElem?_set_true, List.length_set]
      grind
  · rw [if_neg hbefore]
    by_cases hafter : (unicode.width (cellAt previous column).symbol = 2 ∨ unicode.width (cellAt current column).symbol = 2) ∧
        column + 1 < width
    · rw [if_pos hafter, getElem?_set_true, getElem?_set_true, List.length_set]
      grind
    · rw [if_neg hafter, getElem?_set_true]
      grind

theorem markColumn_length (changed : List Bool) : (markColumn unicode width previous current changed column).length = changed.length := by
  unfold markColumn
  dsimp only
  split
  · rfl
  · split <;> split <;> simp only [List.length_set]

theorem markColumns_true (columns : List Nat) : ∀ changed : List Bool,
    ((columns.foldl (markColumn unicode width previous current) changed)[j]? = some true ↔
      changed[j]? = some true ∨ (j < changed.length ∧ ∃ column ∈ columns, Marks unicode width previous current column j)) ∧
    (columns.foldl (markColumn unicode width previous current) changed).length = changed.length := by
  induction columns with
  | nil =>
    intro changed
    refine ⟨⟨Or.inl, fun h => h.resolve_right ?_⟩, rfl⟩
    intro ⟨_, column, hcolumn, _⟩
    exact List.not_mem_nil hcolumn
  | cons column columns ih =>
    intro changed
    rw [List.foldl_cons]
    obtain ⟨hmarks, hlength⟩ := ih (markColumn unicode width previous current changed column)
    rw [hmarks, hlength, markColumn_length, markColumn_true, List.exists_mem_cons_iff]
    refine ⟨?_, rfl⟩
    grind

theorem changedColumns_length : (changedColumns unicode width previous current).length = width := by
  unfold changedColumns
  rw [(markColumns_true (j := 0) _ _).2, List.length_replicate]

theorem changedColumns_true (hj : j < width) : (changedColumns unicode width previous current)[j]? = some true ↔
    ∃ column < width, Marks unicode width previous current column j := by
  unfold changedColumns
  rw [(markColumns_true _ _).1, List.length_replicate, List.getElem?_replicate_of_lt hj]
  constructor
  · intro h
    rcases h with h | ⟨_, column, hcolumn, hmarks⟩
    · cases h
    · exact ⟨column, List.mem_range.mp hcolumn, hmarks⟩
  · intro ⟨column, hcolumn, hmarks⟩
    exact Or.inr ⟨hj, column, List.mem_range.mpr hcolumn, hmarks⟩

theorem column_true (h : (changedColumns unicode width previous current)[j]? = some true) :
    j < width ∧ ∃ column < width, Marks unicode width previous current column j := by
  have hj := (List.getElem?_eq_some_iff.mp h).1
  rw [changedColumns_length] at hj
  exact ⟨hj, (changedColumns_true hj).mp h⟩

theorem column_false (h : (changedColumns unicode width previous current)[j]? = some false) :
    j < width ∧ ¬ ∃ column < width, Marks unicode width previous current column j := by
  have hj := (List.getElem?_eq_some_iff.mp h).1
  rw [changedColumns_length] at hj
  refine ⟨hj, fun hmarked => ?_⟩
  cases ((changedColumns_true hj).mpr hmarked).symm.trans h

/-! ### Continuations in a row -/

theorem cellAt_append (before : List TerminalCell) (cell : TerminalCell) (after : List TerminalCell) :
    cellAt (before ++ cell :: after) before.length = cell := by
  unfold cellAt
  rw [List.getElem?_append_right (Nat.le_refl _), Nat.sub_self]
  rfl

theorem split_at (h : j < cells.length) : ∃ before cell after, cells = before ++ cell :: after ∧ before.length = j ∧ cellAt cells j = cell := by
  refine ⟨cells.take j, cells[j], cells.drop (j + 1), ?_, by rw [List.length_take]; omega, ?_⟩
  · rw [List.getElem_cons_drop, List.take_append_drop]
  · unfold cellAt
    rw [List.getElem?_eq_getElem h, Option.getD_some]

theorem cellAt_beyond (h : cells.length ≤ j) : cellAt cells j = .blank := by
  unfold cellAt
  rw [List.getElem?_eq_none h]
  rfl

theorem WellFormedRow.first (h : WellFormedRow unicode cells) : (cellAt cells 0).continuation = false := by
  cases cells with
  | nil => rfl
  | cons cell rest => exact h.head

/-- Before a continuation is a wide symbol. -/
theorem WellFormedRow.continues (h : WellFormedRow unicode cells) (hnext : (cellAt cells (j + 1)).continuation = true) :
    (cellAt cells j).continuation = false ∧ unicode.width (cellAt cells j).symbol = 2 := by
  by_cases hlt : j + 1 < cells.length
  · obtain ⟨before, cell, after, hcells, hlength, hcell⟩ := split_at hlt
    rw [hcell] at hnext
    rw [hcells] at h
    obtain ⟨first, symbol, style, hbefore, hwide, _⟩ := h.before hnext
    have hfirst : first.length = j := by
      rw [hbefore, List.length_append, List.length_singleton] at hlength
      omega
    have hsymbol : cellAt cells j = ⟨symbol, false, style⟩ := by
      rw [hcells, hbefore, List.append_assoc, ← hfirst]
      exact cellAt_append first _ _
    rw [hsymbol]
    exact ⟨rfl, hwide⟩
  · rw [cellAt_beyond (by omega)] at hnext
    cases hnext

/-- After a wide symbol is its continuation. -/
theorem WellFormedRow.continued (hempty : unicode.width "" = 0) (hspace : unicode.width " " = 1) (h : WellFormedRow unicode cells)
    (hwide : unicode.width (cellAt cells j).symbol = 2) : (cellAt cells (j + 1)).continuation = true := by
  by_cases hlt : j < cells.length
  · obtain ⟨before, cell, after, hcells, hlength, hcell⟩ := split_at hlt
    rw [hcell] at hwide
    rw [hcells] at h
    obtain ⟨tail, htail⟩ := h.after hempty hwide
    have hnext : cellAt cells (before ++ [cell]).length = ⟨"", true, cell.style⟩ := by
      rw [hcells, htail, List.append_cons]
      exact cellAt_append _ _ _
    rw [List.length_append, List.length_singleton, hlength] at hnext
    rw [hnext]
  · rw [cellAt_beyond (by omega)] at hwide
    cases hspace.symm.trans hwide

/-! ### Runs -/

/-- Where a run begins or ends, neither row has a continuation, and outside of them the rows are the same. -/
structure Runs (changed : List Bool) (previous current : List TerminalCell) : Prop where
  same : ∀ {j : Nat}, changed[j]? = some false → cellAt previous j = cellAt current j
  first : (cellAt previous 0).continuation = false ∧ (cellAt current 0).continuation = false
  begins : ∀ {j : Nat}, changed[j]? = some false → changed[j + 1]? = some true →
    (cellAt previous (j + 1)).continuation = false ∧ (cellAt current (j + 1)).continuation = false
  ends : ∀ {j : Nat}, changed[j]? = some true → changed[j + 1]? = some false →
    (cellAt previous (j + 1)).continuation = false ∧ (cellAt current (j + 1)).continuation = false

theorem not_or_eq_false {a b : Bool} : ¬ (a = true ∨ b = true) ↔ a = false ∧ b = false := by
  rw [not_or, Bool.not_eq_true, Bool.not_eq_true]

theorem unmarked (hj : j < width) (h : ¬ ∃ column < width, Marks unicode width previous current column j) :
    cellAt previous j = cellAt current j := by
  by_cases hsame : cellAt previous j = cellAt current j
  · exact hsame
  · exact absurd ⟨j, hj, hsame, Or.inl rfl⟩ h

/-- A run does not begin with the second half of a symbol: the first half would be marked with it. -/
theorem run_begins (hprevious : WellFormedRow unicode previous) (hcurrent : WellFormedRow unicode current) (hj : j + 1 < width)
    (hbefore : ¬ ∃ column < width, Marks unicode width previous current column j)
    (hmarked : ∃ column < width, Marks unicode width previous current column (j + 1)) :
    (cellAt previous (j + 1)).continuation = false ∧ (cellAt current (j + 1)).continuation = false := by
  rw [← not_or_eq_false]
  intro hcontinuation
  have hsame := unmarked (by omega) hbefore
  by_cases hdiffers : cellAt previous (j + 1) = cellAt current (j + 1)
  · -- Both are continuations, and so nothing can have marked them.
    have hboth : (cellAt previous (j + 1)).continuation = true ∧ (cellAt current (j + 1)).continuation = true := by
      rw [hdiffers] at hcontinuation ⊢
      exact ⟨hcontinuation.elim id id, hcontinuation.elim id id⟩
    obtain ⟨column, hcolumn, hne, hat | ⟨hat, hnext⟩ | ⟨hat, _⟩⟩ := hmarked
    · rw [← hat] at hne
      exact hne hdiffers
    · rw [← hat] at hnext
      rcases hnext with hnext | hnext
      · exact absurd (hprevious.continues hnext).1 (by rw [hboth.1]; decide)
      · exact absurd (hcurrent.continues hnext).1 (by rw [hboth.2]; decide)
    · rw [← Nat.succ_inj.mp hat] at hne
      exact hne hsame
  · exact hbefore ⟨j + 1, hj, hdiffers, Or.inr (Or.inl ⟨rfl, hcontinuation⟩)⟩

/-- A run does not end between the halves of a symbol. -/
theorem run_ends (hempty : unicode.width "" = 0) (hspace : unicode.width " " = 1) (hprevious : WellFormedRow unicode previous)
    (hcurrent : WellFormedRow unicode current) (hj : j + 1 < width)
    (hmarked : ∃ column < width, Marks unicode width previous current column j)
    (hafter : ¬ ∃ column < width, Marks unicode width previous current column (j + 1)) :
    (cellAt previous (j + 1)).continuation = false ∧ (cellAt current (j + 1)).continuation = false := by
  rw [← not_or_eq_false]
  intro hcontinuation
  have hsame := unmarked hj hafter
  have hboth : (cellAt previous (j + 1)).continuation = true ∧ (cellAt current (j + 1)).continuation = true := by
    rw [hsame] at hcontinuation ⊢
    exact ⟨hcontinuation.elim id id, hcontinuation.elim id id⟩
  obtain ⟨hnarrow, hwide⟩ := hprevious.continues hboth.1
  obtain ⟨hnarrow', _⟩ := hcurrent.continues hboth.2
  by_cases hdiffers : cellAt previous j = cellAt current j
  · -- The first half is marked by a neighbour: by a wide symbol before it, or by the second half.
    obtain ⟨column, hcolumn, hne, hat | ⟨hat, _⟩ | ⟨hat, _, hbefore⟩⟩ := hmarked
    · rw [← hat] at hne
      exact hne hdiffers
    · rw [← hat] at hne
      exact hne hsame
    · rw [hat] at hnarrow hnarrow'
      rcases hbefore with hbefore | hbefore
      · exact absurd (hprevious.continued hempty hspace hbefore) (by rw [hnarrow]; decide)
      · exact absurd (hcurrent.continued hempty hspace hbefore) (by rw [hnarrow']; decide)
  · exact hafter ⟨j, by omega, hdiffers, Or.inr (Or.inr ⟨rfl, hj, Or.inl hwide⟩)⟩

theorem changedColumns_runs (hempty : unicode.width "" = 0) (hspace : unicode.width " " = 1)
    (hprevious : WellFormedRow unicode previous) (hcurrent : WellFormedRow unicode current) :
    Runs (changedColumns unicode width previous current) previous current where
  same := by
    intro j h
    obtain ⟨hj, hfalse⟩ := column_false h
    exact unmarked hj hfalse
  first := ⟨hprevious.first, hcurrent.first⟩
  begins := by
    intro j hbefore hmarked
    obtain ⟨hj, hfalse⟩ := column_false hbefore
    obtain ⟨hj', htrue⟩ := column_true hmarked
    exact run_begins hprevious hcurrent hj' hfalse htrue
  ends := by
    intro j hmarked hafter
    obtain ⟨hj, htrue⟩ := column_true hmarked
    obtain ⟨hj', hfalse⟩ := column_false hafter
    exact run_ends hempty hspace hprevious hcurrent hj' htrue hfalse

end Marks

/-! ## What is printed -/

section Printing

variable {unicode} {halved} {symbol : String} {style : TerminalStyle} {screen : Screen} {before after : List TerminalCell}
  {top bottom : List (List TerminalCell)}

theorem modify_middle {α : Type} (f : α → α) (before : List α) (entry : α) (after : List α) :
    (before ++ entry :: after).modify before.length f = before ++ f entry :: after := by
  induction before with
  | nil => rfl
  | cons first before ih => rw [List.cons_append, List.length_cons, List.modify_succ_cons, ih, List.cons_append]

/-- The rest of a row whose first cell may have lost its first half. -/
def mend (halved : TerminalCell → TerminalStyle → TerminalStyle) (style : TerminalStyle) : List TerminalCell → List TerminalCell
  | [] => []
  | cell :: rest => (if cell.continuation then blankCell halved style cell else cell) :: rest

theorem mend_length (cells : List TerminalCell) : (mend halved style cells).length = cells.length := by cases cells <;> rfl

theorem mend_head {cells : List TerminalCell} : ∀ cell ∈ (mend halved style cells).head?, cell.continuation = false := by
  cases cells with
  | nil =>
    intro cell h
    cases h
  | cons first rest =>
    intro cell h
    cases h
    by_cases hfirst : first.continuation = true
    · rw [if_pos hfirst]
      rfl
    · rw [if_neg hfirst]
      simpa using hfirst

theorem mend_append (cells : List TerminalCell) (hafter : ∀ cell ∈ after.head?, cell.continuation = false) :
    mend halved style (cells ++ after) = mend halved style cells ++ after := by
  cases cells with
  | cons cell cells => rfl
  | nil =>
    cases after with
    | nil => rfl
    | cons cell after =>
      show (if cell.continuation then _ else cell) :: after = cell :: after
      rw [hafter cell rfl]
      rfl

/-- The end of `overwrite`: what follows the symbol is mended. -/
theorem modify_mend (halved : TerminalCell → TerminalStyle → TerminalStyle) (style : TerminalStyle) (before cells : List TerminalCell) :
    (if (cellAt (before ++ cells) before.length).continuation then (before ++ cells).modify before.length (blankCell halved style)
      else before ++ cells) = before ++ mend halved style cells := by
  cases cells with
  | nil =>
    rw [List.append_nil, cellAt_beyond (Nat.le_refl _)]
    exact (List.append_nil _).symm
  | cons cell rest =>
    rw [cellAt_append]
    unfold mend
    dsimp only
    by_cases hcell : cell.continuation = true
    · rw [if_pos hcell, if_pos hcell, modify_middle]
    · rw [if_neg hcell, if_neg hcell]

theorem overwrite_narrow (hwidth : unicode.width symbol = 1) {cell : TerminalCell} (hcell : cell.continuation = false) :
    overwrite unicode halved (before ++ cell :: after) before.length symbol style =
      before ++ ⟨symbol, false, style⟩ :: mend halved style after := by
  unfold overwrite
  dsimp only
  rw [cellAt_append, hcell, if_neg Bool.false_ne_true, hwidth]
  have hmend := modify_mend halved style (before ++ [cell]) after
  rw [List.length_append, List.length_singleton, List.append_assoc, List.append_assoc] at hmend
  rw [List.singleton_append, List.singleton_append] at hmend
  rw [hmend]
  exact placeSymbol_narrow _ _ _

theorem overwrite_wide (hwidth : unicode.width symbol = 2) {cell next : TerminalCell} (hcell : cell.continuation = false) :
    overwrite unicode halved (before ++ cell :: next :: after) before.length symbol style =
      before ++ ⟨symbol, false, style⟩ :: ⟨"", true, style⟩ :: mend halved style after := by
  unfold overwrite
  dsimp only
  rw [cellAt_append, hcell, if_neg Bool.false_ne_true, hwidth]
  have hmend := modify_mend halved style (before ++ [cell, next]) after
  rw [List.length_append, List.append_assoc, List.append_assoc] at hmend
  change (if (cellAt (before ++ cell :: next :: after) (before.length + 2)).continuation = true then
    (before ++ cell :: next :: after).modify (before.length + 2) _ else before ++ cell :: next :: after) =
      before ++ cell :: next :: mend halved style after at hmend
  rw [hmend]
  exact placeSymbol_wide _ _ _ _

/-- A screen of a size that shows these rows. -/
def Screen.Shows (screen : Screen) (width height : Nat) (rows : List (List TerminalCell)) : Prop :=
  screen.width = width ∧ screen.height = height ∧ screen.rows = rows

theorem execute_append (screen : Screen) (commands commands' : List VtCommand) :
    screen.execute unicode halved (commands ++ commands') = (screen.execute unicode halved commands).execute unicode halved commands' :=
  List.foldl_append

theorem execute_cons (screen : Screen) (command : VtCommand) (commands : List VtCommand) :
    screen.execute unicode halved (command :: commands) = (screen.step unicode halved command).execute unicode halved commands := rfl

/-- The cursor is in a row after what is written of it; `rest` is to be written over, and does not begin with a second half. -/
structure Printing (top bottom : List (List TerminalCell)) (after : List TerminalCell) (screen : Screen) (before rest : List TerminalCell) :
    Prop where
  row : screen.row = top.length
  rows : screen.rows = top ++ (before ++ (rest ++ after)) :: bottom
  column : screen.column = before.length
  fits : (before ++ (rest ++ after)).length ≤ screen.width
  head : ∀ cell ∈ (rest ++ after).head?, cell.continuation = false

/-- Printing a symbol in the row of the cursor. -/
theorem step_print {cells : List TerminalCell} (hrow : screen.row = top.length) (hrows : screen.rows = top ++ cells :: bottom)
    (hroom : screen.column + unicode.width symbol ≤ screen.width) : screen.step unicode halved (.print symbol) =
      { screen with
        rows := top ++ overwrite unicode halved cells screen.column symbol screen.style :: bottom
        column := screen.column + unicode.width symbol } := by
  show (if screen.width < screen.column + unicode.width symbol then screen else _) = _
  rw [if_neg (by omega), hrows, hrow, modify_middle]

theorem step_size (unicode : Unicode) (halved : TerminalCell → TerminalStyle → TerminalStyle) (screen : Screen) (symbol : String) : (screen.step unicode halved (.print symbol)).width = screen.width ∧
    (screen.step unicode halved (.print symbol)).height = screen.height ∧
      (screen.step unicode halved (.print symbol)).style = screen.style := by
  unfold Screen.step
  dsimp only
  by_cases hfull : screen.width < screen.column + unicode.width symbol
  · rw [if_pos hfull]
    exact ⟨rfl, rfl, rfl⟩
  · rw [if_neg hfull]
    exact ⟨rfl, rfl, rfl⟩

theorem Printing.narrow {cell : TerminalCell} {rest : List TerminalCell} (h : Printing top bottom after screen before (cell :: rest))
    (hafter : ∀ cell ∈ after.head?, cell.continuation = false) (hwidth : unicode.width symbol = 1) :
    Printing top bottom after (screen.step unicode halved (.print symbol)) (before ++ [⟨symbol, false, screen.style⟩])
      (mend halved screen.style rest) := by
  have hfits := h.fits
  rw [List.length_append, List.length_append, List.length_cons] at hfits
  have hcolumn := h.column
  rw [step_print h.row h.rows (by omega), hcolumn, List.cons_append, overwrite_narrow hwidth (h.head cell rfl), mend_append rest hafter, hwidth]
  constructor
  · exact h.row
  · rw [List.append_assoc]
    rfl
  · rw [List.length_append, List.length_singleton]
  · rw [List.length_append, List.length_append, List.length_append, mend_length, List.length_singleton]
    show _ ≤ screen.width
    omega
  · rw [← mend_append rest hafter]
    exact mend_head

theorem Printing.wide {cell next : TerminalCell} {rest : List TerminalCell}
    (h : Printing top bottom after screen before (cell :: next :: rest))
    (hafter : ∀ cell ∈ after.head?, cell.continuation = false) (hwidth : unicode.width symbol = 2) :
    Printing top bottom after (screen.step unicode halved (.print symbol))
      (before ++ [⟨symbol, false, screen.style⟩, ⟨"", true, screen.style⟩]) (mend halved screen.style rest) := by
  have hfits := h.fits
  rw [List.length_append, List.length_append, List.length_cons, List.length_cons] at hfits
  have hcolumn := h.column
  rw [step_print h.row h.rows (by omega), hcolumn, List.cons_append, List.cons_append, overwrite_wide hwidth (h.head cell rfl),
    mend_append rest hafter, hwidth]
  constructor
  · exact h.row
  · rw [List.append_assoc]
    rfl
  · rw [List.length_append]
    rfl
  · rw [List.length_append, List.length_append, List.length_append, mend_length]
    show _ + (1 + 1) + _ ≤ screen.width
    omega
  · rw [← mend_append rest hafter]
    exact mend_head

/-- Another style is active. -/
theorem Printing.styled {rest : List TerminalCell} (h : Printing top bottom after screen before rest) (style : TerminalStyle) :
    Printing top bottom after { screen with style } before rest := ⟨h.row, h.rows, h.column, h.fits, h.head⟩

/-- A symbol is printed in its style, whether that was active or not. -/
theorem execute_symbol {active : Option TerminalStyle} (hactive : ∀ found, active = some found → screen.style = found)
    (run : List TerminalCell) : screen.execute unicode halved (printCells active (⟨symbol, false, style⟩ :: run)) =
      (({ screen with style } : Screen).step unicode halved (.print symbol)).execute unicode halved (printCells (some style) run) := by
  rw [printCells]
  rw [if_neg Bool.false_ne_true]
  dsimp only
  by_cases hsame : active = some style
  · have hstyle : ({ screen with style } : Screen) = screen := by
      rw [← hactive style hsame]
    rw [if_pos hsame, execute_cons, hstyle, hsame]
  · rw [if_neg hsame]
    rfl

/-- A run written over as many cells leaves the rest of its row as it was. -/
theorem print_run {run : List TerminalCell} (hrun : WellFormedRow unicode run) (hafter : ∀ cell ∈ after.head?, cell.continuation = false) :
    ∀ {screen : Screen} (active : Option TerminalStyle) {before rest : List TerminalCell}, Printing top bottom after screen before rest →
      rest.length = run.length → (∀ found, active = some found → screen.style = found) →
        (screen.execute unicode halved (printCells active run)).Shows screen.width screen.height
          (top ++ (before ++ (run ++ after)) :: bottom) := by
  induction hrun with
  | nil =>
    intro screen active before rest h hlength _
    have hrows := h.rows
    rw [List.length_eq_zero_iff.mp hlength] at hrows
    exact ⟨rfl, rfl, hrows⟩
  | @narrow symbol style run hwidth _ ih =>
    intro screen active before rest h hlength hactive
    obtain ⟨cell, rest, hrest⟩ := List.exists_cons_of_length_eq_add_one hlength
    rw [hrest] at h hlength
    rw [execute_symbol hactive]
    have hprinted : Printing top bottom after _ _ (mend halved style rest) := (h.styled style).narrow hafter hwidth
    obtain ⟨hsize, hheight, hstyle⟩ := step_size unicode halved { screen with style } symbol
    have hnext := ih (some style) hprinted (by rw [mend_length]; exact Nat.succ_inj.mp hlength)
      (fun found hfound => hstyle.trans (Option.some.inj hfound))
    rw [hsize, hheight, List.append_assoc] at hnext
    exact hnext
  | @wide symbol style run hwidth _ ih =>
    intro screen active before rest h hlength hactive
    obtain ⟨cell, rest, hrest⟩ := List.exists_cons_of_length_eq_add_one hlength
    rw [hrest] at h hlength
    obtain ⟨next, rest, hrest⟩ := List.exists_cons_of_length_eq_add_one (Nat.succ_inj.mp hlength)
    rw [hrest] at h hlength
    rw [execute_symbol hactive]
    have hprinted : Printing top bottom after _ _ (mend halved style rest) := (h.styled style).wide hafter hwidth
    obtain ⟨hsize, hheight, hstyle⟩ := step_size unicode halved { screen with style } symbol
    have hnext := ih (some style) hprinted (by rw [mend_length]; exact Nat.succ_inj.mp (Nat.succ_inj.mp hlength))
      (fun found hfound => hstyle.trans (Option.some.inj hfound))
    rw [hsize, hheight, List.append_assoc] at hnext
    exact hnext

end Printing

/-! ## A row -/

section Row

variable {unicode} {halved} {previous current : List TerminalCell} {changed : List Bool} {width : Nat}
  {top bottom : List (List TerminalCell)}

/-- The run at the head of a row is as long as the marks are set. -/
theorem takeWhile_run {α : Type} (pairs : List (Bool × α)) : ∃ k ≤ pairs.length, pairs.takeWhile (·.1) = pairs.take k ∧
    pairs.dropWhile (·.1) = pairs.drop k ∧ (∀ i < k, (pairs.map (·.1))[i]? = some true) ∧ (pairs.map (·.1))[k]? ≠ some true := by
  induction pairs with
  | nil => exact ⟨0, Nat.le_refl _, rfl, rfl, fun i hi => absurd hi (Nat.not_lt_zero i), by simp⟩
  | cons pair pairs ih =>
    obtain ⟨marked, entry⟩ := pair
    cases marked with
    | false => exact ⟨0, Nat.zero_le _, rfl, rfl, fun i hi => absurd hi (Nat.not_lt_zero i), by simp⟩
    | true =>
      obtain ⟨k, hk, htake, hdrop, hbefore, hafter⟩ := ih
      refine ⟨k + 1, Nat.succ_le_succ hk, ?_, ?_, ?_, ?_⟩
      · rw [List.takeWhile_cons_of_pos rfl, htake, List.take_succ_cons]
      · rw [List.dropWhile_cons_of_pos rfl, hdrop, List.drop_succ_cons]
      · intro i hi
        cases i with
        | zero => rfl
        | succ i => exact hbefore i (Nat.lt_of_succ_lt_succ hi)
      · exact hafter

theorem head_drop {cells : List TerminalCell} {j : Nat} (h : (cellAt cells j).continuation = false) :
    ∀ cell ∈ (cells.drop j).head?, cell.continuation = false := by
  intro cell hcell
  rw [List.head?_drop] at hcell
  unfold cellAt at h
  rw [hcell] at h
  exact h

/-- The row up to a column and what it was from there on. -/
theorem take_drop (cells : List TerminalCell) (column n : Nat) : cells.take (column + n) = cells.take column ++ (cells.drop column).take n :=
  List.take_add

theorem Runs.start {column : Nat} (hruns : Runs changed previous current) (hmark : changed[column]? = some true)
    (hboundary : column = 0 ∨ changed[column - 1]? = some false ∨ changed[column]? ≠ some true) :
    (cellAt previous column).continuation = false ∧ (cellAt current column).continuation = false := by
  cases column with
  | zero => exact hruns.first
  | succ column =>
    rcases hboundary with hzero | hbefore | hnot
    · cases hzero
    · exact hruns.begins hbefore hmark
    · exact absurd hmark hnot

theorem Runs.stop {j : Nat} (hruns : Runs changed previous current) (hprevious : previous.length = width)
    (hwidth : current.length = width) (hchanged : changed.length = width) (hmark : changed[j]? = some true)
    (hnot : changed[j + 1]? ≠ some true) :
    (cellAt previous (j + 1)).continuation = false ∧ (cellAt current (j + 1)).continuation = false := by
  by_cases hlt : j + 1 < width
  · refine hruns.ends hmark ?_
    rw [List.getElem?_eq_getElem (by omega)] at hnot ⊢
    simpa using hnot
  · rw [cellAt_beyond (by omega), cellAt_beyond (by omega)]
    exact ⟨rfl, rfl⟩

/-- A run is drawn as the next row has it, and nothing else of the row changes. -/
theorem run_drawn (hruns : Runs changed previous current) (hcurrent : WellFormedRow unicode current)
    (hprevious : previous.length = width) (hwidth : current.length = width) (hchanged : changed.length = width)
    {screen : Screen} {column k : Nat} (hsize : screen.width = width)
    (hrows : screen.rows = top ++ (current.take column ++ previous.drop column) :: bottom) (hend : column + k < width)
    (hboundary : column = 0 ∨ changed[column - 1]? = some false ∨ changed[column]? ≠ some true)
    (hfirst : changed[column]? = some true) (hlast : changed[column + k]? = some true) (hnot : changed[column + k + 1]? ≠ some true) :
    (screen.execute unicode halved (.cursorTo (top.length + 1) (column + 1) ::
        printCells none ((current.drop column).take (k + 1)) ++ [.sgr .plain])).Shows screen.width screen.height
      (top ++ (current.take (column + (k + 1)) ++ previous.drop (column + (k + 1))) :: bottom) := by
  obtain ⟨hstart, hstart'⟩ := hruns.start hfirst hboundary
  obtain ⟨hstop, hstop'⟩ := hruns.stop hprevious hwidth hchanged hlast hnot
  -- The run is a part of the row that begins and ends with whole symbols.
  have hrun : WellFormedRow unicode ((current.drop column).take (k + 1)) := by
    rw [← List.take_append_drop column current] at hcurrent
    obtain ⟨_, hrest⟩ := hcurrent.split (head_drop hstart')
    rw [← List.take_append_drop (k + 1) (current.drop column)] at hrest
    refine (hrest.split ?_).1
    rw [List.drop_drop]
    exact head_drop hstop'
  have hbegin : Printing top bottom (previous.drop (column + (k + 1))) (screen.step unicode halved (.cursorTo (top.length + 1) (column + 1)))
      (current.take column) ((previous.drop column).take (k + 1)) := by
    rw [← List.drop_drop]
    constructor
    · rfl
    · rw [List.take_append_drop]
      exact hrows
    · rw [List.length_take, hwidth, Nat.min_eq_left (by omega)]
      rfl
    · rw [List.take_append_drop, List.length_append, List.length_take, List.length_drop]
      show _ ≤ screen.width
      omega
    · rw [List.take_append_drop]
      exact head_drop hstart
  have hprinted : (Screen.execute unicode halved _ (printCells none _)).Shows _ _ _ := print_run hrun (head_drop hstop) none hbegin
    (by rw [List.length_take, List.length_take, List.length_drop, List.length_drop, hprevious, hwidth]) nofun
  rw [take_drop current column (k + 1), List.append_assoc, List.cons_append, execute_cons, execute_append]
  exact hprinted

/-- From a column where a run may begin, the row becomes the next one. -/
theorem drawRuns_row (hruns : Runs changed previous current) (hcurrent : WellFormedRow unicode current)
    (hprevious : previous.length = width) (hwidth : current.length = width) (hchanged : changed.length = width) (turns : Nat) :
    ∀ {screen : Screen} {column : Nat}, screen.width = width →
      screen.rows = top ++ (current.take column ++ previous.drop column) :: bottom → column ≤ width → width ≤ column + turns →
        (column = 0 ∨ changed[column - 1]? = some false ∨ changed[column]? ≠ some true) →
          (screen.execute unicode halved (drawRuns top.length turns column ((changed.zip current).drop column))).Shows
            screen.width screen.height (top ++ current :: bottom) := by
  have hpairs : (changed.zip current).length = width := by rw [List.length_zip, hchanged, hwidth, Nat.min_self]
  have hmarks : (changed.zip current).map (·.1) = changed := List.map_fst_zip (by omega)
  have hcells : (changed.zip current).map (·.2) = current := List.map_snd_zip (by omega)
  induction turns with
  | zero =>
    intro screen column _ hrows hle hturns _
    rw [List.take_of_length_le (by omega), List.drop_eq_nil_of_le (by omega), List.append_nil] at hrows
    exact ⟨rfl, rfl, hrows⟩
  | succ turns ih =>
    intro screen column hsize hrows hle hturns hboundary
    by_cases hend : column = width
    · rw [List.take_of_length_le (by omega), List.drop_eq_nil_of_le (by omega), List.append_nil] at hrows
      rw [List.drop_eq_nil_of_le (by omega)]
      exact ⟨rfl, rfl, hrows⟩
    have hlt : column < width := by omega
    rw [List.drop_eq_getElem_cons (show column < (changed.zip current).length by omega), List.getElem_zip]
    have hcell : current[column]? = some current[column] := List.getElem?_eq_getElem (by omega)
    have hmark : changed[column]? = some changed[column] := List.getElem?_eq_getElem (by omega)
    generalize hm : changed[column] = marked at hmark
    cases marked with
    | false =>
      -- The column is the same in both rows.
      have hnext : screen.rows = top ++ (current.take (column + 1) ++ previous.drop (column + 1)) :: bottom := by
        have hsame := hruns.same hmark
        unfold cellAt at hsame
        rw [List.getElem?_eq_getElem (show column < previous.length by omega), hcell, Option.getD_some, Option.getD_some] at hsame
        rw [hrows, List.drop_eq_getElem_cons (show column < previous.length by omega), hsame, take_drop,
          List.drop_eq_getElem_cons (show column < current.length by omega), List.take_succ_cons, List.take_zero, List.append_assoc]
        rfl
      exact ih hsize hnext hlt (by omega) (Or.inr (Or.inl hmark))
    | true =>
      obtain ⟨k, hk, htake, hdrop, hmarked, hnot⟩ := takeWhile_run ((changed.zip current).drop (column + 1))
      rw [List.length_drop, hpairs] at hk
      rw [List.map_drop, hmarks, List.getElem?_drop] at hnot
      have hlast : changed[column + k]? = some true := by
        cases k with
        | zero => exact hmark
        | succ k =>
          have h := hmarked k (Nat.lt_succ_self k)
          rw [List.map_drop, hmarks, List.getElem?_drop] at h
          rw [← h]
          congr 1
          omega
      have hcells : (current[column] :: (((changed.zip current).drop (column + 1)).takeWhile (·.1)).map (·.2)) =
          (current.drop column).take (k + 1) := by
        rw [htake, List.map_take, List.map_drop, hcells, List.drop_eq_getElem_cons (show column < current.length by omega),
          List.take_succ_cons]
      have hlength : ((current.drop column).take (k + 1)).length = k + 1 := by
        rw [List.length_take, List.length_drop]
        omega
      rw [drawRuns]
      rw [hcells, hlength, hdrop, List.drop_drop, show column + 1 + k = column + (k + 1) by omega]
      rw [show column + 1 + k = column + k + 1 by omega] at hnot
      obtain ⟨hsize', hheight', hrows'⟩ : (Screen.execute unicode halved screen _).Shows _ _ _ :=
        run_drawn hruns hcurrent hprevious hwidth hchanged hsize hrows (by omega) hboundary hmark hlast hnot
      rw [List.append_cons, execute_append]
      have hnext := ih (hsize'.trans hsize) hrows' (by omega) (by omega) (Or.inr (Or.inr hnot))
      rw [hsize', hheight'] at hnext
      exact hnext

/-- A row becomes the next one. -/
theorem drawRow_shows (hempty : unicode.width "" = 0) (hspace : unicode.width " " = 1) (hbefore : WellFormedRow unicode previous)
    (hcurrent : WellFormedRow unicode current) (hprevious : previous.length = width) (hwidth : current.length = width) {screen : Screen}
    (hsize : screen.width = width) (hrows : screen.rows = top ++ previous :: bottom) :
    (screen.execute unicode halved (drawRow unicode width top.length previous current)).Shows screen.width screen.height
      (top ++ current :: bottom) :=
  drawRuns_row (changedColumns_runs hempty hspace hbefore hcurrent) hcurrent hprevious hwidth changedColumns_length width hsize hrows
    (Nat.zero_le _) (by omega) (Or.inl rfl)

end Row

/-! ## Frames -/

section Frames

variable {unicode} {halved} {frame : TerminalFrame} {renderer : DirectVtRenderer} {screen : Screen} {width height : Nat}

/-- Rows become the next ones from the top down. -/
theorem drawRows_shows (hempty : unicode.width "" = 0) (hspace : unicode.width " " = 1) {previous current : List (List TerminalCell)}
    (hbefore : ∀ cells ∈ previous, WellFormedRow unicode cells ∧ cells.length = width)
    (hcurrent : ∀ cells ∈ current, WellFormedRow unicode cells ∧ cells.length = width) (hlength : previous.length = current.length)
    (hshows : screen.Shows width height previous) {row : Nat} (hrow : row ≤ current.length) :
    (screen.execute unicode halved ((List.range row).flatMap fun row =>
      drawRow unicode width row (previous[row]?.getD []) (current[row]?.getD []))).Shows width height
        (current.take row ++ previous.drop row) := by
  induction row with
  | zero => exact hshows
  | succ row ih =>
    obtain ⟨hwidth, hheight, hrows⟩ := ih (by omega)
    rw [List.range_succ, List.flatMap_append, List.flatMap_singleton, execute_append]
    have hin : row < previous.length := by omega
    rw [List.drop_eq_getElem_cons hin] at hrows
    rw [List.getElem?_eq_getElem hin, List.getElem?_eq_getElem (show row < current.length by omega), Option.getD_some, Option.getD_some]
    have htop : row = (current.take row).length := by
      rw [List.length_take]
      omega
    obtain ⟨hbefore, hprevious⟩ := hbefore _ (List.getElem_mem hin)
    obtain ⟨hcurrent, hnext⟩ := hcurrent _ (List.getElem_mem (show row < current.length by omega))
    have hdrawn : (Screen.execute unicode halved _ _).Shows _ _ _ :=
      drawRow_shows hempty hspace hbefore hcurrent hprevious hnext hwidth hrows
    rw [← htop, hwidth, hheight] at hdrawn
    rw [List.take_succ_eq_append_getElem (show row < current.length by omega), List.append_assoc]
    exact hdrawn

/-- A frame with well-formed rows of its width. -/
theorem rows_wellFormed (hshaped : frame.Shaped) (hwell : frame.WellFormed unicode) :
    ∀ cells ∈ frame.rows, WellFormedRow unicode cells ∧ cells.length = frame.width :=
  fun cells hcells => ⟨hwell cells hcells, hshaped.2 cells hcells⟩

/-- The screen shows the frame that was drawn last, or is as clear as the renderer takes it to be. -/
structure Synced (unicode : Unicode) (state : DirectVtRenderer × Screen) : Prop where
  shaped : state.1.previous.Shaped
  wellFormed : state.1.previous.WellFormed unicode
  shows : state.2.Shows state.1.previous.width state.1.previous.height state.1.previous.rows

theorem draw_shows (halved : TerminalCell → TerminalStyle → TerminalStyle) (hempty : unicode.width "" = 0) (hspace : unicode.width " " = 1) {state : DirectVtRenderer × Screen}
    (h : Synced unicode state) (hshaped : frame.Shaped) (hwell : frame.WellFormed unicode)
    (hsize : state.1.previous.width = frame.width ∧ state.1.previous.height = frame.height) :
    ∃ next, drawStep unicode halved state (.draw frame) = .ok next ∧ next.1.previous = frame ∧ Synced unicode next := by
  obtain ⟨renderer, screen⟩ := state
  unfold drawStep DirectVtRenderer.draw
  dsimp only
  by_cases hsame : renderer.hasFrame ∧ renderer.previous = frame
  · rw [if_pos hsame, ok_bind]
    exact ⟨_, rfl, hsame.2, h⟩
  · rw [if_neg hsame, require_bind hsize]
    refine ⟨_, rfl, rfl, hshaped, hwell, ?_⟩
    have hlength : renderer.previous.rows.length = frame.rows.length := by rw [h.shaped.1, hshaped.1]; exact hsize.2
    have hbefore := rows_wellFormed h.shaped h.wellFormed
    have hshows := h.shows
    rw [hsize.1] at hbefore hshows
    rw [hsize.2] at hshows
    have hdrawn : (Screen.execute unicode halved _ _).Shows _ _ _ :=
      drawRows_shows hempty hspace hbefore (rows_wellFormed hshaped hwell) hlength hshows (Nat.le_refl _)
    rw [List.take_length, List.drop_eq_nil_of_le (Nat.le_of_eq hlength), List.append_nil, hshaped.1] at hdrawn
    exact hdrawn

theorem resize_shows (hspace : unicode.width " " = 1) {state next : DirectVtRenderer × Screen} {left : List (List TerminalCell)}
    (h : drawStep unicode halved state (.resize width height left) = .ok next) : Synced unicode next := by
  obtain ⟨⟨renderer, commands⟩, hresize, h⟩ := bind_ok.mp h
  obtain ⟨blank, hblank, hresize⟩ := bind_ok.mp hresize
  cases hresize
  cases h
  refine ⟨TerminalFrame.blank_shaped hblank, TerminalFrame.blank_wellFormed hspace hblank, ?_⟩
  obtain ⟨_, hframe⟩ := TerminalFrame.blank_ok.mp hblank
  rw [hframe]
  exact ⟨rfl, rfl, rfl⟩

/-- What `set_row` writes on a blank frame. -/
def TerminalFrame.Built (unicode : Unicode) (frame : TerminalFrame) : Prop :=
  ∃ width height writes, written unicode width height writes = .ok frame

theorem TerminalFrame.Built.shaped (h : frame.Built unicode) : frame.Shaped := by
  obtain ⟨width, height, writes, hwritten⟩ := h
  exact (written_shaped hwritten).1

theorem new_shows (hspace : unicode.width " " = 1) (h : DirectVtRenderer.new width height = .ok renderer) :
    Synced unicode (renderer, Screen.cleared width height) := by
  obtain ⟨blank, hblank, h⟩ := bind_ok.mp h
  cases h
  refine ⟨TerminalFrame.blank_shaped hblank, TerminalFrame.blank_wellFormed hspace hblank, ?_⟩
  obtain ⟨_, hframe⟩ := TerminalFrame.blank_ok.mp hblank
  rw [hframe]
  exact ⟨rfl, rfl, rfl⟩

/-- The frames of the session are so, but for a notice over the status line. -/
theorem layout_frame (hspace : unicode.width " " = 1) {layout : PresentationLayoutView} {status : StatuslineView} {notice : Option String}
    (hlayout : layout.statusline = StatuslineLayoutView.build unicode status layout.viewport)
    (habove : notice = none ∨ 1 ≤ layout.statusStart) (h : TerminalFrame.fromLayoutWithNotice unicode layout notice = .ok frame) :
    frame.Built unicode ∧ frame.WellFormed unicode := by
  rw [fromLayout_written] at h
  exact ⟨⟨_, _, _, h⟩, TerminalFrame.written_wellFormed hspace (layoutWrites_distinct habove) (layoutWrites_rows hlayout) h⟩

/-- A frame drawn at another size is refused. -/
theorem draw_size {state next : DirectVtRenderer × Screen} (h : drawStep unicode halved state (.draw frame) = .ok next) :
    state.1.previous.width = frame.width ∧ state.1.previous.height = frame.height := by
  obtain ⟨⟨renderer, commands⟩, hdraw, _⟩ := bind_ok.mp h
  unfold DirectVtRenderer.draw at hdraw
  by_cases hsame : state.1.hasFrame ∧ state.1.previous = frame
  · rw [hsame.2]
    exact ⟨rfl, rfl⟩
  · rw [if_neg hsame] at hdraw
    exact require_ok.mp (seq_ok.mp hdraw).1

theorem drawStep_shows (hempty : unicode.width "" = 0) (hspace : unicode.width " " = 1) {state next : DirectVtRenderer × Screen}
    {event : DrawEvent} (h : Synced unicode state)
    (hframe : ∀ frame, event = .draw frame → frame.Built unicode ∧ frame.WellFormed unicode)
    (hstep : drawStep unicode halved state event = .ok next) : Synced unicode next := by
  cases event with
  | draw frame =>
    obtain ⟨hbuilt, hwell⟩ := hframe frame rfl
    obtain ⟨next', hnext, _, hsynced⟩ := draw_shows halved hempty hspace h hbuilt.shaped hwell (draw_size hstep)
    cases hnext.symm.trans hstep
    exact hsynced
  | resize width height left => exact resize_shows hspace hstep

theorem drawSteps_shows (hempty : unicode.width "" = 0) (hspace : unicode.width " " = 1) (events : List DrawEvent) :
    ∀ {state last : DirectVtRenderer × Screen}, Synced unicode state →
      (∀ frame, DrawEvent.draw frame ∈ events → frame.Built unicode ∧ frame.WellFormed unicode) →
        events.foldlM (drawStep unicode halved) state = .ok last → Synced unicode last := by
  induction events with
  | nil =>
    intro state last h _ hrun
    cases hrun
    exact h
  | cons event events ih =>
    intro state last h hframes hrun
    rw [List.foldlM_cons] at hrun
    obtain ⟨next, hstep, hrun⟩ := bind_ok.mp hrun
    refine ih (drawStep_shows hempty hspace h ?_ hstep) (fun frame hmem => hframes frame (List.mem_cons_of_mem _ hmem)) hrun
    intro frame hevent
    exact hframes frame (hevent ▸ List.mem_cons_self)

end Frames

/-- In a run whose frames have well-formed rows, drawing the next of them leaves the screen showing it, as drawing it alone on a
    cleared screen does. -/
theorem incremental_drawing (unicode : Unicode) (hempty : unicode.width "" = 0) (hspace : unicode.width " " = 1)
    (halved : TerminalCell → TerminalStyle → TerminalStyle) (width height : Nat) (events : List DrawEvent)
    (hframes : ∀ frame, DrawEvent.draw frame ∈ events → frame.Built unicode ∧ frame.WellFormed unicode)
    (state : DirectVtRenderer × Screen) (hrun : drawRun unicode halved width height events = .ok state)
    (frame : TerminalFrame) (hbuilt : frame.Built unicode) (hwell : frame.WellFormed unicode)
    (hsize : state.1.previous.width = frame.width ∧ state.1.previous.height = frame.height) :
    ∃ next alone, drawStep unicode halved state (.draw frame) = .ok next ∧ next.2.rows = frame.rows ∧
      drawRun unicode halved frame.width frame.height [.draw frame] = .ok alone ∧ next.2.rows = alone.2.rows := by
  obtain ⟨renderer, hnew, hrun⟩ := bind_ok.mp hrun
  have hsynced := drawSteps_shows hempty hspace events (new_shows hspace hnew) hframes hrun
  obtain ⟨next, hnext, hlast, hshown⟩ := draw_shows halved hempty hspace hsynced hbuilt.shaped hwell hsize
  -- Alone, the frame is drawn by a new renderer.
  obtain ⟨renderer', hnew'⟩ : ∃ renderer, DirectVtRenderer.new frame.width frame.height = .ok renderer := by
    obtain ⟨columns, rows, writes, hwritten⟩ := hbuilt
    obtain ⟨_, hcolumns, hrows⟩ := TerminalFrame.written_shaped hwritten
    obtain ⟨blank, hblank, _⟩ := bind_ok.mp hwritten
    rw [hcolumns, hrows]
    unfold DirectVtRenderer.new
    rw [hblank]
    exact ⟨_, rfl⟩
  have halone := new_shows hspace hnew'
  have hsize' : renderer'.previous.width = frame.width ∧ renderer'.previous.height = frame.height := by
    obtain ⟨blank, hblank, h⟩ := bind_ok.mp hnew'
    cases h
    obtain ⟨_, hblank⟩ := TerminalFrame.blank_ok.mp hblank
    rw [hblank]
    exact ⟨rfl, rfl⟩
  obtain ⟨alone, hdrawn, hlast', hshown'⟩ := draw_shows halved hempty hspace halone hbuilt.shaped hwell hsize'
  refine ⟨next, alone, hnext, ?_, ?_, ?_⟩
  · rw [hshown.shows.2.2, hlast]
  · unfold drawRun
    rw [hnew', ok_bind, List.foldlM_cons, hdrawn]
    rfl
  · rw [hshown.shows.2.2, hshown'.shows.2.2, hlast, hlast']

section Examples

/-- As `Unicode.ascii`, and `界` takes two columns. -/
def Unicode.cjk : Unicode :=
  ⟨fun text => text.toList.map String.singleton, fun text => (text.toList.map fun character => if character = '界' then 2 else 1).sum⟩

/-- A row of symbols of one column. -/
def narrowCells (style : TerminalStyle) (text : String) : List TerminalCell :=
  text.toList.map fun character => ⟨String.singleton character, false, style⟩

def okFrame : TerminalFrame := ⟨6, 1, [narrowCells .plain "ok" ++ List.replicate 4 .blank]⟩

example : (drawRow .cjk 6 0 (narrowCells .plain "abcdef") (okFrame.rows[0]?.getD [])).map VtCommand.text =
    ["\x1b[1;1H", "\x1b[0m", "o", "k", " ", " ", " ", " ", "\x1b[0m"] := by decide +kernel

/-- A screen of one row, with a status of up to eight columns. -/
def statusLayout (text : String) : PresentationLayoutView :=
  layoutRows .cjk true [] ⟨[⟨.recovery, text, 8⟩], ""⟩ ⟨8, 1, by decide, by decide⟩

def statusFrame : TerminalFrame := ⟨8, 1, [narrowCells .dim "abcdefgh"]⟩

/-- The notice over the first half of `界`. -/
def noticeFrame : TerminalFrame := ⟨8, 1, [narrowCells .warning "123456" ++ [⟨"", true, .dim⟩, .blank]]⟩

/-- On a screen of one row the notice is written over the status line, and drawn after another status it leaves the end of that. -/
theorem notice_over_status :
    TerminalFrame.fromLayoutWithNotice .cjk (statusLayout "abcdefgh") none = .ok statusFrame ∧
    TerminalFrame.fromLayoutWithNotice .cjk (statusLayout "12345界") (some "123456") = .ok noticeFrame ∧
    (drawRun .cjk (fun _ style => style) 8 1 [.draw statusFrame, .draw noticeFrame]).map (·.2.rows) =
      .ok [narrowCells .warning "123456" ++ [.blank, ⟨"h", false, .dim⟩]] ∧
    (drawRun .cjk (fun _ style => style) 8 1 [.draw noticeFrame]).map (·.2.rows) =
      .ok [narrowCells .warning "123456" ++ [.blank, .blank]] ∧
    (drawRun .cjk (fun _ style => style) 8 1 [.draw statusFrame, .draw noticeFrame]).map (·.2.rows) ≠
      (drawRun .cjk (fun _ style => style) 8 1 [.draw noticeFrame]).map (·.2.rows) := by
  decide +kernel

theorem narrowCells_wellFormed (style : TerminalStyle) (text : String) (h : text.toList.all (· ≠ '界') = true) :
    WellFormedRow .cjk (narrowCells style text) := by
  unfold narrowCells
  generalize text.toList = characters at h
  induction characters with
  | nil => exact .nil
  | cons character characters ih =>
    rw [List.all_cons, Bool.and_eq_true, decide_eq_true_iff] at h
    obtain ⟨hfirst, hrest⟩ := h
    refine .narrow ?_ (ih hrest)
    show ((String.singleton character).toList.map _).sum = 1
    rw [String.toList_singleton, List.map_singleton, if_neg hfirst, List.sum_singleton]

def wideFrame : TerminalFrame := ⟨8, 1, [narrowCells .dim "12345" ++ [⟨"界", false, .dim⟩, ⟨"", true, .dim⟩, .blank]]⟩

def statusDrawn : DirectVtRenderer × Screen := (⟨statusFrame, true⟩, ⟨8, 1, statusFrame.rows, 0, 8, .plain⟩)

theorem incremental_drawing_status : ∃ next alone, drawStep .cjk (fun _ style => style) statusDrawn (.draw wideFrame) = .ok next ∧
    next.2.rows = wideFrame.rows ∧ drawRun .cjk (fun _ style => style) 8 1 [.draw wideFrame] = .ok alone ∧
      next.2.rows = alone.2.rows := by
  have hstatus : statusFrame.Built .cjk ∧ statusFrame.WellFormed .cjk := by
    refine ⟨⟨8, 1, [(0, "abcdefgh", .dim)], by decide +kernel⟩, fun cells hcells => ?_⟩
    rw [List.mem_singleton.mp hcells]
    exact narrowCells_wellFormed _ _ (by decide +kernel)
  have hwide : wideFrame.Built .cjk ∧ wideFrame.WellFormed .cjk := by
    refine ⟨⟨8, 1, [(0, "12345界", .dim)], by decide +kernel⟩, fun cells hcells => ?_⟩
    rw [List.mem_singleton.mp hcells]
    exact (narrowCells_wellFormed _ _ (by decide +kernel)).append (.wide (by decide) (.narrow (by decide) .nil))
  refine incremental_drawing .cjk (by decide) (by decide) (fun _ style => style) 8 1 [.draw statusFrame] (fun frame hframe => ?_)
    statusDrawn (by decide +kernel) wideFrame hwide.1 hwide.2 ⟨rfl, rfl⟩
  cases List.mem_singleton.mp hframe
  exact hstatus

end Examples

end GreenTyper.Tui
