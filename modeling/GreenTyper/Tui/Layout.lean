/-
  GreenTyper.Tui.Layout — how a screen's rows become the body above the status line
  (`presentation.rs`).

  A body that is too long is cut so that the selected row stays, with the title over it,
  and each row is cut to the width. A Tool approval is wrapped to rows that fit, and with
  the selection on it each of them is shown as it is: moving over them shows every grapheme
  of what is asked for (`approval_discloses`).
-/

import GreenTyper.Tui.Approval

namespace GreenTyper.Tui

open Lib

/-- Texts one after the other. -/
def concat (texts : List String) : String := texts.foldr (· ++ ·) ""

variable (unicode : Unicode)

/-! ## Rows that fit -/

/-- The loop of `fit_text`, which ends at the first grapheme without room. -/
def fitGraphemes (contentWidth : Nat) : List String → String → String
  | [], fitted => fitted
  | grapheme :: rest, fitted =>
    if contentWidth < displayWidth unicode fitted + displayWidth unicode grapheme then fitted
    else fitGraphemes contentWidth rest (fitted ++ grapheme)

def fitText (text : String) (maxWidth : Nat) : String :=
  let text := sanitizeControls text
  if unicode.width text ≤ maxWidth then text
  else if maxWidth = 0 then ""
  else if maxWidth = 1 then "…"
  else String.ofList (trimEnd (fitGraphemes unicode (maxWidth - 1) (unicode.graphemes text) "").toList) ++ "…"

def truncateRowsKeepingSelection (rows : List LayoutRowView) (capacity : Nat) : List LayoutRowView :=
  if rows.length ≤ capacity then rows
  else if capacity = 0 then []
  else
    match rows.findIdx? (·.selected) with
    | none => rows.take capacity
    | some selected =>
      if selected < capacity then rows.take capacity
      else if capacity = 1 then (rows.drop selected).take 1
      else
        let tailCapacity := capacity - 1
        let start := selected + 1 - tailCapacity
        rows.take 1 ++ (rows.drop start).take (selected + 1 - start)

/-! ## The status line -/

inductive StatusSegmentKind where
  | recovery
  | blockers
  | model
  | context
  | usage
  | cache
  | cost
  | agents
  | provider
  | config
  deriving DecidableEq

structure StatusSegment where
  kind : StatusSegmentKind
  text : String
  preferredWidth : Nat
  deriving DecidableEq

/-- What the status says: the segments in their order, and the detail. -/
structure StatuslineView where
  segments : List StatusSegment
  detail : String
  deriving DecidableEq

/-- The loop of `pack_status_segments`, with the row so far. -/
def packSegments (width : Nat) : List StatusSegment → String → String × List StatusSegmentKind
  | [], row => (row, [])
  | segment :: rest, row =>
    let separator := if row = "" then 0 else 3
    let available := width - (displayWidth unicode row + separator)
    if available = 0 then (row, (segment :: rest).map (·.kind))
    else
      let preferred := fitText unicode segment.text (min segment.preferredWidth available)
      let row := (if row = "" then row else row ++ " | ") ++ preferred
      if available < displayWidth unicode segment.text then (row, rest.map (·.kind)) else packSegments width rest row

def packStatusSegments (segments : List StatusSegment) (width : Nat) : String × List StatusSegmentKind :=
  packSegments unicode width segments ""

structure StatuslineLayoutView where
  rows : List LayoutRowView
  hidden : List StatusSegmentKind
  deriving DecidableEq

def StatuslineLayoutView.build (status : StatuslineView) (viewport : Viewport) : StatuslineLayoutView :=
  let packed := packStatusSegments unicode status.segments viewport.columns
  let rows := if 120 ≤ viewport.columns ∧ 2 ≤ viewport.height.toNat then
      [LayoutRowView.mk packed.1 false, ⟨fitText unicode status.detail viewport.columns, false⟩]
    else [⟨packed.1, false⟩]
  ⟨rows, packed.2⟩

/-! ## Layouts -/

structure PresentationLayoutView where
  viewport : Viewport
  body : List LayoutRowView
  statusline : StatuslineLayoutView
  deriving DecidableEq

def bodyCapacity (status : StatuslineView) (viewport : Viewport) : Nat :=
  viewport.height.toNat - (StatuslineLayoutView.build unicode status viewport).rows.length

/-- The end of `layout`: the rows of the screen, and whether it is one of those that keep the selection. -/
def layoutRows (keepsSelection : Bool) (rows : List LayoutRowView) (status : StatuslineView) (viewport : Viewport) :
    PresentationLayoutView :=
  let capacity := bodyCapacity unicode status viewport
  let body := if keepsSelection then truncateRowsKeepingSelection rows capacity else rows.take capacity
  ⟨viewport, body.map fun row => { row with text := fitText unicode row.text viewport.columns },
    StatuslineLayoutView.build unicode status viewport⟩

/-- `layout` of the approval screen. -/
def TerminalSession.layout (session : TerminalSession) (status : StatuslineView) : PresentationLayoutView :=
  layoutRows unicode true (session.rows unicode) status session.viewport

/-! ## The selected row -/

section Truncation

variable {rows : List LayoutRowView} {capacity k : Nat}

/-- What is left is there in its order. -/
theorem truncate_sublist (rows : List LayoutRowView) (capacity : Nat) : (truncateRowsKeepingSelection rows capacity).Sublist rows := by
  unfold truncateRowsKeepingSelection
  by_cases hfits : rows.length ≤ capacity
  · rw [if_pos hfits]
  rw [if_neg hfits]
  by_cases hzero : capacity = 0
  · rw [if_pos hzero]
    exact List.nil_sublist _
  rw [if_neg hzero]
  cases rows.findIdx? (·.selected) with
  | none => exact List.take_sublist _ _
  | some selected =>
    dsimp only
    by_cases hbefore : selected < capacity
    · rw [if_pos hbefore]
      exact List.take_sublist _ _
    rw [if_neg hbefore]
    by_cases hone : capacity = 1
    · rw [if_pos hone]
      exact (List.take_sublist _ _).trans (List.drop_sublist _ _)
    · rw [if_neg hone]
      conv => rhs; rw [← List.take_append_drop 1 rows]
      refine (List.Sublist.refl _).append ((List.take_sublist _ _).trans ?_)
      -- The window starts after the title.
      rw [show selected + 1 - (capacity - 1) = 1 + (selected - (capacity - 1)) by omega, ← List.drop_drop]
      exact List.drop_sublist _ _

/-- A body with room for a row has the selected one. -/
theorem truncate_selected (hroom : 1 ≤ capacity) (h : rows.findIdx? (·.selected) = some k) (hk : k < rows.length) :
    rows[k] ∈ truncateRowsKeepingSelection rows capacity := by
  unfold truncateRowsKeepingSelection
  by_cases hfits : rows.length ≤ capacity
  · rw [if_pos hfits]
    exact List.getElem_mem hk
  rw [if_neg hfits, if_neg (by omega), h]
  dsimp only
  by_cases hbefore : k < capacity
  · rw [if_pos hbefore]
    exact List.mem_take_iff_getElem.mpr ⟨k, by omega, rfl⟩
  rw [if_neg hbefore]
  by_cases hone : capacity = 1
  · rw [if_pos hone]
    refine List.mem_take_iff_getElem.mpr ⟨0, by rw [List.length_drop]; omega, ?_⟩
    rw [List.getElem_drop]
    rfl
  · rw [if_neg hone]
    refine List.mem_append_right _ (List.mem_take_iff_getElem.mpr ⟨capacity - 2, by rw [List.length_drop]; omega, ?_⟩)
    rw [List.getElem_drop]
    congr 1
    omega

end Truncation

/-! ## Columns -/

/-- Every grapheme takes one column or two, a printable ASCII character one, and a text those of its graphemes. -/
structure Unicode.Columns (unicode : Unicode) : Prop where
  segmented : ∀ text, concat (unicode.graphemes text) = text
  ascii : ∀ c : Char, 0x20 ≤ c.toNat → c.toNat ≤ 0x7e → unicode.width (String.singleton c) = 1
  column : ∀ text, ∀ grapheme ∈ unicode.graphemes text, unicode.width grapheme = 1 ∨ unicode.width grapheme = 2
  adds : ∀ graphemes, (∀ grapheme ∈ graphemes, ∃ text, grapheme ∈ unicode.graphemes text) →
    unicode.width (concat graphemes) = (graphemes.map unicode.width).sum

section Columns

variable {unicode : Unicode}

theorem concat_cons (text : String) (texts : List String) : concat (text :: texts) = text ++ concat texts := rfl

theorem concat_append (texts texts' : List String) : concat (texts ++ texts') = concat texts ++ concat texts' := by
  induction texts with
  | nil => exact (String.empty_append).symm
  | cons text texts ih => rw [List.cons_append, concat_cons, concat_cons, ih, String.append_assoc]

theorem concat_toList (texts : List String) : (concat texts).toList = texts.flatMap String.toList := by
  induction texts with
  | nil => rfl
  | cons text texts ih => rw [concat_cons, String.toList_append, ih, List.flatMap_cons]

/-- No control character is in the text. -/
def Clean (text : String) : Prop := ∀ c ∈ text.toList, isControl c = false

theorem sanitizeControls_clean (text : String) : Clean (sanitizeControls text) := by
  intro c hc
  unfold sanitizeControls at hc
  rw [String.toList_ofList, List.mem_map] at hc
  obtain ⟨d, _, hd⟩ := hc
  by_cases hcontrol : isControl d = true
  · rw [if_pos hcontrol] at hd
    rw [← hd]
    decide
  · rw [if_neg hcontrol] at hd
    rw [← hd]
    simpa using hcontrol

theorem Clean.sanitized {text : String} (h : Clean text) : sanitizeControls text = text := by
  unfold sanitizeControls
  have hsame : text.toList.map (fun character => if isControl character then '?' else character) = text.toList := by
    conv => rhs; rw [← List.map_id text.toList]
    refine List.map_congr_left fun c hc => ?_
    rw [h c hc]
    rfl
  rw [hsame, String.ofList_toList]

theorem Clean.displayWidth {text : String} (h : Clean text) : displayWidth unicode text = unicode.width text := by
  unfold Tui.displayWidth
  rw [h.sanitized]

/-- Graphemes of texts without control characters. -/
def Graphemes (unicode : Unicode) (graphemes : List String) : Prop :=
  ∀ grapheme ∈ graphemes, (∃ text, grapheme ∈ unicode.graphemes text) ∧ Clean grapheme

theorem Graphemes.concat_clean {graphemes : List String} (h : Graphemes unicode graphemes) : Clean (concat graphemes) := by
  intro c hc
  rw [concat_toList, List.mem_flatMap] at hc
  obtain ⟨grapheme, hmem, hc⟩ := hc
  exact (h grapheme hmem).2 c hc

theorem graphemes_of_clean (hcolumns : unicode.Columns) {text : String} (h : Clean text) : Graphemes unicode (unicode.graphemes text) := by
  intro grapheme hmem
  refine ⟨⟨text, hmem⟩, fun c hc => h c ?_⟩
  rw [← hcolumns.segmented text, concat_toList, List.mem_flatMap]
  exact ⟨grapheme, hmem, hc⟩

theorem Graphemes.width (hcolumns : unicode.Columns) {graphemes : List String} (h : Graphemes unicode graphemes) :
    unicode.width (concat graphemes) = (graphemes.map unicode.width).sum := hcolumns.adds _ fun g hg => (h g hg).1

theorem width_empty (hcolumns : unicode.Columns) : unicode.width "" = 0 :=
  hcolumns.adds [] fun _ h => absurd h List.not_mem_nil

/-- A grapheme is not empty. -/
theorem Graphemes.width_pos (hcolumns : unicode.Columns) {graphemes : List String} (h : Graphemes unicode graphemes) :
    ∀ grapheme ∈ graphemes, unicode.width grapheme = 1 ∨ unicode.width grapheme = 2 := by
  intro grapheme hmem
  obtain ⟨text, htext⟩ := (h grapheme hmem).1
  exact hcolumns.column text grapheme htext

theorem concat_eq_empty (hcolumns : unicode.Columns) {graphemes : List String} (h : Graphemes unicode graphemes) :
    concat graphemes = "" ↔ graphemes = [] := by
  constructor
  · intro hempty
    cases graphemes with
    | nil => rfl
    | cons grapheme rest =>
      have hwidth := h.width hcolumns
      rw [hempty, width_empty hcolumns, List.map_cons, List.sum_cons] at hwidth
      have := h.width_pos hcolumns grapheme List.mem_cons_self
      omega
  · intro hnil
    rw [hnil]
    rfl

/-- A character is one grapheme where it is the whole text. -/
theorem singleton_grapheme (hcolumns : unicode.Columns) {c : Char} (hc : isControl c = false) :
    Graphemes unicode [String.singleton c] := by
  have hclean : Clean (String.singleton c) := by
    intro d hd
    rw [String.toList_singleton, List.mem_singleton] at hd
    rw [hd]
    exact hc
  have hgraphemes := graphemes_of_clean hcolumns hclean
  have hjoined := hcolumns.segmented (String.singleton c)
  generalize hlist : unicode.graphemes (String.singleton c) = graphemes at hgraphemes hjoined
  intro grapheme hmem
  rw [List.mem_singleton.mp hmem]
  cases graphemes with
  | nil =>
    have hlength := congrArg String.toList hjoined
    rw [concat_toList, String.toList_singleton] at hlength
    cases hlength
  | cons first rest =>
    have hfirst : first ≠ "" := by
      intro hempty
      have := hgraphemes.width_pos hcolumns first List.mem_cons_self
      rw [hempty, width_empty hcolumns] at this
      omega
    have hchars := congrArg String.toList hjoined
    rw [concat_cons, String.toList_append, String.toList_singleton] at hchars
    have hwhole : first = String.singleton c := by
      have hne : first.toList ≠ [] := by simpa using hfirst
      obtain ⟨d, ds, hds⟩ := List.exists_cons_of_ne_nil hne
      rw [hds, List.cons_append, List.cons.injEq, List.append_eq_nil_iff] at hchars
      obtain ⟨hd, hnil, _⟩ := hchars
      apply String.toList_inj.mp
      rw [hds, hd, hnil, String.toList_singleton]
    rw [← hwhole]
    exact hgraphemes first List.mem_cons_self

end Columns

/-! ## Wrapping -/

section Wrapping

variable {unicode : Unicode} {maxWidth : Nat}

/-- The lines of a text are its graphemes, none left out, and none is wider than a line. -/
theorem wrapGraphemes_chunks (hcolumns : unicode.Columns) (hmax : 2 ≤ maxWidth) (rest : List String) : ∀ {line : List String},
    Graphemes unicode (line ++ rest) → (line.map unicode.width).sum ≤ maxWidth →
      ∃ chunks : List (List String), wrapGraphemes unicode maxWidth rest (concat line) = chunks.map concat ∧ chunks.flatten = line ++ rest ∧
        ∀ chunk ∈ chunks, (chunk.map unicode.width).sum ≤ maxWidth := by
  induction rest with
  | nil =>
    intro line hgraphemes hfits
    rw [List.append_nil] at hgraphemes ⊢
    unfold wrapGraphemes
    by_cases hempty : concat line = ""
    · rw [if_pos hempty, (concat_eq_empty hcolumns hgraphemes).mp hempty]
      exact ⟨[], rfl, rfl, fun _ h => absurd h List.not_mem_nil⟩
    · rw [if_neg hempty]
      refine ⟨[line], rfl, by simp, fun chunk hchunk => ?_⟩
      rw [List.mem_singleton.mp hchunk]
      exact hfits
  | cons grapheme rest ih =>
    intro line hgraphemes hfits
    have hline : Graphemes unicode line := fun g hg => hgraphemes g (List.mem_append_left _ hg)
    have hmem : grapheme ∈ line ++ grapheme :: rest := by simp
    have hwidth := hgraphemes.width_pos hcolumns grapheme hmem
    unfold wrapGraphemes
    rw [hline.concat_clean.displayWidth, (hgraphemes grapheme hmem).2.displayWidth, hline.width hcolumns]
    have hempty := concat_eq_empty hcolumns hline
    by_cases hfull : concat line ≠ "" ∧ maxWidth < (line.map unicode.width).sum + unicode.width grapheme
    · rw [if_pos hfull]
      have hnext : Graphemes unicode ([grapheme] ++ rest) := fun g hg => hgraphemes g (List.mem_append_right _ hg)
      obtain ⟨chunks, hlines, hflat, hchunks⟩ := ih hnext (by rw [List.map_singleton, List.sum_singleton]; omega)
      rw [show concat [grapheme] = grapheme from String.append_empty] at hlines
      refine ⟨line :: chunks, by rw [hlines, List.map_cons], by rw [List.flatten_cons, hflat]; rfl, ?_⟩
      rw [List.forall_mem_cons]
      exact ⟨hfits, hchunks⟩
    · rw [if_neg hfull]
      have hroom : ((line ++ [grapheme]).map unicode.width).sum ≤ maxWidth := by
        rw [List.map_append, List.sum_append, List.map_singleton, List.sum_singleton]
        by_cases hnil : concat line = ""
        · rw [hempty.mp hnil, List.map_nil, List.sum_nil]
          omega
        · by_contra hwide
          exact hfull ⟨hnil, by omega⟩
      have hnext : Graphemes unicode ((line ++ [grapheme]) ++ rest) := by
        rw [List.append_assoc]
        exact hgraphemes
      obtain ⟨chunks, hlines, hflat, hchunks⟩ := ih hnext hroom
      rw [concat_append, show concat [grapheme] = grapheme from String.append_empty] at hlines
      refine ⟨chunks, hlines, ?_, hchunks⟩
      rw [hflat, List.append_assoc]
      rfl

/-- What a field says, with its label. -/
def fieldText (field : String × String) : String := sanitizeControls (field.1 ++ " " ++ field.2)

theorem wrapApprovalField_chunks (hcolumns : unicode.Columns) {width : Nat} (hwidth : 4 ≤ width) (field : String × String) :
    ∃ chunks : List (List String), wrapApprovalField unicode field.1 field.2 width = chunks.map concat ∧
      chunks.flatten = unicode.graphemes (fieldText field) ∧
      ∀ chunk ∈ chunks, Graphemes unicode chunk ∧ (chunk.map unicode.width).sum ≤ width - 2 := by
  have hgraphemes := graphemes_of_clean hcolumns (sanitizeControls_clean (field.1 ++ " " ++ field.2))
  obtain ⟨chunks, hlines, hflat, hchunks⟩ := @wrapGraphemes_chunks unicode (max (width - 2) 1) hcolumns (by omega)
    (unicode.graphemes (sanitizeControls (field.1 ++ " " ++ field.2))) [] hgraphemes (by simp)
  rw [List.nil_append] at hflat
  refine ⟨chunks, ?_, hflat, fun chunk hchunk => ⟨fun g hg => ?_, ?_⟩⟩
  · unfold wrapApprovalField
    dsimp only
    rw [show wrapGraphemes unicode (max (width - 2) 1) (unicode.graphemes (sanitizeControls (field.1 ++ " " ++ field.2))) "" =
      chunks.map concat from hlines, if_neg]
    -- A labelled field has at least the space after the label.
    intro hnil
    rw [List.map_eq_nil_iff] at hnil
    have hempty := hcolumns.segmented (sanitizeControls (field.1 ++ " " ++ field.2))
    rw [show unicode.graphemes (sanitizeControls (field.1 ++ " " ++ field.2)) = [] by rw [← hflat, hnil]; rfl] at hempty
    have hlength := congrArg (fun text => text.toList.length) hempty
    unfold sanitizeControls at hlength
    simp [concat] at hlength
  · exact hgraphemes g (hflat ▸ List.mem_flatten.mpr ⟨chunk, hchunk, hg⟩)
  · have := hchunks chunk hchunk
    omega

/-- The fields of an approval, as they are shown: a list without resources says so. -/
def approvalFields (approval : ProductToolApprovalView) : List (String × String) :=
  let resources (label : String) (resources : List String) : List (String × String) :=
    if resources = [] then [(label, "none")] else resources.map (label, ·)
  [("call", approval.call.repr), ("agent", approval.agent.repr), ("tool", approval.tool), ("identity", approval.identity),
    ("arguments", approval.arguments)] ++ resources "filesystem read" approval.filesystemReads ++
    resources "filesystem write" approval.filesystemWrites ++ [("process", approval.process.getD "none")] ++
    resources "network target" approval.networkTargets

theorem detailLines_fields (approval : ProductToolApprovalView) (width : Nat) : toolApprovalDetailLines unicode approval width =
    (approvalFields approval).flatMap fun field => wrapApprovalField unicode field.1 field.2 width := by
  have hresources : ∀ (label : String) (resources : List String), approvalResources unicode label resources width =
      (if resources = [] then [(label, "none")] else resources.map (label, ·)).flatMap
        fun field => wrapApprovalField unicode field.1 field.2 width := by
    intro label resources
    unfold approvalResources
    by_cases hnone : resources = []
    · rw [if_pos hnone, if_pos hnone, List.flatMap_singleton]
    · rw [if_neg hnone, if_neg hnone, List.flatMap_map]
  unfold toolApprovalDetailLines approvalFields
  simp only [hresources, List.flatMap_append, List.flatMap_cons, List.flatMap_nil, List.append_nil, List.append_assoc]

/-- A line with its marker is no wider than the screen, and is shown as it is. -/
theorem fitText_line (hcolumns : unicode.Columns) {width : Nat} (hwidth : 4 ≤ width) {chunk : List String}
    (hchunk : Graphemes unicode chunk) (hfits : (chunk.map unicode.width).sum ≤ width - 2) (selected : Bool) :
    fitText unicode (markedRow (concat chunk) selected).text width = (markedRow (concat chunk) selected).text := by
  have hspace : Graphemes unicode [" "] := singleton_grapheme (c := ' ') hcolumns (by decide)
  have hmark : Graphemes unicode [if selected then ">" else " "] := by
    cases selected with
    | true => exact singleton_grapheme (c := '>') hcolumns (by decide)
    | false => exact hspace
  have hrow : Graphemes unicode ((if selected then ">" else " ") :: " " :: chunk) := by
    intro g hg
    rcases List.mem_cons.mp hg with hg | hg
    · exact hmark g (by rw [hg]; exact List.mem_singleton_self _)
    · rcases List.mem_cons.mp hg with hg | hg
      · exact hspace g (by rw [hg]; exact List.mem_singleton_self _)
      · exact hchunk g hg
  have htext : (markedRow (concat chunk) selected).text = concat ((if selected then ">" else " ") :: " " :: chunk) := by
    rw [concat_cons, concat_cons, ← String.append_assoc]
    cases selected <;> rfl
  have hone : unicode.width (if selected then ">" else " ") = 1 ∧ unicode.width " " = 1 := by
    have hspaceWidth := hcolumns.ascii ' ' (by decide) (by decide)
    cases selected with
    | true => exact ⟨hcolumns.ascii '>' (by decide) (by decide), hspaceWidth⟩
    | false => exact ⟨hspaceWidth, hspaceWidth⟩
  unfold fitText
  dsimp only
  rw [htext, hrow.concat_clean.sanitized, hrow.width hcolumns, List.map_cons, List.map_cons, List.sum_cons, List.sum_cons, hone.1,
    hone.2, if_pos (by omega)]

end Wrapping

/-! ## Moving over an approval -/

section Moves

variable {unicode : Unicode} {approval : ProductToolApprovalView} {session : TerminalSession} {selected : Nat}

theorem Within.moved (h : Within unicode approval session selected) (offset : Int) :
    Within unicode approval (session.step unicode (.move offset)) (min (saturatingAddSigned selected offset)
      ((toolApprovalDetailLines unicode approval session.viewport.columns).length + 1)) ∧
      (session.step unicode (.move offset)).viewport = session.viewport := by
  unfold TerminalSession.step TerminalSession.handle PresentationController.moveToolApprovalSelection
  rw [h.1]
  exact ⟨⟨rfl, Nat.min_le_right _ _⟩, rfl⟩

theorem Within.moves (offsets : List Int) : ∀ {session : TerminalSession} {selected : Nat}, Within unicode approval session selected →
    (∃ next, Within unicode approval (session.run unicode (offsets.map .move)) next) ∧
      (session.run unicode (offsets.map .move)).viewport = session.viewport := by
  induction offsets with
  | nil =>
    intro session selected h
    exact ⟨⟨selected, h⟩, rfl⟩
  | cons offset offsets ih =>
    intro session selected h
    obtain ⟨hnext, hviewport⟩ := h.moved offset
    obtain ⟨hreached, hsame⟩ := ih hnext
    exact ⟨hreached, hsame.trans hviewport⟩

/-- Moves by one reach every row, as many as a `usize` counts. -/
theorem Within.reach (h : Within unicode approval session 0) {index : Nat} (hindex : index < 2 ^ 64)
    (hlines : index ≤ (toolApprovalDetailLines unicode approval session.viewport.columns).length + 1) :
    Within unicode approval (session.run unicode ((List.replicate index 1).map .move)) index := by
  induction index with
  | zero => exact h
  | succ index ih =>
    have hbefore := ih (by omega) (by omega)
    have hviewport := (h.moves (List.replicate index 1)).2
    rw [List.replicate_succ', List.map_append, List.map_singleton, run_snoc]
    obtain ⟨hnext, _⟩ := hbefore.moved 1
    have hstep : saturatingAddSigned index 1 = index + 1 := by
      unfold saturatingAddSigned
      omega
    rw [hviewport, hstep, Nat.min_eq_left hlines] at hnext
    exact hnext

/-- The screen of an approval: the title and the decisions are cut to the width, the lines between are not. -/
def approvalScreen (unicode : Unicode) (approval : ProductToolApprovalView) (selected width : Nat) : List LayoutRowView :=
  let detail := toolApprovalDetailLines unicode approval width
  let cut (row : LayoutRowView) : LayoutRowView := { row with text := fitText unicode row.text width }
  cut ⟨"Tool Approval", false⟩ :: (detail.zipIdx.map fun (line, index) => markedRow line (index == selected)) ++
    [cut (markedRow "Approve" (selected == detail.length)), cut (markedRow "Deny" (selected == detail.length + 1))]

theorem fitText_detail (hcolumns : unicode.Columns) {width : Nat} (hwidth : 4 ≤ width) {line : String}
    (hline : line ∈ toolApprovalDetailLines unicode approval width) (selected : Bool) :
    fitText unicode (markedRow line selected).text width = (markedRow line selected).text := by
  rw [detailLines_fields, List.mem_flatMap] at hline
  obtain ⟨field, _, hline⟩ := hline
  obtain ⟨chunks, hlines, _, hchunks⟩ := wrapApprovalField_chunks hcolumns hwidth field
  rw [hlines, List.mem_map] at hline
  obtain ⟨chunk, hchunk, hconcat⟩ := hline
  rw [← hconcat]
  exact fitText_line hcolumns hwidth (hchunks chunk hchunk).1 (hchunks chunk hchunk).2 selected

/-- Cutting the rows to the width leaves the lines of the fields. -/
theorem cut_rows (hcolumns : unicode.Columns) {width : Nat} (hwidth : 4 ≤ width)
    (h : selected ≤ (toolApprovalDetailLines unicode approval width).length + 1) :
    (toolApprovalRows unicode approval selected width).map (fun row => { row with text := fitText unicode row.text width }) =
      approvalScreen unicode approval selected width := by
  unfold toolApprovalRows approvalScreen
  dsimp only
  rw [Nat.min_eq_left h, List.map_append, List.map_cons, List.map_map]
  have hdetail : (toolApprovalDetailLines unicode approval width).zipIdx.map
      ((fun row : LayoutRowView => { row with text := fitText unicode row.text width }) ∘
        fun (line, index) => markedRow line (index == selected)) =
      (toolApprovalDetailLines unicode approval width).zipIdx.map fun (line, index) => markedRow line (index == selected) := by
    refine List.map_congr_left fun entry hentry => ?_
    have hline := List.fst_mem_of_mem_zipIdx hentry
    show LayoutRowView.mk (fitText unicode (markedRow entry.1 (entry.2 == selected)).text width) _ = _
    rw [fitText_detail hcolumns hwidth hline]
  rw [hdetail]
  rfl

theorem Within.body (h : Within unicode approval session selected) (status : StatuslineView) : (session.layout unicode status).body =
      (truncateRowsKeepingSelection (toolApprovalRows unicode approval selected session.viewport.columns)
        (bodyCapacity unicode status session.viewport)).map
          fun row => { row with text := fitText unicode row.text session.viewport.columns } := by
  unfold TerminalSession.layout TerminalSession.rows PresentationController.approvalRows layoutRows
  rw [h.1]
  rfl

theorem rows_detail {width index : Nat} {line : String} (h : (toolApprovalDetailLines unicode approval width)[index]? = some line) :
    (toolApprovalRows unicode approval index width)[index + 1]? = some (markedRow line true) := by
  obtain ⟨hindex, hline⟩ := List.getElem?_eq_some_iff.mp h
  unfold toolApprovalRows
  dsimp only
  rw [Nat.min_eq_left (by omega), List.cons_append, List.getElem?_cons_succ,
    List.getElem?_append_left (by rw [List.length_map, List.length_zipIdx]; exact hindex), List.getElem?_map,
    List.getElem?_zipIdx, h, Option.map_some, Option.map_some, Nat.zero_add, beq_self_eq_true]

/-- What the moves over an approval show of it. -/
structure Discloses (unicode : Unicode) (approval : ProductToolApprovalView) (session : TerminalSession) (status : StatuslineView) :
    Prop where
  /-- The lines are those of the fields, in their order. -/
  lines : toolApprovalDetailLines unicode approval session.viewport.columns =
    (approvalFields approval).flatMap fun field => wrapApprovalField unicode field.1 field.2 session.viewport.columns
  /-- Those of a field are its graphemes, each once and in their order. -/
  graphemes : ∀ field ∈ approvalFields approval, ∃ chunks : List (List String),
    wrapApprovalField unicode field.1 field.2 session.viewport.columns = chunks.map concat ∧
      chunks.flatten = unicode.graphemes (fieldText field)
  /-- Whatever is shown is in the order of the screen, and no line of a field is cut. -/
  order : ∀ offsets : List Int, ∃ selected, ((session.run unicode (offsets.map .move)).layout unicode status).body.Sublist
    (approvalScreen unicode approval selected session.viewport.columns)
  /-- The selected row is shown. -/
  selection : ∀ offsets : List Int, ∃ row ∈ ((session.run unicode (offsets.map .move)).layout unicode status).body, row.selected = true
  /-- Every line is shown with the selection on it. -/
  shown : ∀ line ∈ toolApprovalDetailLines unicode approval session.viewport.columns, ∃ offsets : List Int,
    markedRow line true ∈ ((session.run unicode (offsets.map .move)).layout unicode status).body

theorem discloses (hcolumns : unicode.Columns) (h : Within unicode approval session 0) (hwidth : 4 ≤ session.viewport.columns)
    {status : StatuslineView} (hbody : 1 ≤ bodyCapacity unicode status session.viewport)
    (hlines : (toolApprovalDetailLines unicode approval session.viewport.columns).length < 2 ^ 64) :
    Discloses unicode approval session status where
  lines := detailLines_fields approval _
  graphemes := by
    intro field _
    obtain ⟨chunks, hchunks, hflat, _⟩ := wrapApprovalField_chunks hcolumns hwidth field
    exact ⟨chunks, hchunks, hflat⟩
  order := by
    intro offsets
    obtain ⟨⟨selected, hreached⟩, hviewport⟩ := h.moves offsets
    refine ⟨selected, ?_⟩
    have hwithin := hreached.2
    rw [hviewport] at hwithin
    rw [hreached.body, hviewport]
    rw [← cut_rows hcolumns hwidth hwithin]
    exact (truncate_sublist _ _).map _
  selection := by
    intro offsets
    obtain ⟨⟨selected, hreached⟩, hviewport⟩ := h.moves offsets
    rw [hreached.body, hviewport]
    have hmarked := toolApprovalRows_marked unicode approval selected session.viewport.columns
    have hlt : min selected ((toolApprovalDetailLines unicode approval session.viewport.columns).length + 1) + 1 <
        (toolApprovalRows unicode approval selected session.viewport.columns).length := by
      rw [toolApprovalRows_length]
      omega
    refine ⟨_, List.mem_map_of_mem (truncate_selected hbody hmarked hlt), ?_⟩
    exact (List.findIdx?_eq_some_iff_getElem.mp hmarked).2.1
  shown := by
    intro line hline
    obtain ⟨index, hindex⟩ := List.mem_iff_getElem?.mp hline
    have hlt := (List.getElem?_eq_some_iff.mp hindex).1
    have hreached := h.reach (show index < 2 ^ 64 by omega) (by omega)
    have hviewport := (h.moves (List.replicate index 1)).2
    refine ⟨List.replicate index 1, ?_⟩
    rw [hreached.body, hviewport]
    have hmarked := toolApprovalRows_marked unicode approval index session.viewport.columns
    rw [Nat.min_eq_left (by omega)] at hmarked
    obtain ⟨hin, hrow⟩ := List.getElem?_eq_some_iff.mp (rows_detail hindex)
    have hmem := truncate_selected hbody hmarked hin
    rw [hrow] at hmem
    refine List.mem_map.mpr ⟨_, hmem, ?_⟩
    rw [fitText_detail hcolumns hwidth hline]

end Moves

section Examples

theorem ascii_columns : Unicode.ascii.Columns where
  segmented := by
    intro text
    show concat (text.toList.map String.singleton) = text
    apply String.toList_inj.mp
    rw [concat_toList, List.flatMap_map]
    simp
  ascii := fun _ _ _ => String.length_singleton
  column := by
    intro text grapheme hmem
    obtain ⟨c, _, hc⟩ := List.mem_map.mp hmem
    rw [← hc]
    exact Or.inl String.length_singleton
  adds := by
    intro graphemes hgraphemes
    clear hgraphemes
    show (concat graphemes).length = (graphemes.map String.length).sum
    induction graphemes with
    | nil => rfl
    | cons grapheme rest ih =>
      rw [concat_cons, String.length_append, List.map_cons, List.sum_cons, ih]

def echoStatus : StatuslineView := ⟨[⟨.recovery, "ready", 24⟩], "thread ?"⟩

end Examples

end GreenTyper.Tui
