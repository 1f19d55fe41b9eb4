/-
  GreenTyper.Tui.Approval — the Tool approval screen (`presentation.rs`, `terminal.rs`).

  The selection is one index: the detail lines at the current width come first, then Approve
  and Deny. Every step keeps it within them (`Within`), so what a keystroke would resolve is
  what the marked row says. A resize moves Approve to Approve and Deny to Deny, but leaves a
  selection on a detail line where it is, cut at the new Deny: where the new width has fewer
  lines, it comes to lie on Approve or Deny (`a_wider_window_approves`).
-/

import GreenTyper.Tui.Text
import Mathlib.Data.List.Infix

namespace GreenTyper.Tui

open Lib

/-! ## Rows -/

structure ProductToolApprovalView where
  call : Nat
  agent : Nat
  tool : String
  identity : String
  arguments : String
  filesystemReads : List String
  filesystemWrites : List String
  process : Option String
  networkTargets : List String
  deriving DecidableEq

variable (unicode : Unicode)

/-- The loop of `wrap_approval_field`, with the line so far. -/
def wrapGraphemes (maxWidth : Nat) : List String → String → List String
  | [], line => if line = "" then [] else [line]
  | grapheme :: rest, line =>
    if line ≠ "" ∧ maxWidth < displayWidth unicode line + displayWidth unicode grapheme then
      line :: wrapGraphemes maxWidth rest grapheme
    else wrapGraphemes maxWidth rest (line ++ grapheme)

def wrapApprovalField (label value : String) (width : Nat) : List String :=
  let maxWidth := max (width - 2) 1
  let lines := wrapGraphemes unicode maxWidth (unicode.graphemes (sanitizeControls (label ++ " " ++ value))) ""
  if lines = [] then [label] else lines

/-- `append_approval_resources`. -/
def approvalResources (label : String) (resources : List String) (width : Nat) : List String :=
  if resources = [] then wrapApprovalField unicode label "none" width
  else resources.flatMap fun resource => wrapApprovalField unicode label resource width

def toolApprovalDetailLines (approval : ProductToolApprovalView) (width : Nat) : List String :=
  wrapApprovalField unicode "call" approval.call.repr width ++
  wrapApprovalField unicode "agent" approval.agent.repr width ++
  wrapApprovalField unicode "tool" approval.tool width ++
  wrapApprovalField unicode "identity" approval.identity width ++
  wrapApprovalField unicode "arguments" approval.arguments width ++
  approvalResources unicode "filesystem read" approval.filesystemReads width ++
  approvalResources unicode "filesystem write" approval.filesystemWrites width ++
  wrapApprovalField unicode "process" (approval.process.getD "none") width ++
  approvalResources unicode "network target" approval.networkTargets width

/-- A row of a list, marked where it is the selected one. -/
def markedRow (text : String) (selected : Bool) : LayoutRowView := ⟨(if selected then "> " else "  ") ++ text, selected⟩

def toolApprovalRows (approval : ProductToolApprovalView) (selected width : Nat) : List LayoutRowView :=
  let detail := toolApprovalDetailLines unicode approval width
  let selected := min selected (detail.length + 1)
  ⟨"Tool Approval", false⟩ :: (detail.zipIdx.map fun (line, index) => markedRow line (index == selected)) ++
    [markedRow "Approve" (selected == detail.length), markedRow "Deny" (selected == detail.length + 1)]

/-! ## The controller -/

inductive ToolApprovalAction where
  | approve
  | deny
  deriving DecidableEq

inductive ToolApprovalEntryAction where
  | none
  | resolve (call : Nat) (decision : ToolApprovalAction)
  deriving DecidableEq

inductive PresentationState where
  | toolApproval (selected : Nat)
  | blockerCenter (selected : Nat) (detail : Bool)
  deriving DecidableEq

structure PresentationController where
  state : PresentationState
  toolApproval : Option ProductToolApprovalView
  deriving DecidableEq

namespace PresentationController

def showToolApproval (_ : PresentationController) (approval : ProductToolApprovalView) : PresentationController :=
  ⟨.toolApproval 0, some approval⟩

def moveToolApprovalSelection (controller : PresentationController) (offset : Int) (width : Nat) : PresentationController :=
  match controller.state, controller.toolApproval with
  | .toolApproval selected, some approval =>
    let entryCount := (toolApprovalDetailLines unicode approval width).length + 2
    { controller with state := .toolApproval (min (saturatingAddSigned selected offset) (entryCount - 1)) }
  | _, _ => controller

def activateToolApproval (controller : PresentationController) (width : Nat) : ToolApprovalEntryAction :=
  match controller.state, controller.toolApproval with
  | .toolApproval selected, some approval =>
    let approveIndex := (toolApprovalDetailLines unicode approval width).length
    if selected = approveIndex then .resolve approval.call .approve
    else if selected = approveIndex + 1 then .resolve approval.call .deny
    else .none
  | _, _ => .none

def reflowToolApprovalSelection (controller : PresentationController) (oldWidth newWidth : Nat) : PresentationController :=
  match controller.state with
  | .toolApproval selected =>
    match controller.toolApproval with
    | none => { controller with state := .toolApproval 0 }
    | some approval =>
      let oldApprove := (toolApprovalDetailLines unicode approval oldWidth).length
      let newApprove := (toolApprovalDetailLines unicode approval newWidth).length
      let selected :=
        if selected = oldApprove then newApprove
        else if selected = oldApprove + 1 then newApprove + 1
        else min selected (newApprove + 1)
      { controller with state := .toolApproval selected }
  | _ => controller

/-- `screen_rows` of the approval screen. -/
def approvalRows (controller : PresentationController) (width : Nat) : List LayoutRowView :=
  match controller.state, controller.toolApproval with
  | .toolApproval selected, some approval => toolApprovalRows unicode approval selected width
  | _, _ => []

end PresentationController

/-! ## The session -/

structure TerminalSession where
  viewport : Viewport
  controller : PresentationController
  notice : Option String
  pendingToolAction : Option (Nat × ToolApprovalAction)
  deriving DecidableEq

inductive TerminalIntent where
  | moveToolApprovalSelection (offset : Int)
  | activateToolApproval
  | resize (width height : UInt16)
  deriving DecidableEq

inductive TerminalLoopOutcome where
  | noop
  | redraw
  | resolveToolApproval
  | resize (width height : UInt16)
  deriving DecidableEq

def TerminalSession.handle (session : TerminalSession) : TerminalIntent → Except ViewportError (TerminalSession × TerminalLoopOutcome)
  | .moveToolApprovalSelection offset =>
    .ok ({ session with
      controller := session.controller.moveToolApprovalSelection unicode offset session.viewport.columns, notice := none }, .redraw)
  | .activateToolApproval =>
    match session.controller.activateToolApproval unicode session.viewport.columns with
    | .resolve call decision => .ok ({ session with pendingToolAction := some (call, decision) }, .resolveToolApproval)
    | .none => .ok (session, .noop)
  | .resize width height => do
    let viewport ← Viewport.new width height
    let controller := session.controller.reflowToolApprovalSelection unicode session.viewport.columns viewport.columns
    .ok ({ session with viewport, controller }, .resize width height)

/-- What the user and the window do while the approval is shown. -/
inductive ApprovalStep where
  | move (offset : Int)
  | resize (width height : UInt16)
  | render
  deriving DecidableEq

namespace TerminalSession

/-- A step of the session; a size that is refused leaves it as it was. -/
def step (session : TerminalSession) : ApprovalStep → TerminalSession
  | .move offset =>
    match session.handle unicode (.moveToolApprovalSelection offset) with
    | .ok (next, _) => next
    | .error _ => session
  | .resize width height =>
    match session.handle unicode (.resize width height) with
    | .ok (next, _) => next
    | .error _ => session
  | .render => session

def run (session : TerminalSession) (steps : List ApprovalStep) : TerminalSession := steps.foldl (step unicode) session

def showToolApproval (session : TerminalSession) (approval : ProductToolApprovalView) : TerminalSession :=
  { session with controller := session.controller.showToolApproval approval }

def rows (session : TerminalSession) : List LayoutRowView := session.controller.approvalRows unicode session.viewport.columns

/-- What `ActivateToolApproval` would resolve. -/
def decision (session : TerminalSession) : Option ToolApprovalAction :=
  match session.controller.activateToolApproval unicode session.viewport.columns with
  | .resolve _ decision => some decision
  | .none => none

end TerminalSession

/-- What the marked row says: the last row is Deny, the one before it Approve. -/
def markedDecision (rows : List LayoutRowView) : Option ToolApprovalAction :=
  match rows.findIdx? (·.selected) with
  | none => none
  | some index => if index + 2 = rows.length then some .approve else if index + 1 = rows.length then some .deny else none

/-! ## The marked row -/

/-- The decision of the selection `selected` after `lines` detail lines. -/
def decisionAt (lines selected : Nat) : Option ToolApprovalAction :=
  if selected = lines then some .approve else if selected = lines + 1 then some .deny else none

theorem findIdx_zipIdx {α : Type} (k : Nat) (l : List α) : ∀ start : Nat,
    (l.zipIdx start).findIdx? (fun p => p.2 == k) = if start ≤ k ∧ k < start + l.length then some (k - start) else none := by
  induction l with
  | nil =>
    intro start
    rw [List.length_nil, if_neg (by omega)]
    rfl
  | cons a l ih =>
    intro start
    rw [List.zipIdx_cons, List.findIdx?_cons, List.length_cons, ih]
    by_cases hk : start = k
    · subst hk
      rw [beq_self_eq_true, if_pos rfl, if_pos (by omega), Nat.sub_self]
    · have hne : (start == k) = false := beq_false_of_ne hk
      rw [hne, if_neg (by decide)]
      by_cases hin : start + 1 ≤ k ∧ k < start + 1 + l.length
      · rw [if_pos hin, if_pos (by omega), Option.map_some]
        congr 1
        omega
      · rw [if_neg hin, if_neg (by omega)]
        rfl

theorem toolApprovalRows_length (approval : ProductToolApprovalView) (selected width : Nat) :
    (toolApprovalRows unicode approval selected width).length = (toolApprovalDetailLines unicode approval width).length + 3 := by
  simp [toolApprovalRows]

/-- The marked row is the title's successor as far on as the selection. -/
theorem toolApprovalRows_marked (approval : ProductToolApprovalView) (selected width : Nat) :
    (toolApprovalRows unicode approval selected width).findIdx? (·.selected) =
      some (min selected ((toolApprovalDetailLines unicode approval width).length + 1) + 1) := by
  unfold toolApprovalRows
  generalize toolApprovalDetailLines unicode approval width = detail
  show ((_ :: _) ++ _ : List LayoutRowView).findIdx? _ = some (min selected (detail.length + 1) + 1)
  have hle : min selected (detail.length + 1) ≤ detail.length + 1 := Nat.min_le_right _ _
  generalize min selected (detail.length + 1) = k at hle
  rw [List.cons_append, List.findIdx?_cons]
  show Option.map _ _ = _
  rw [List.findIdx?_append, List.findIdx?_map]
  show Option.map (· + 1) (((detail.zipIdx).findIdx? fun p => p.2 == k).or _) = _
  rw [findIdx_zipIdx]
  by_cases hdetail : k < detail.length
  · rw [if_pos (by omega)]
    rfl
  · rw [if_neg (by omega)]
    by_cases happrove : k = detail.length
    · simp [happrove, markedRow, List.findIdx?_cons]
    · have hdeny : k = detail.length + 1 := by omega
      simp [hdeny, markedRow, List.findIdx?_cons, Nat.add_comm 1]

theorem markedDecision_rows (approval : ProductToolApprovalView) (selected width : Nat) :
    markedDecision (toolApprovalRows unicode approval selected width) =
      decisionAt (toolApprovalDetailLines unicode approval width).length
        (min selected ((toolApprovalDetailLines unicode approval width).length + 1)) := by
  unfold markedDecision decisionAt
  rw [toolApprovalRows_marked, toolApprovalRows_length]
  generalize (toolApprovalDetailLines unicode approval width).length = lines
  generalize min selected (lines + 1) = k
  show (if k + 1 + 2 = lines + 3 then _ else if k + 1 + 1 = lines + 3 then _ else _) = _
  by_cases happrove : k = lines
  · rw [if_pos happrove, if_pos (by omega)]
  · rw [if_neg happrove, if_neg (by omega)]
    by_cases hdeny : k = lines + 1
    · rw [if_pos hdeny, if_pos (by omega)]
    · rw [if_neg hdeny, if_neg (by omega)]

/-! ## Steps -/

/-- `reflow_tool_approval_selection` on the index alone. -/
def reflowed (oldApprove newApprove selected : Nat) : Nat :=
  if selected = oldApprove then newApprove
  else if selected = oldApprove + 1 then newApprove + 1
  else min selected (newApprove + 1)

theorem reflowed_le {oldApprove newApprove selected : Nat} : reflowed oldApprove newApprove selected ≤ newApprove + 1 := by
  unfold reflowed
  split
  · omega
  · split
    · exact Nat.le_refl _
    · exact Nat.min_le_right _ _

/-- The decision stays unless a detail line's index has no detail line at the new width. -/
theorem reflowed_decision {oldApprove newApprove selected : Nat} (h : selected ≤ oldApprove + 1) :
    decisionAt newApprove (reflowed oldApprove newApprove selected) = decisionAt oldApprove selected ↔
      (selected < oldApprove → selected < newApprove) := by
  unfold reflowed
  by_cases happrove : selected = oldApprove
  · rw [if_pos happrove]
    simp [decisionAt, happrove]
  · rw [if_neg happrove]
    by_cases hdeny : selected = oldApprove + 1
    · rw [if_pos hdeny]
      simp [decisionAt, hdeny]
    · rw [if_neg hdeny]
      have hdetail : decisionAt oldApprove selected = none := by rw [decisionAt, if_neg happrove, if_neg hdeny]
      rw [hdetail]
      unfold decisionAt
      by_cases hwithin : selected < newApprove
      · rw [if_neg (by omega), if_neg (by omega)]
        simp [hwithin]
      · constructor
        · intro hnone
          split at hnone
          · cases hnone
          · split at hnone
            · cases hnone
            · omega
        · intro hkeep
          exact absurd (hkeep (by omega)) hwithin

variable {unicode}
variable {approval : ProductToolApprovalView} {session : TerminalSession}

/-- The approval is shown with the selection on a detail line, Approve or Deny. -/
def Within (unicode : Unicode) (approval : ProductToolApprovalView) (session : TerminalSession) (selected : Nat) : Prop :=
  session.controller = ⟨.toolApproval selected, some approval⟩ ∧
    selected ≤ (toolApprovalDetailLines unicode approval session.viewport.columns).length + 1

theorem Within.decision {selected : Nat} (h : Within unicode approval session selected) : session.decision unicode =
    decisionAt (toolApprovalDetailLines unicode approval session.viewport.columns).length selected := by
  unfold TerminalSession.decision PresentationController.activateToolApproval decisionAt
  rw [h.1]
  by_cases happrove : selected = (toolApprovalDetailLines unicode approval session.viewport.columns).length
  · simp only [if_pos happrove]
  · by_cases hdeny : selected = (toolApprovalDetailLines unicode approval session.viewport.columns).length + 1
    · simp only [if_neg happrove, if_pos hdeny]
    · simp only [if_neg happrove, if_neg hdeny]

theorem Within.marked {selected : Nat} (h : Within unicode approval session selected) :
    session.decision unicode = markedDecision (session.rows unicode) := by
  unfold TerminalSession.rows PresentationController.approvalRows
  rw [h.decision, h.1]
  show _ = markedDecision (toolApprovalRows unicode approval selected session.viewport.columns)
  rw [markedDecision_rows, Nat.min_eq_left h.2]

theorem Within.show (session : TerminalSession) (approval : ProductToolApprovalView) :
    Within unicode approval (session.showToolApproval approval) 0 := ⟨rfl, Nat.zero_le _⟩

theorem step_accepted (session : TerminalSession) (viewport : Viewport) :
    session.step unicode (.resize viewport.width viewport.height) = { session with
      viewport, controller := session.controller.reflowToolApprovalSelection unicode session.viewport.columns viewport.columns } := by
  have hnew : Viewport.new viewport.width viewport.height = .ok viewport := Viewport.new_ok.mpr ⟨rfl, rfl⟩
  unfold TerminalSession.step TerminalSession.handle
  simp only [hnew, ok_bind]

theorem Within.move {selected : Nat} (h : Within unicode approval session selected) (offset : Int) :
    ∃ next, Within unicode approval (session.step unicode (.move offset)) next := by
  unfold TerminalSession.step TerminalSession.handle PresentationController.moveToolApprovalSelection
  rw [h.1]
  exact ⟨_, rfl, Nat.min_le_right _ _⟩

theorem Within.resize {selected : Nat} (h : Within unicode approval session selected) (viewport : Viewport) :
    Within unicode approval (session.step unicode (.resize viewport.width viewport.height))
      (reflowed (toolApprovalDetailLines unicode approval session.viewport.columns).length
        (toolApprovalDetailLines unicode approval viewport.columns).length selected) ∧
    (session.step unicode (.resize viewport.width viewport.height)).viewport = viewport := by
  rw [step_accepted]
  unfold PresentationController.reflowToolApprovalSelection
  rw [h.1]
  exact ⟨⟨rfl, reflowed_le⟩, rfl⟩

/-- A size with no columns or no rows is refused. -/
theorem step_refused {width height : UInt16} (h : width = 0 ∨ height = 0) : session.step unicode (.resize width height) = session := by
  have hnew : ∃ e, Viewport.new width height = .error e := by
    unfold Viewport.new
    by_cases hwidth : width = 0
    · exact ⟨.zeroWidth, dif_neg (by simp [hwidth])⟩
    · rw [dif_pos hwidth, dif_neg (by simp [h.resolve_left hwidth])]
      exact ⟨_, rfl⟩
  obtain ⟨e, he⟩ := hnew
  unfold TerminalSession.step TerminalSession.handle
  simp only [he, error_bind]

theorem Within.step {selected : Nat} (h : Within unicode approval session selected) (s : ApprovalStep) :
    ∃ next, Within unicode approval (session.step unicode s) next := by
  cases s with
  | move offset => exact h.move offset
  | resize width height =>
    by_cases hzero : width = 0 ∨ height = 0
    · rw [step_refused hzero]
      exact ⟨selected, h⟩
    · rw [not_or] at hzero
      exact ⟨_, (h.resize ⟨width, height, hzero.1, hzero.2⟩).1⟩
  | render => exact ⟨selected, h⟩

theorem Within.run (steps : List ApprovalStep) : ∀ {session : TerminalSession} {selected : Nat}, Within unicode approval session selected →
    ∃ next, Within unicode approval (session.run unicode steps) next := by
  induction steps with
  | nil => exact fun {_ selected} h => ⟨selected, h⟩
  | cons s steps ih =>
    intro session selected h
    obtain ⟨next, hnext⟩ := h.step s
    exact ih hnext

/-! ## Every run -/

def TerminalSession.selected (session : TerminalSession) : Nat :=
  match session.controller.state with
  | .toolApproval selected => selected
  | .blockerCenter .. => 0

/-- A selection on a detail line has a detail line at the new width. -/
def KeepsDetail (unicode : Unicode) (approval : ProductToolApprovalView) (session : TerminalSession) (width : Nat) : Prop :=
  session.selected < (toolApprovalDetailLines unicode approval session.viewport.columns).length →
    session.selected < (toolApprovalDetailLines unicode approval width).length

theorem Within.selected_eq {selected : Nat} (h : Within unicode approval session selected) : session.selected = selected := by
  unfold TerminalSession.selected
  rw [h.1]

/-- One resize: the decision stays exactly where a detail line's index stays one. -/
theorem resize_decision {selected : Nat} (h : Within unicode approval session selected) (width height : UInt16) :
    (session.step unicode (.resize width height)).decision unicode = session.decision unicode ↔
      (width ≠ 0 → height ≠ 0 → KeepsDetail unicode approval session width.toNat) := by
  by_cases hzero : width = 0 ∨ height = 0
  · rw [step_refused hzero]
    refine ⟨fun _ hwidth hheight => ?_, fun _ => rfl⟩
    exact absurd hzero (by rw [not_or]; exact ⟨hwidth, hheight⟩)
  · rw [not_or] at hzero
    obtain ⟨hafter, hviewport⟩ := h.resize ⟨width, height, hzero.1, hzero.2⟩
    have hdecision := hafter.decision
    rw [hviewport] at hdecision
    unfold KeepsDetail
    rw [hdecision, h.decision, reflowed_decision h.2, h.selected_eq]
    exact ⟨fun hkeep _ _ => hkeep, fun hkeep => hkeep hzero.1 hzero.2⟩

theorem run_snoc (session : TerminalSession) (steps : List ApprovalStep) (s : ApprovalStep) :
    session.run unicode (steps ++ [s]) = (session.run unicode steps).step unicode s := by
  unfold TerminalSession.run
  rw [List.foldl_append]
  rfl

/-- While an approval is shown, what a keystroke would resolve is what the marked row says; and
    the resizes of a run keep it exactly where none takes the detail line under the selection
    away. -/
theorem pending_decision (unicode : Unicode) (approval : ProductToolApprovalView) (session : TerminalSession)
    (steps : List ApprovalStep) :
    (∀ done, done <+: steps → ((session.showToolApproval approval).run unicode done).decision unicode =
      markedDecision (((session.showToolApproval approval).run unicode done).rows unicode)) ∧
    ((∀ done width height, done ++ [.resize width height] <+: steps →
        ((session.showToolApproval approval).run unicode (done ++ [.resize width height])).decision unicode =
          ((session.showToolApproval approval).run unicode done).decision unicode) ↔
      ∀ done width height, done ++ [.resize width height] <+: steps → width ≠ 0 → height ≠ 0 →
        KeepsDetail unicode approval ((session.showToolApproval approval).run unicode done) width.toNat) := by
  have hwithin : ∀ done, ∃ selected, Within unicode approval ((session.showToolApproval approval).run unicode done) selected :=
    fun done => (Within.show session approval).run done
  constructor
  · intro done _
    obtain ⟨selected, h⟩ := hwithin done
    exact h.marked
  · constructor
    · intro hkept done width height hdone
      obtain ⟨selected, h⟩ := hwithin done
      have hdecision := hkept done width height hdone
      rw [run_snoc] at hdecision
      exact (resize_decision h width height).mp hdecision
    · intro hkeeps done width height hdone
      obtain ⟨selected, h⟩ := hwithin done
      rw [run_snoc]
      exact (resize_decision h width height).mpr (hkeeps done width height hdone)

/-- A Tool call with a short argument. -/
def echoApproval : ProductToolApprovalView where
  call := 1
  agent := 1
  tool := "local.echo"
  identity := "echo-1"
  arguments := "\x7b\"message\":\"hello\"\x7d"
  filesystemReads := []
  filesystemWrites := []
  process := none
  networkTargets := []

def narrowSession : TerminalSession where
  viewport := ⟨24, 24, by decide, by decide⟩
  controller := ⟨.blockerCenter 0 true, none⟩
  notice := none
  pendingToolAction := none

/-- The argument takes two lines of 24 columns and one of 80: the selection on the last of the
    ten detail lines becomes Approve when the window is made wider. -/
theorem a_wider_window_approves :
    ((narrowSession.showToolApproval echoApproval).run .ascii [.move 9]).decision .ascii = none ∧
    ((narrowSession.showToolApproval echoApproval).run .ascii [.move 9, .resize 80 24]).decision .ascii = some .approve := by
  decide +kernel

end GreenTyper.Tui
