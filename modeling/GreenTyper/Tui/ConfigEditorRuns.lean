/-
  GreenTyper.Tui.ConfigEditorRuns — what the config editor commits.

  `committed_previewed`: in every run of keys, whatever the configuration does meanwhile, the
  draft that is committed is the one whose preview was the last thing that happened to it. Two
  kinds of step are kept out: a commit by `c` over a field that has no value when the draft was
  not previewed, where the choice that was previewed (none) and the choice there is (none) are
  the same, and a rejected change that leaves the draft changed.

  What was previewed is remembered in three places (the choice, the text and the editor's
  `validated`), and each of them, while it is set, says that the draft is the previewed one
  (`Remembers`). A text can only be remembered in a field with a text and a choice only in a
  field without one, and the kind of a field depends on its path only (`interaction_at`), so
  no edit of one kind leaves a memory of the other.
-/

import GreenTyper.Tui.ConfigEditor
import GreenTyper.Config.Commit

namespace GreenTyper.Tui

open Lib Config

/-! ## The kind of a field -/

/-- A field that is typed into. -/
def ConfigFieldInteraction.isTextual : ConfigFieldInteraction → Bool
  | .text _ | .credentialReference _ => true
  | .readOnly | .choice _ => false

/-- The interaction at a path, by the schema alone. -/
def interactionAt (path : String) : ConfigFieldInteraction :=
  match requireSchemaEntry path with
  | .ok entry => configFieldInteraction entry.pathPattern entry.valueKind entry.credentialReference entry.editor
  | .error _ => .readOnly

/-- A view of the field at a path: of the kind that the path has, and with a value if it is a text's. -/
structure ShownAt (field : ConfigFieldView) (path : String) : Prop where
  kind : interaction field = interactionAt path
  value : ∀ maxBytes, interaction field = .text maxBytes → isBinding field = false

theorem lookup_mem {α β : Type} [BEq α] [LawfulBEq α] {a : α} {b : β} : ∀ {l : List (α × β)}, l.lookup a = some b → (a, b) ∈ l
  | (a', b') :: l, h => by
    rw [List.lookup_cons] at h
    by_cases heq : a = a'
    · rw [beq_iff_eq.mpr heq] at h
      simp_all
    · rw [beq_eq_false_iff_ne.mpr heq] at h
      exact List.mem_cons_of_mem _ (lookup_mem h)

/-- No credential reference is edited as a plain text. -/
theorem reference_not_text {pattern : List String} {kind : ConfigValueKind} {editor : String} {maxBytes : Nat} :
    configFieldInteraction pattern kind true editor ≠ .text maxBytes := by
  intro h
  unfold configFieldInteraction at h
  cases hlookup : fieldInteractions.lookup (joined pattern, kind, true, editor) with
  | none =>
    rw [hlookup] at h
    cases h
  | some found =>
    rw [hlookup, Option.getD_some] at h
    have hrows : ∀ row ∈ fieldInteractions, row.1.2.2.1 = true → row.2 = .credentialReference maxConfigIdBytes := by decide
    have hrow := hrows _ (lookup_mem hlookup) rfl
    rw [h] at hrow
    cases hrow

theorem inspectDocumentField_shown_at {runtime : ConfigRuntime} {scope : ConfigScope} {path : String} {document : ConfigDocument}
    {field : ConfigFieldView} (h : runtime.inspectDocumentField scope path document = .ok field) :
    field.path = path ∧ ShownAt field path := by
  unfold ConfigRuntime.inspectDocumentField at h
  simp only [bind_ok, pure, Except.pure, Except.ok.injEq] at h
  obtain ⟨_, _, entry, hentry, _, _, target, _, effective, _, rfl⟩ := h
  have hbinding : ∀ a b c d e f, isBinding ⟨path, entry.pathPattern, entry.valueKind, scope, entry.timing, entry.editor,
      if entry.credentialReference = true then .credentialBinding a b c else .value d e f⟩ = entry.credentialReference := by
    intro a b c d e f
    unfold isBinding
    by_cases hreference : entry.credentialReference = true <;> simp [hreference]
  refine ⟨rfl, ?_, ?_⟩
  · unfold interaction interactionAt
    rw [hbinding, hentry]
  · intro maxBytes htext
    unfold interaction at htext
    rw [hbinding] at htext ⊢
    by_cases hreference : entry.credentialReference = true
    · rw [hreference] at htext
      exact absurd htext reference_not_text
    · simpa using hreference

theorem field_shown_at {world : ConfigWorld} {session : ConfigEditorSession} {field : ConfigFieldView}
    (h : session.field world = .ok field) : ShownAt field session.fieldPath := by
  unfold ConfigEditorSession.field at h
  exact (inspectDocumentField_shown_at (mapError_ok.mp h)).2

/-! ## What the controller does -/

section Controller

variable {world : ConfigWorld} {controller controller' : ConfigController}

theorem activeEditor_ok {editor : ActiveConfigEditor} (h : controller.activeEditor = .ok editor) : controller.editor = some editor := by
  unfold ConfigController.activeEditor at h
  obtain ⟨_, h⟩ := seq_ok.mp h
  exact okOr_ok.mp h

/-- A change went through, and the editor has the field anew; or it was rejected, and left nothing behind if not its draft. -/
inductive Changed (world : ConfigWorld) (controller : ConfigController) : Except ConfigControllerError Unit × ConfigController → Prop
  | edited (editor : ActiveConfigEditor) (session : ConfigEditorSession) (field : ConfigFieldView)
      (active : controller.editor = some editor) (path : session.fieldPath = editor.session.fieldPath)
      (shown : session.field world = .ok field) :
      Changed world controller (.ok (), { controller with editor := some ⟨session, field, true, false⟩ })
  | rejected (e : ConfigControllerError) (rest : ConfigController) (kept : rest.draft = controller.draft → rest = controller) :
      Changed world controller (.error e, rest)

theorem change_path (session : ConfigEditorSession) (check : Except ConfigEditorError Unit)
    (edit : ConfigDraft → Except ConfigRuntimeError Unit × ConfigDraft) :
    (session.change check edit).2 = { session with draft := (session.change check edit).2.draft } := by
  unfold ConfigEditorSession.change
  cases check <;> rfl

theorem change_changed {edit : ConfigEditorSession → Except ConfigEditorError Unit × ConfigEditorSession}
    (hedit : ∀ session, (edit session).2 = { session with draft := (edit session).2.draft }) :
    Changed world controller (controller.change world edit) := by
  unfold ConfigController.change
  cases hactive : controller.activeEditor with
  | error e => exact .rejected e controller fun _ => rfl
  | ok editor =>
    have heditor := activeEditor_ok hactive
    have hkept : ({ controller with editor := some { editor with session := (edit editor.session).2 } } : ConfigController).draft =
        controller.draft → ({ controller with editor := some { editor with session := (edit editor.session).2 } } : ConfigController) =
        controller := by
      intro hdraft
      unfold ConfigController.draft at hdraft
      rw [heditor] at hdraft
      have hsame : (edit editor.session).2 = editor.session := by
        rw [hedit]
        simpa using congrArg (fun draft => { editor.session with draft }) (Option.some.inj hdraft)
      rw [hsame, ← heditor]
    dsimp only
    cases hresult : (edit editor.session).1 with
    | error e => exact .rejected _ _ hkept
    | ok _ =>
      dsimp only
      cases hfield : (edit editor.session).2.field world with
      | error e => exact .rejected _ _ hkept
      | ok field => exact .edited editor _ field heditor (by rw [hedit]) hfield

theorem stageConfig_changed (raw : String) : Changed world controller (controller.stageConfig world raw) :=
  change_changed fun session => change_path session _ _

theorem resetConfig_changed : Changed world controller (controller.resetConfig world) :=
  change_changed fun session => change_path session _ _

theorem changeInWizard_changed {edit : ConfigEditorSession → Except ConfigEditorError Unit × ConfigEditorSession}
    (hedit : ∀ session, (edit session).2 = { session with draft := (edit session).2.draft }) :
    Changed world controller (controller.changeInWizard world edit) := by
  unfold ConfigController.changeInWizard
  by_cases hstate : controller.state = .providerWizard
  · rw [if_pos hstate]
    exact change_changed hedit
  · rw [if_neg hstate]
    exact .rejected _ _ fun _ => rfl

theorem stageReference_changed (reference : String) :
    Changed world controller (controller.stageProviderCredentialReference world reference) :=
  changeInWizard_changed fun session => change_path session _ _

theorem resetReference_changed : Changed world controller (controller.resetProviderCredentialReference world) :=
  changeInWizard_changed fun session => change_path session _ _

/-- A preview looks at the field again and remembers the draft it has. -/
theorem previewConfig_ok (h : controller.previewConfig world = .ok controller') :
    ∃ editor field dirty, controller.editor = some editor ∧ ShownAt field editor.session.fieldPath ∧
      controller' = { controller with editor := some { editor with field, dirty, validated := true } } := by
  unfold ConfigController.previewConfig at h
  obtain ⟨editor, hactive, h⟩ := bind_ok.mp h
  obtain ⟨⟨field, changes⟩, hpreview, h⟩ := bind_ok.mp h
  cases h
  have hpreview := mapError_ok.mp hpreview
  unfold ConfigEditorSession.preview at hpreview
  obtain ⟨_, _, hpreview⟩ := bind_ok.mp hpreview
  obtain ⟨shown, hfield, hpreview⟩ := bind_ok.mp hpreview
  cases hpreview
  exact ⟨editor, _, _, activeEditor_ok hactive, field_shown_at hfield, rfl⟩

theorem commitConfig_ok (h : controller.commitConfig world = .ok controller') : controller' = ⟨.elsewhere, none⟩ := by
  unfold ConfigController.commitConfig at h
  obtain ⟨_, _, h⟩ := bind_ok.mp h
  obtain ⟨_, _, h⟩ := bind_ok.mp h
  cases h
  rfl

theorem discardConfig_ok (h : controller.discardConfig = .ok controller') : controller' = ⟨.elsewhere, none⟩ := by
  unfold ConfigController.discardConfig at h
  obtain ⟨_, h⟩ := seq_ok.mp h
  cases h
  rfl

theorem back_ok (h : controller.back = .ok controller') : controller' = ⟨.elsewhere, none⟩ := by
  unfold ConfigController.back at h
  obtain ⟨_, h⟩ := seq_ok.mp h
  cases h
  rfl

/-- The fields of an object were looked at, so the field of a focus that moved can be. -/
theorem moveField_field {session session' : ConfigEditorSession} {offset : Int} (h : session.moveField world offset = .ok session') :
    session' = session ∨ session'.draft = session.draft ∧ ∃ field, session'.field world = .ok field := by
  unfold ConfigEditorSession.moveField at h
  by_cases hdelete : session.operation = .delete
  · rw [if_pos hdelete] at h
    cases h
  rw [if_neg hdelete] at h
  cases hobject : session.object with
  | none =>
    rw [hobject] at h
    cases h
    exact .inl rfl
  | some object =>
    rw [hobject] at h
    obtain ⟨fields, hfields, h⟩ := bind_ok.mp h
    dsimp only at h
    split at h
    · cases h
      exact .inl rfl
    · split at h
      · cases h
        exact .inl rfl
      · rename_i field hget
        cases h
        refine .inr ⟨rfl, field, ?_⟩
        have hmem := (List.mem_filter.mp (List.mem_of_getElem? hget)).1
        have hfields := mapError_ok.mp hfields
        unfold ConfigRuntime.draftObjectFields at hfields
        obtain ⟨_, hfields⟩ := seq_ok.mp hfields
        obtain ⟨path, _, hpath⟩ := mapM_member hfields hmem
        unfold ConfigRuntime.inspectDraftField at hpath
        unfold ConfigEditorSession.field ConfigRuntime.inspectDraftField
        have hsame := (inspectDocumentField_shown_at hpath).1
        rw [hsame, hpath]
        rfl

/-- A focus that moves keeps the draft and what is remembered of it; if it cannot move the editor is as it was. -/
theorem moveConfigField_cases (world : ConfigWorld) (controller : ConfigController) (offset : Int) :
    (∃ editor session field, controller.editor = some editor ∧ session.draft = editor.session.draft ∧
      ShownAt field session.fieldPath ∧
      controller.moveConfigField world offset = (.ok (), { controller with editor := some { editor with session, field } })) ∨
    ∃ e, controller.moveConfigField world offset = (.error e, controller) := by
  unfold ConfigController.moveConfigField
  cases hactive : controller.activeEditor with
  | error e => exact .inr ⟨e, rfl⟩
  | ok editor =>
    have heditor := activeEditor_ok hactive
    dsimp only
    cases hmove : editor.session.moveField world offset with
    | error e => exact .inr ⟨_, rfl⟩
    | ok session =>
      dsimp only
      cases hfield : session.field world with
      | ok field =>
        refine .inl ⟨editor, session, field, heditor, ?_, field_shown_at hfield, rfl⟩
        rcases moveField_field hmove with hsame | ⟨hdraft, _⟩
        · rw [hsame]
        · exact hdraft
      | error e =>
        rcases moveField_field hmove with hsame | ⟨_, field, hok⟩
        · refine .inr ⟨.configEditor e, ?_⟩
          rw [hsame, ← heditor]
        · rw [hfield] at hok
          cases hok

end Controller

/-! ## What happened to the draft -/

def notCommitted : DraftEvent → Bool
  | .committed _ => false
  | .started | .edited | .spoiled | .previewed _ => true

/-- The last that happened to a draft, but for the commits that were tried. -/
def lastChange (log : List DraftEvent) : Option DraftEvent := (log.filter notCommitted).getLast?

/-- Of every commit: the last that happened before is the preview of the draft that is committed. -/
def OnlyPreviewed (log : List DraftEvent) : Prop :=
  ∀ before draft after, log = before ++ .committed draft :: after → lastChange before = some (.previewed draft)

theorem lastChange_append (log : List DraftEvent) {event : DraftEvent} (h : notCommitted event = true) :
    lastChange (log ++ [event]) = some event := by
  unfold lastChange
  rw [List.filter_append, List.filter_cons_of_pos h, List.filter_nil, List.getLast?_concat]

theorem lastChange_committed (log : List DraftEvent) (draft : ConfigDraft) : lastChange (log ++ [.committed draft]) = lastChange log := by
  unfold lastChange
  rw [List.filter_append, List.filter_cons_of_neg (by simp [notCommitted]), List.filter_nil, List.append_nil]

theorem onlyPreviewed_nil : OnlyPreviewed [] := by
  intro before draft after h
  simp at h

theorem OnlyPreviewed.append {log : List DraftEvent} (h : OnlyPreviewed log) {event : DraftEvent}
    (hevent : ∀ draft, event = .committed draft → lastChange log = some (.previewed draft)) : OnlyPreviewed (log ++ [event]) := by
  intro before draft after heq
  rcases List.eq_nil_or_concat after with rfl | ⟨after, last, rfl⟩
  · obtain ⟨hlog, hlast⟩ := List.append_inj' heq rfl
    rw [← hlog]
    exact hevent draft (List.cons.inj hlast).1
  · rw [List.concat_eq_append, ← List.cons_append, ← List.append_assoc] at heq
    exact h before draft after (List.append_inj' heq rfl).1

/-! ## What is remembered -/

/-- The editor's draft is the one that was previewed, and nothing happened to it since. -/
def Fresh (controller : ConfigController) (log : List DraftEvent) : Prop :=
  ∃ draft, controller.draft = some draft ∧ lastChange log = some (.previewed draft)

/-- The focus is on a field that is typed into. -/
def ConfigController.textual (controller : ConfigController) : Bool :=
  controller.configEditorField.any fun field => (interaction field).isTextual

/-- A session whose editor's field is shown at its path, and in which what is remembered as previewed is so. -/
structure Remembers (terminal : ConfigTerminal) (log : List DraftEvent) : Prop where
  committed : OnlyPreviewed log
  shown : ∀ editor, terminal.controller.editor = some editor → ShownAt editor.field editor.session.fieldPath
  text : terminal.configText.isSome = terminal.controller.textual
  choice : terminal.validatedConfigChoice ≠ none → Fresh terminal.controller log ∧ terminal.controller.textual = false
  input : terminal.validatedConfigText ≠ none → Fresh terminal.controller log ∧ terminal.controller.textual = true ∧
    terminal.configText.any (·.pending) = false
  validated : ∀ editor, terminal.controller.editor = some editor → editor.dirty = true → editor.validated = true →
    Fresh terminal.controller log

section Steps

variable {world : ConfigWorld} {unicode : Unicode} {terminal : ConfigTerminal} {log : List DraftEvent}

/-- With no editor and nothing remembered. -/
theorem remembers_closed (h : OnlyPreviewed log) (confirming : Bool) :
    Remembers ⟨⟨.elsewhere, none⟩, none, none, none, confirming⟩ log where
  committed := h
  shown _ heditor := nomatch heditor
  text := rfl
  choice hchoice := absurd rfl hchoice
  input hinput := absurd rfl hinput
  validated _ heditor := nomatch heditor

theorem remembers_start : Remembers .start [] := remembers_closed onlyPreviewed_nil false

theorem textual_shown {controller : ConfigController} {editor : ActiveConfigEditor} {path : String} (heditor : controller.editor = some editor)
    (hshown : ShownAt editor.field path) : controller.textual = (interactionAt path).isTextual := by
  unfold ConfigController.textual ConfigController.configEditorField
  rw [heditor, Option.map_some, Option.any_some, hshown.kind]

/-- A change in a log in which no change was spoiled. -/
theorem changed_cases {controller : ConfigController} {changed : Except ConfigControllerError Unit × ConfigController}
    (h : Changed world controller changed) (hkept : .spoiled ∉ changeEvents controller changed) :
    (∃ editor session field, controller.editor = some editor ∧ session.fieldPath = editor.session.fieldPath ∧
      ShownAt field session.fieldPath ∧ changed = (.ok (), { controller with editor := some ⟨session, field, true, false⟩ }) ∧
      changeEvents controller changed = [.edited]) ∨
    ∃ e, changed = (.error e, controller) ∧ changeEvents controller changed = [] := by
  cases h with
  | edited editor session field hactive hpath hshown => exact .inl ⟨editor, session, field, hactive, hpath, field_shown_at hshown, rfl, rfl⟩
  | rejected e rest hrest =>
    by_cases hdraft : rest.draft = controller.draft
    · rw [hrest hdraft]
      exact .inr ⟨e, rfl, by simp [changeEvents]⟩
    · simp [changeEvents, hdraft] at hkept

/-- After a change that went through nothing is remembered. -/
theorem Remembers.edited (h : Remembers terminal log) {terminal' : ConfigTerminal} {editor : ActiveConfigEditor}
    {session : ConfigEditorSession} {field : ConfigFieldView} (heditor : terminal.controller.editor = some editor)
    (hpath : session.fieldPath = editor.session.fieldPath) (hshown : ShownAt field session.fieldPath)
    (hcontroller : terminal'.controller = { terminal.controller with editor := some ⟨session, field, true, false⟩ })
    (htext : terminal'.configText.isSome = terminal.controller.textual) (hchoice : terminal'.validatedConfigChoice = none)
    (hinput : terminal'.validatedConfigText = none) : Remembers terminal' (log ++ [.edited]) where
  committed := h.committed.append fun _ heq => nomatch heq
  shown editor' heditor' := by
    rw [hcontroller] at heditor'
    cases heditor'
    exact hshown
  text := by
    have hbefore := textual_shown heditor (h.shown _ heditor)
    have hafter : terminal'.controller.textual = (interactionAt session.fieldPath).isTextual :=
      textual_shown (show terminal'.controller.editor = some ⟨session, field, true, false⟩ by rw [hcontroller]) hshown
    rw [htext, hbefore, hafter, hpath]
  choice hne := absurd hchoice hne
  input hne := absurd hinput hne
  validated editor' heditor' _ hvalidated := by
    rw [hcontroller] at heditor'
    cases heditor'
    cases hvalidated

/-- After a preview the draft is the one that was previewed. -/
theorem Remembers.previewed (h : Remembers terminal log) {controller : ConfigController}
    (hpreview : terminal.controller.previewConfig world = .ok controller) :
    (∃ draft, draftEvents .previewed terminal.controller = [.previewed draft]) ∧ controller.draft = terminal.controller.draft ∧
      controller.textual = terminal.controller.textual ∧
      Fresh controller (log ++ draftEvents .previewed terminal.controller) ∧
      ∀ editor, controller.editor = some editor → ShownAt editor.field editor.session.fieldPath := by
  obtain ⟨editor, field, dirty, heditor, hshown, rfl⟩ := previewConfig_ok hpreview
  have hdraft : terminal.controller.draft = some editor.session.draft := by
    unfold ConfigController.draft
    rw [heditor]
    rfl
  have hevents : draftEvents .previewed terminal.controller = [.previewed editor.session.draft] := by
    unfold draftEvents
    rw [hdraft]
    rfl
  refine ⟨⟨_, hevents⟩, hdraft.symm, ?_, ⟨editor.session.draft, rfl, ?_⟩, ?_⟩
  · rw [textual_shown heditor (h.shown _ heditor)]
    exact textual_shown rfl hshown
  · rw [hevents]
    exact lastChange_append log rfl
  · intro editor' heditor'
    cases heditor'
    exact hshown

/-- After a preview anything may be remembered of a field that it can be remembered of. -/
theorem Remembers.preview (h : Remembers terminal log) {terminal' : ConfigTerminal}
    (hpreview : terminal.controller.previewConfig world = .ok terminal'.controller) (htext : terminal'.configText = terminal.configText)
    (hchoice : terminal'.validatedConfigChoice ≠ none → terminal.controller.textual = false)
    (hinput : terminal'.validatedConfigText ≠ none → terminal.controller.textual = true ∧
      terminal.configText.any (·.pending) = false) :
    Remembers terminal' (log ++ draftEvents .previewed terminal.controller) := by
  obtain ⟨⟨draft, hevents⟩, _, hkind, hfresh, hshown⟩ := h.previewed hpreview
  refine ⟨?_, hshown, by rw [htext, hkind, h.text], fun hne => ⟨hfresh, by rw [hkind, hchoice hne]⟩, fun hne => ?_, fun _ _ _ _ => hfresh⟩
  · rw [hevents]
    exact h.committed.append fun _ heq => nomatch heq
  · rw [hkind, htext]
    exact ⟨hfresh, hinput hne⟩

/-- A draft that is the previewed one may be committed. -/
theorem Remembers.commit (h : Remembers terminal log) (hfresh : Fresh terminal.controller log) :
    Remembers terminal (log ++ draftEvents .committed terminal.controller) := by
  obtain ⟨draft, hdraft, hlast⟩ := hfresh
  have hevents : draftEvents .committed terminal.controller = [.committed draft] := by
    unfold draftEvents
    rw [hdraft]
    rfl
  rw [hevents]
  have hkeeps : ∀ controller, Fresh controller log → Fresh controller (log ++ [.committed draft]) := by
    intro controller ⟨other, hother, hlog⟩
    exact ⟨other, hother, by rw [lastChange_committed, hlog]⟩
  refine ⟨h.committed.append ?_, h.shown, h.text, ?_, ?_, ?_⟩
  · intro draft' heq
    cases heq
    exact hlast
  · intro hne
    exact ⟨hkeeps _ (h.choice hne).1, (h.choice hne).2⟩
  · intro hne
    exact ⟨hkeeps _ (h.input hne).1, (h.input hne).2⟩
  · intro editor heditor hdirty hvalidated
    exact hkeeps _ (h.validated editor heditor hdirty hvalidated)

/-! ## Steps -/

theorem remembers_changeText (h : Remembers terminal log) {changed : Except ConfigControllerError Unit × ConfigController}
    (hchanged : Changed world terminal.controller changed) (htextual : terminal.controller.textual = true) (input : ConfigTextInput)
    (hkept : .spoiled ∉ (terminal.changeText changed input).2) :
    Remembers (terminal.changeText changed input).1 (log ++ (terminal.changeText changed input).2) := by
  unfold ConfigTerminal.changeText at hkept ⊢
  dsimp only at hkept ⊢
  rcases changed_cases hchanged hkept with ⟨editor, session, field, heditor, hpath, hshown, rfl, hevents⟩ | ⟨e, rfl, hevents⟩
  · rw [hevents]
    refine h.edited heditor hpath hshown rfl htextual.symm ?_ rfl
    -- A choice is not remembered in a field that is typed into.
    by_contra hne
    rw [(h.choice hne).2] at htextual
    cases htextual
  · rw [hevents, List.append_nil]
    exact h

theorem textual_limit {maxBytes : Nat} (h : terminal.configTextLimit = some maxBytes) : terminal.controller.textual = true := by
  unfold ConfigTerminal.configTextLimit at h
  unfold ConfigController.textual
  obtain ⟨field, hfield, hlimit⟩ := Option.bind_eq_some_iff.mp h
  rw [hfield, Option.any_some]
  cases hinteraction : interaction field with
  | readOnly | choice =>
    rw [hinteraction] at hlimit
    cases hlimit
  | text | credentialReference => rfl

theorem not_textual_choices {choices : List String} (h : terminal.configChoices = some choices) : terminal.controller.textual = false := by
  unfold ConfigTerminal.configChoices at h
  unfold ConfigController.textual
  obtain ⟨field, hfield, hchoices⟩ := Option.bind_eq_some_iff.mp h
  rw [hfield, Option.any_some]
  cases hinteraction : interaction field with
  | readOnly | choice => rfl
  | text | credentialReference =>
    rw [hinteraction] at hchoices
    cases hchoices

theorem remembers_resetConfigText (h : Remembers terminal log) (htextual : terminal.controller.textual = true)
    (hkept : .spoiled ∉ (terminal.resetConfigText world).2) :
    Remembers (terminal.resetConfigText world).1 (log ++ (terminal.resetConfigText world).2) := by
  unfold ConfigTerminal.resetConfigText at hkept ⊢
  refine remembers_changeText h (?_ : Changed world _ _) htextual _ hkept
  by_cases hreference : terminal.onCredentialReference = true
  · rw [if_pos hreference]
    exact resetReference_changed
  · rw [if_neg hreference]
    exact resetConfig_changed

theorem remembers_inputConfigText (h : Remembers terminal log) (htextual : terminal.controller.textual = true) (next : String)
    (hkept : .spoiled ∉ (terminal.inputConfigText world next).2) :
    Remembers (terminal.inputConfigText world next).1 (log ++ (terminal.inputConfigText world next).2) := by
  unfold ConfigTerminal.inputConfigText at hkept ⊢
  by_cases hdeferred : terminal.configTextRequiresDeferredStage = true
  · rw [if_pos hdeferred, List.append_nil]
    exact ⟨h.committed, h.shown, htextual.symm, h.choice, fun hne => absurd rfl hne, h.validated⟩
  · rw [if_neg hdeferred] at hkept ⊢
    unfold ConfigTerminal.stageConfigText at hkept ⊢
    refine remembers_changeText h (?_ : Changed world _ _) htextual _ hkept
    by_cases hreference : terminal.onCredentialReference = true
    · rw [if_pos hreference]
      exact stageReference_changed next
    · rw [if_neg hreference]
      exact stageConfig_changed next

theorem remembers_editConfigText (h : Remembers terminal log) (character : Option Char)
    (hkept : .spoiled ∉ (terminal.editConfigText world unicode character).2) :
    Remembers (terminal.editConfigText world unicode character).1 (log ++ (terminal.editConfigText world unicode character).2) := by
  have hsame : Remembers terminal (log ++ []) := by
    rw [List.append_nil]
    exact h
  unfold ConfigTerminal.editConfigText at hkept ⊢
  cases htext : terminal.configText with
  | none => exact hsame
  | some current =>
    cases hlimit : terminal.configTextLimit with
    | none => exact hsame
    | some maxBytes =>
      have htextual := textual_limit hlimit
      rw [htext, hlimit] at hkept
      dsimp only at hkept ⊢
      generalize (if current.replaceOnEdit then "" else current.value) = value at hkept ⊢
      cases character with
      | some character =>
        dsimp only at hkept ⊢
        by_cases hrefused : isControl character = true ∨ maxBytes < byteLen value + character.utf8Size
        · rw [if_pos hrefused]
          exact hsame
        · rw [if_neg hrefused] at hkept ⊢
          exact remembers_inputConfigText h htextual _ hkept
      | none =>
        dsimp only at hkept ⊢
        by_cases hreplace : current.replaceOnEdit = true
        · rw [if_pos hreplace] at hkept ⊢
          exact remembers_resetConfigText h htextual hkept
        · rw [if_neg hreplace] at hkept ⊢
          by_cases hempty : concat (unicode.graphemes value).dropLast = ""
          · rw [if_pos hempty] at hkept ⊢
            exact remembers_resetConfigText h htextual hkept
          · rw [if_neg hempty] at hkept ⊢
            exact remembers_inputConfigText h htextual _ hkept

/-- The input that is staged late is staged as any other, and then it is not pending any more. -/
theorem remembers_flushConfigText (world : ConfigWorld) (h : Remembers terminal log) (hkept : .spoiled ∉ (terminal.flushConfigText world).2.2) :
    Remembers (terminal.flushConfigText world).2.1 (log ++ (terminal.flushConfigText world).2.2) ∧
      (terminal.flushConfigText world).2.1.controller.textual = terminal.controller.textual ∧
      ((terminal.flushConfigText world).1 = true → (terminal.flushConfigText world).2.1.configText.any (·.pending) = false) := by
  unfold ConfigTerminal.flushConfigText at hkept ⊢
  cases hpending : terminal.configText.filter (·.pending) with
  | none =>
    dsimp only
    rw [List.append_nil]
    refine ⟨h, rfl, fun _ => ?_⟩
    rw [Option.filter_eq_none_iff] at hpending
    cases htext : terminal.configText with
    | none => rfl
    | some input => simpa using hpending input htext
  | some input =>
    obtain ⟨htext, hinput⟩ := Option.filter_eq_some_iff.mp hpending
    have htextual : terminal.controller.textual = true := by
      rw [← h.text, htext]
      rfl
    rw [hpending] at hkept
    dsimp only at hkept ⊢
    have hkept : .spoiled ∉ changeEvents terminal.controller (terminal.controller.stageConfig world input.value) := by
      cases hresult : (terminal.controller.stageConfig world input.value).1 <;>
        · rw [hresult] at hkept
          exact hkept
    rcases changed_cases (stageConfig_changed input.value) hkept with
      ⟨editor, session, field, heditor, hpath, hshown, hchanged, hlog⟩ | ⟨e, hchanged, hlog⟩
    · rw [hlog, hchanged]
      have hafter : ∀ controller : ConfigController, controller.editor = some ⟨session, field, true, false⟩ →
          controller.textual = terminal.controller.textual := by
        intro controller hcontroller
        rw [textual_shown hcontroller hshown, textual_shown heditor (h.shown _ heditor), hpath]
      refine ⟨h.edited heditor hpath hshown rfl ?_ ?_ ?_, hafter _ rfl, fun _ => by rw [htext]; rfl⟩
      · rw [← h.text]
        exact Option.isSome_map ..
      · by_contra hne
        rw [(h.choice hne).2] at htextual
        cases htextual
      · by_contra hne
        have hnot := (h.input hne).2.2
        rw [htext, Option.any_some] at hnot
        rw [hnot] at hinput
        cases hinput
    · rw [hlog, hchanged, List.append_nil]
      exact ⟨h, rfl, fun hstaged => nomatch hstaged⟩

/-- A text that is submitted is previewed, and committed if it was the one that was previewed. -/
theorem remembers_submitConfigText (h : Remembers terminal log) (htextual : terminal.controller.textual = true)
    (hkept : .spoiled ∉ (terminal.submitConfigText world).2) :
    Remembers (terminal.submitConfigText world).1 (log ++ (terminal.submitConfigText world).2) := by
  unfold ConfigTerminal.submitConfigText at hkept ⊢
  have hflush := remembers_flushConfigText world h
  generalize terminal.flushConfigText world = flushed at hkept hflush ⊢
  obtain ⟨staged, flushed, events⟩ := flushed
  cases staged with
  | false => exact (hflush hkept).1
  | true =>
    dsimp only at hkept hflush ⊢
    have hkept : .spoiled ∉ events := by
      intro hmem
      refine hkept ?_
      (repeat' split) <;> simp [hmem]
    obtain ⟨hflushed, hsame, hstaged⟩ := hflush hkept
    have hstaged := hstaged rfl
    rw [htextual] at hsame
    by_cases hunsaved : flushed.controller.hasUnsavedConfigDraft = false
    · rw [if_pos hunsaved]
      exact hflushed
    rw [if_neg hunsaved]
    by_cases hchanged : flushed.configText.map (·.value) ≠ flushed.validatedConfigText
    · rw [if_pos hchanged]
      cases hpreview : flushed.controller.previewConfig world with
      | error e =>
        exact ⟨hflushed.committed, hflushed.shown, hflushed.text, hflushed.choice, fun hne => absurd rfl hne, hflushed.validated⟩
      | ok controller =>
        dsimp only
        rw [← List.append_assoc]
        refine hflushed.preview hpreview rfl (fun hne => ?_) fun _ => ⟨hsame, hstaged⟩
        exact (hflushed.choice hne).2
    · rw [if_neg hchanged]
      -- The text is there, so what is remembered is a text, and it is remembered as previewed.
      have hremembered : flushed.validatedConfigText ≠ none := by
        have htext := hflushed.text
        rw [hsame] at htext
        obtain ⟨input, hinput⟩ := Option.isSome_iff_exists.mp htext
        rw [← not_not.mp hchanged, hinput]
        exact Option.some_ne_none _
      have hcommitted := hflushed.commit (hflushed.input hremembered).1
      rw [List.append_assoc] at hcommitted
      cases hcommit : flushed.controller.commitConfig world with
      | error e => exact hcommitted
      | ok controller =>
        dsimp only
        rw [commitConfig_ok hcommit]
        have hchoice : flushed.validatedConfigChoice = none := by
          by_contra hne
          rw [(hflushed.choice hne).2] at hsame
          cases hsame
        unfold ConfigTerminal.clearConfigText
        rw [hchoice]
        exact remembers_closed hcommitted.committed false

theorem remembers_moveConfigChoice (h : Remembers terminal log) (offset : Int)
    (hkept : .spoiled ∉ (terminal.moveConfigChoice world offset).2) :
    Remembers (terminal.moveConfigChoice world offset).1 (log ++ (terminal.moveConfigChoice world offset).2) := by
  have hforgotten : Remembers { terminal with validatedConfigChoice := none } (log ++ []) := by
    rw [List.append_nil]
    exact ⟨h.committed, h.shown, h.text, fun hne => absurd rfl hne, h.input, h.validated⟩
  unfold ConfigTerminal.moveConfigChoice at hkept ⊢
  cases hchoices : terminal.configChoices with
  | none => exact hforgotten
  | some choices =>
    have htextual := not_textual_choices hchoices
    rw [hchoices] at hkept
    dsimp only at hkept ⊢
    split at hkept
    · exact hforgotten
    · rename_i choice _
      dsimp only at hkept ⊢
      rcases changed_cases (stageConfig_changed choice) hkept with
        ⟨editor, session, field, heditor, hpath, hshown, hchanged, hlog⟩ | ⟨e, hchanged, hlog⟩
      · rw [hlog, hchanged]
        refine h.edited heditor hpath hshown rfl h.text rfl ?_
        by_contra hne
        rw [(h.input hne).2.1] at htextual
        cases htextual
      · rw [hlog, hchanged, List.append_nil]
        exact h

/-- The text follows the field, whatever was typed before. -/
theorem syncConfigText_synced (terminal : ConfigTerminal)
    (hshown : ∀ editor, terminal.controller.editor = some editor → ShownAt editor.field editor.session.fieldPath) :
    terminal.syncConfigText.controller = terminal.controller ∧
      terminal.syncConfigText.validatedConfigChoice = terminal.validatedConfigChoice ∧
      terminal.syncConfigText.validatedConfigText = none ∧
      terminal.syncConfigText.configText.isSome = terminal.controller.textual ∧
      terminal.syncConfigText.configText.any (·.pending) = false ∧ terminal.syncConfigText.confirmingDiscard = false := by
  unfold ConfigTerminal.syncConfigText ConfigController.textual
  cases hfield : terminal.controller.configEditorField with
  | none => exact ⟨rfl, rfl, rfl, rfl, rfl, rfl⟩
  | some field =>
    rw [Option.any_some]
    dsimp only
    cases hinteraction : interaction field with
    | readOnly | choice | credentialReference => exact ⟨rfl, rfl, rfl, rfl, rfl, rfl⟩
    | text maxBytes =>
      obtain ⟨editor, heditor, hsame⟩ := Option.map_eq_some_iff.mp hfield
      have hvalue := (hshown editor heditor).value maxBytes (by rw [hsame, hinteraction])
      rw [hsame] at hvalue
      unfold isBinding at hvalue
      cases hcontents : field.contents with
      | credentialBinding =>
        rw [hcontents] at hvalue
        cases hvalue
      | value => exact ⟨rfl, rfl, rfl, rfl, rfl, rfl⟩

theorem remembers_syncConfigText (hcommitted : OnlyPreviewed log)
    (hshown : ∀ editor, terminal.controller.editor = some editor → ShownAt editor.field editor.session.fieldPath)
    (hchoice : terminal.validatedConfigChoice = none)
    (hvalidated : ∀ editor, terminal.controller.editor = some editor → editor.dirty = true → editor.validated = true →
      Fresh terminal.controller log) : Remembers terminal.syncConfigText log := by
  obtain ⟨hcontroller, hkeeps, hinput, htext, _⟩ := syncConfigText_synced terminal hshown
  refine ⟨hcommitted, ?_, ?_, fun hne => absurd (hkeeps.trans hchoice) hne, fun hne => absurd hinput hne, ?_⟩
  · rw [hcontroller]
    exact hshown
  · rw [hcontroller]
    exact htext
  · rw [hcontroller]
    exact hvalidated

theorem remembers_moveConfigField (h : Remembers terminal log) {offset : Int} {terminal' : ConfigTerminal} {events : List DraftEvent}
    (hstep : terminal.handle world unicode (.moveConfigField offset) = .ok (terminal', events)) (hkept : .spoiled ∉ events) :
    Remembers terminal' (log ++ events) := by
  unfold ConfigTerminal.handle at hstep
  have hflush := remembers_flushConfigText world h
  generalize terminal.flushConfigText world = flushed at hstep hflush
  obtain ⟨staged, flushed, before⟩ := flushed
  dsimp only at hstep hflush
  cases staged with
  | false =>
    cases hstep
    exact (hflush hkept).1
  | true =>
    dsimp only at hstep
    rcases moveConfigField_cases world flushed.controller offset with
      ⟨editor, session, field, heditor, hdraft, hshown, hmoved⟩ | ⟨e, hmoved⟩
    · rw [hmoved] at hstep
      cases hstep
      have hflushed := (hflush hkept).1
      refine remembers_syncConfigText hflushed.committed ?_ rfl ?_
      · intro editor' heditor'
        cases heditor'
        exact hshown
      · intro editor' heditor' hdirty hvalidated
        cases heditor'
        obtain ⟨draft, hfresh, hlast⟩ := hflushed.validated editor heditor hdirty hvalidated
        unfold ConfigController.draft at hfresh
        rw [heditor] at hfresh
        refine ⟨draft, ?_, hlast⟩
        unfold ConfigController.draft
        rw [← hfresh]
        exact congrArg some hdraft
    · rw [hmoved] at hstep
      cases hstep
      exact (hflush hkept).1

theorem remembers_previewConfig (h : Remembers terminal log) {terminal' : ConfigTerminal} {events : List DraftEvent}
    (hstep : terminal.handle world unicode .previewConfig = .ok (terminal', events)) : Remembers terminal' (log ++ events) := by
  unfold ConfigTerminal.handle at hstep
  dsimp only at hstep
  cases hpreview : terminal.controller.previewConfig world with
  | error e =>
    rw [hpreview] at hstep
    cases hstep
    rw [List.append_nil]
    exact ⟨h.committed, h.shown, h.text, fun hne => absurd rfl hne, h.input, h.validated⟩
  | ok controller =>
    rw [hpreview] at hstep
    cases hstep
    refine h.preview hpreview rfl (fun hne => ?_) fun hne => (h.input hne).2
    -- What is remembered is a choice, so the field has choices.
    obtain ⟨choice, hchoice⟩ := Option.ne_none_iff_exists'.mp hne
    unfold ConfigTerminal.configChoice at hchoice
    obtain ⟨_, _, hchoice⟩ := Option.bind_eq_some_iff.mp hchoice
    obtain ⟨choices, hchoices, _⟩ := Option.bind_eq_some_iff.mp hchoice
    exact not_textual_choices hchoices

/-- A commit by `c` is of a field that has a choice, or of a draft that was previewed last. -/
def Confirmable (terminal : ConfigTerminal) (event : ConfigEvent) : Prop :=
  terminal.intent event = .commitConfig → terminal.configChoice ≠ none ∨ terminal.controller.editor.any (·.validated) = true

theorem remembers_commitConfig (h : Remembers terminal log) (htextual : terminal.controller.textual = false)
    (hconfirm : terminal.configChoice ≠ none ∨ terminal.controller.editor.any (·.validated) = true)
    {terminal' : ConfigTerminal} {events : List DraftEvent}
    (hstep : terminal.handle world unicode .commitConfig = .ok (terminal', events)) : Remembers terminal' (log ++ events) := by
  have hsame : Remembers terminal (log ++ []) := by
    rw [List.append_nil]
    exact h
  unfold ConfigTerminal.handle at hstep
  dsimp only at hstep
  by_cases hunsaved : terminal.controller.hasUnsavedConfigDraft = false
  · rw [if_pos hunsaved] at hstep
    cases hstep
    exact hsame
  rw [if_neg hunsaved] at hstep
  by_cases hchanged : terminal.configChoice ≠ terminal.validatedConfigChoice
  · rw [if_pos hchanged] at hstep
    cases hstep
    exact hsame
  rw [if_neg hchanged] at hstep
  have hfresh : Fresh terminal.controller log := by
    rcases hconfirm with hchoice | hvalidated
    · rw [not_not.mp hchanged] at hchoice
      exact (h.choice hchoice).1
    · unfold ConfigController.hasUnsavedConfigDraft at hunsaved
      cases heditor : terminal.controller.editor with
      | none =>
        rw [heditor] at hvalidated
        cases hvalidated
      | some editor =>
        rw [heditor] at hvalidated hunsaved
        exact h.validated editor heditor (by simpa using hunsaved) hvalidated
  have hcommitted := h.commit hfresh
  cases hcommit : terminal.controller.commitConfig world with
  | error e =>
    rw [hcommit] at hstep
    cases hstep
    exact hcommitted
  | ok controller =>
    rw [hcommit, commitConfig_ok hcommit] at hstep
    cases hstep
    have htext : terminal.configText = none := by
      have htext := h.text
      rw [htextual] at htext
      exact Option.not_isSome_iff_eq_none.mp (by simp [htext])
    have hinput : terminal.validatedConfigText = none := by
      by_contra hne
      rw [(h.input hne).2.1] at htextual
      cases htextual
    rw [htext, hinput]
    exact remembers_closed hcommitted.committed _

/-- The deletion of an object is previewed and committed at once. -/
theorem remembers_confirmConfigDelete (h : Remembers terminal log) {terminal' : ConfigTerminal} {events : List DraftEvent}
    (hstep : terminal.handle world unicode .confirmConfigDelete = .ok (terminal', events)) : Remembers terminal' (log ++ events) := by
  have hsame : Remembers terminal (log ++ []) := by
    rw [List.append_nil]
    exact h
  unfold ConfigTerminal.handle at hstep
  dsimp only at hstep
  by_cases hdelete : terminal.controller.isConfigObjectDelete = false
  · rw [if_pos hdelete] at hstep
    cases hstep
    exact hsame
  rw [if_neg hdelete] at hstep
  cases hpreview : terminal.controller.previewConfig world with
  | error e =>
    rw [hpreview] at hstep
    cases hstep
    exact hsame
  | ok controller =>
    rw [hpreview] at hstep
    dsimp only at hstep
    have hpreviewed : Remembers { terminal with controller } (log ++ draftEvents .previewed terminal.controller) :=
      h.preview hpreview rfl (fun hne => (h.choice hne).2) fun hne => (h.input hne).2
    have hcommitted := hpreviewed.commit (h.previewed hpreview).2.2.2.1
    rw [List.append_assoc] at hcommitted
    cases hcommit : controller.commitConfig world with
    | error e =>
      rw [hcommit] at hstep
      cases hstep
      exact hcommitted
    | ok closed =>
      rw [hcommit] at hstep
      cases hstep
      rw [commitConfig_ok hcommit]
      exact remembers_closed hcommitted.committed false

/-! ## Runs -/

/-- The context of a key follows the kind of the field. -/
theorem inputContext_kind :
    (terminal.inputContext = .configText ∨ terminal.inputContext = .configCredentialReference → terminal.controller.textual = true) ∧
    (terminal.inputContext = .configChoice → terminal.controller.textual = false) := by
  unfold ConfigTerminal.inputContext ConfigController.textual
  by_cases hconfirming : terminal.confirmingDiscard = true
  · simp [hconfirming]
  by_cases helsewhere : terminal.controller.state = .elsewhere
  · simp [hconfirming, helsewhere]
  by_cases hdelete : terminal.controller.isConfigObjectDelete = true
  · simp [hconfirming, helsewhere, hdelete]
  rw [if_neg hconfirming, if_neg helsewhere, if_neg hdelete]
  cases terminal.controller.configEditorField with
  | none => simp
  | some field =>
    rw [Option.any_some]
    dsimp only
    cases interaction field <;> simp [ConfigFieldInteraction.isTextual]

theorem submitted_context {key : ConfigKey} {context : ConfigContext}
    (h : configIntent key context = .clearConfigText ∨ configIntent key context = .submitConfigText) :
    context = .configText ∨ context = .configCredentialReference := by
  unfold configIntent at h
  cases context with
  | configText => exact .inl rfl
  | configCredentialReference => exact .inr rfl
  | configChoice =>
    cases key with
    | character character => by_cases hcommit : character = 'c' <;> by_cases hdiscard : character = 'd' <;> simp [hcommit, hdiscard] at h
    | _ => rcases h with h | h <;> cases h
  | _ => cases key <;> rcases h with h | h <;> cases h

theorem committed_context {key : ConfigKey} {context : ConfigContext} (h : configIntent key context = .commitConfig) :
    context = .configChoice := by
  unfold configIntent at h
  cases context with
  | configChoice => rfl
  | configText | configCredentialReference =>
    cases key with
    | character character => by_cases hcontrol : isControl character = true <;> simp [hcontrol] at h
    | _ => cases h
  | _ => cases key <;> cases h

/-- What is kept by a step that always has a result. -/
theorem remembers_result {result : ConfigTerminal × List DraftEvent} {terminal' : ConfigTerminal} {events : List DraftEvent}
    (h : .spoiled ∉ result.2 → Remembers result.1 (log ++ result.2))
    (hresult : (.ok result : Except ConfigControllerError _) = .ok (terminal', events)) (hkept : .spoiled ∉ events) :
    Remembers terminal' (log ++ events) := by
  cases hresult
  exact h hkept

/-- Each key keeps what is remembered, one case an intent. -/
theorem remembers_handle (h : Remembers terminal log) {key : ConfigKey} (hconfirm : Confirmable terminal (.key key))
    {terminal' : ConfigTerminal} {events : List DraftEvent}
    (hstep : terminal.handle world unicode (terminal.intent (.key key)) = .ok (terminal', events)) (hkept : .spoiled ∉ events) :
    Remembers terminal' (log ++ events) := by
  have hsame : Remembers terminal (log ++ []) := by
    rw [List.append_nil]
    exact h
  have hkind := @inputContext_kind terminal
  unfold Confirmable at hconfirm
  unfold ConfigTerminal.intent at hstep hconfirm
  dsimp only at hstep hconfirm
  cases hintent : configIntent key terminal.inputContext with
  | moveConfigField offset =>
    rw [hintent] at hstep
    exact remembers_moveConfigField h hstep hkept
  | moveConfigChoice offset =>
    rw [hintent] at hstep
    exact remembers_result (remembers_moveConfigChoice h offset) hstep hkept
  | previewConfig =>
    rw [hintent] at hstep
    exact remembers_previewConfig h hstep
  | commitConfig =>
    rw [hintent] at hstep
    exact remembers_commitConfig h (hkind.2 (committed_context hintent)) (hconfirm hintent) hstep
  | discardConfig =>
    rw [hintent] at hstep
    unfold ConfigTerminal.handle at hstep
    obtain ⟨controller, hdiscard, hstep⟩ := bind_ok.mp hstep
    cases hstep
    rw [discardConfig_ok hdiscard, List.append_nil]
    exact remembers_closed h.committed false
  | editConfigText character =>
    rw [hintent] at hstep
    exact remembers_result (remembers_editConfigText h (some character)) hstep hkept
  | backspaceConfigText =>
    rw [hintent] at hstep
    exact remembers_result (remembers_editConfigText h none) hstep hkept
  | clearConfigText =>
    rw [hintent] at hstep
    exact remembers_result (remembers_resetConfigText h (hkind.1 (submitted_context (.inl hintent)))) hstep hkept
  | submitConfigText =>
    rw [hintent] at hstep
    exact remembers_result (remembers_submitConfigText h (hkind.1 (submitted_context (.inr hintent)))) hstep hkept
  | cancelDiscard =>
    rw [hintent] at hstep
    cases hstep
    exact ⟨hsame.committed, hsame.shown, hsame.text, hsame.choice, hsame.input, hsame.validated⟩
  | confirmConfigDelete =>
    rw [hintent] at hstep
    exact remembers_confirmConfigDelete h hstep
  | back =>
    rw [hintent] at hstep
    unfold ConfigTerminal.handle at hstep
    dsimp only at hstep
    by_cases hunsaved : terminal.configText.isSome = true ∧ terminal.hasUnsavedConfigInput = true
    · rw [if_pos hunsaved] at hstep
      cases hstep
      exact ⟨hsame.committed, hsame.shown, hsame.text, hsame.choice, hsame.input, hsame.validated⟩
    rw [if_neg hunsaved] at hstep
    cases hback : terminal.controller.back with
    | ok controller =>
      rw [hback] at hstep
      cases hstep
      rw [back_ok hback, List.append_nil]
      exact remembers_closed h.committed false
    | error e =>
      rw [hback] at hstep
      cases e <;> cases hstep
      exact hsame
  | none =>
    rw [hintent] at hstep
    cases hstep
    exact hsame

/-- An editor opens at a field that was looked at, with changes to lose or with a preview of none. -/
theorem openEditor_ok {session : ConfigEditorSession} {opening : Opening} {controller : ConfigController}
    (h : ConfigController.openEditor world session opening = .ok controller) :
    ∃ field dirty validated, ShownAt field session.fieldPath ∧ controller.editor = some ⟨session, field, dirty, validated⟩ ∧
      ¬ (dirty = true ∧ validated = true) := by
  unfold ConfigController.openEditor at h
  cases opening with
  | edited =>
    obtain ⟨field, hfield, h⟩ := bind_ok.mp h
    cases h
    have hpreview := mapError_ok.mp hfield
    cases hresult : session.preview world with
    | error e =>
      rw [hresult] at hpreview
      cases hpreview
    | ok previewed =>
      rw [hresult] at hpreview
      cases hpreview
      unfold ConfigEditorSession.preview at hresult
      obtain ⟨_, _, hresult⟩ := bind_ok.mp hresult
      obtain ⟨shown, hshown, hresult⟩ := bind_ok.mp hresult
      cases hresult
      exact ⟨shown, _, _, field_shown_at hshown, rfl, by simp⟩
  | created | deletion =>
    obtain ⟨field, hfield, h⟩ := bind_ok.mp h
    cases h
    exact ⟨field, _, _, field_shown_at (mapError_ok.mp hfield), rfl, by simp⟩

theorem remembers_configStep {state state' : ConfigTerminal × List DraftEvent} {event : ConfigWorld × ConfigEvent}
    (h : Remembers state.1 state.2) (hconfirm : Confirmable state.1 event.2) (hstep : configStep unicode state event = .ok state')
    (hkept : .spoiled ∉ state'.2) : Remembers state'.1 state'.2 := by
  obtain ⟨world, event⟩ := event
  unfold configStep at hstep
  cases event with
  | key key =>
    obtain ⟨⟨terminal, events⟩, hhandle, hstep⟩ := bind_ok.mp hstep
    cases hstep
    exact remembers_handle h hconfirm hhandle fun hmem => hkept (List.mem_append_right _ hmem)
  | opened session opening =>
    dsimp only at hstep
    by_cases hstate : state.1.controller.state ≠ .elsewhere
    · rw [if_pos hstate] at hstep
      cases hstep
      exact h
    rw [if_neg hstate] at hstep
    cases hopen : ConfigController.openEditor world session opening with
    | error e =>
      rw [hopen] at hstep
      cases hstep
      exact h
    | ok controller =>
      rw [hopen] at hstep
      cases hstep
      obtain ⟨field, dirty, validated, hshown, heditor, hclean⟩ := openEditor_ok hopen
      refine remembers_syncConfigText (h.committed.append fun _ heq => nomatch heq) ?_ rfl ?_
      · intro editor heq
        rw [heditor] at heq
        cases heq
        exact hshown
      · intro editor heq hdirty hvalidated
        rw [heditor] at heq
        cases heq
        exact absurd ⟨hdirty, hvalidated⟩ hclean

/-- A log only grows. -/
theorem configStep_log {state state' : ConfigTerminal × List DraftEvent} {event : ConfigWorld × ConfigEvent}
    (hstep : configStep unicode state event = .ok state') : ∃ events, state'.2 = state.2 ++ events := by
  obtain ⟨world, event⟩ := event
  unfold configStep at hstep
  cases event with
  | key key =>
    obtain ⟨⟨terminal, events⟩, _, hstep⟩ := bind_ok.mp hstep
    cases hstep
    exact ⟨events, rfl⟩
  | opened session opening =>
    dsimp only at hstep
    by_cases hstate : state.1.controller.state ≠ .elsewhere
    · rw [if_pos hstate] at hstep
      cases hstep
      exact ⟨[], (List.append_nil _).symm⟩
    rw [if_neg hstate] at hstep
    split at hstep <;> cases hstep
    · exact ⟨[], (List.append_nil _).symm⟩
    · exact ⟨_, rfl⟩

theorem configRun_append (events : List (ConfigWorld × ConfigEvent)) (event : ConfigWorld × ConfigEvent) :
    configRun unicode (events ++ [event]) = configRun unicode events >>= fun state => configStep unicode state event := by
  unfold configRun
  rw [List.foldlM_append]
  simp

/-- Every commit of the run that is asked for with `c` is guarded. -/
def ConfirmableRun (unicode : Unicode) (events : List (ConfigWorld × ConfigEvent)) : Prop :=
  ∀ before event after state, events = before ++ event :: after → configRun unicode before = .ok state → Confirmable state.1 event.2

theorem remembers_configRun (events : List (ConfigWorld × ConfigEvent)) : ∀ {state : ConfigTerminal × List DraftEvent},
    ConfirmableRun unicode events → configRun unicode events = .ok state → .spoiled ∉ state.2 → Remembers state.1 state.2 := by
  induction events using List.reverseRecOn with
  | nil =>
    intro state _ hrun _
    cases hrun
    exact remembers_start
  | append_singleton events event ih =>
    intro state hconfirm hrun hkept
    rw [configRun_append] at hrun
    obtain ⟨before, hbefore, hstep⟩ := bind_ok.mp hrun
    obtain ⟨added, hlog⟩ := configStep_log hstep
    have hbeforeKept : .spoiled ∉ before.2 := by
      intro hmem
      exact hkept (hlog ▸ List.mem_append_left _ hmem)
    have hconfirmBefore : ConfirmableRun unicode events := by
      intro first other after found heq hfound
      exact hconfirm first other (after ++ [event]) found (by rw [heq]; simp) hfound
    have hremembers := ih hconfirmBefore hbefore hbeforeKept
    exact remembers_configStep hremembers (hconfirm events event [] before rfl hbefore) hstep hkept

/-- In every run of keys over editors opened at any fields, with the runtime, the files and the system changing between the
    keys: a draft that is committed was previewed, and nothing happened to it since. -/
theorem committed_previewed (unicode : Unicode) (events : List (ConfigWorld × ConfigEvent)) (terminal : ConfigTerminal)
    (log : List DraftEvent) (hconfirm : ConfirmableRun unicode events) (hrun : configRun unicode events = .ok (terminal, log))
    (hkept : .spoiled ∉ log) : OnlyPreviewed log :=
  (remembers_configRun events hconfirm hrun hkept).committed

end Steps

/-- A commit by any other key than `c` is guarded. -/
theorem confirmable_other (terminal : ConfigTerminal) {event : ConfigEvent} (h : event ≠ .key (.character 'c')) : Confirmable terminal event := by
  intro hintent
  cases event with
  | opened => cases hintent
  | key key =>
    have hchoice : configIntent key .configChoice = .commitConfig := committed_context hintent ▸ hintent
    unfold configIntent at hchoice
    cases key with
    | character character =>
      have hother : character ≠ 'c' := by
        intro hcommit
        exact h (hcommit ▸ rfl)
      by_cases hdiscard : character = 'd' <;> simp [hother, hdiscard] at hchoice
    | _ => cases hchoice

section Submitted

variable {world : ConfigWorld} {terminal : ConfigTerminal} {input : ConfigTextInput} {controller : ConfigController}

theorem flushConfigText_staged (htext : terminal.configText = some input) (hstaged : input.pending = false) :
    terminal.flushConfigText world = (true, terminal, []) := by
  unfold ConfigTerminal.flushConfigText
  rw [htext, Option.filter_some, if_neg (by simp [hstaged])]

/-- A text that was not previewed is previewed when it is submitted, -/
theorem submit_previews (htext : terminal.configText = some input) (hstaged : input.pending = false)
    (hdirty : terminal.controller.hasUnsavedConfigDraft = true) (hnew : terminal.validatedConfigText = none)
    (hpreview : terminal.controller.previewConfig world = .ok controller) : terminal.submitConfigText world =
      ({ terminal with controller, validatedConfigText := some input.value }, draftEvents .previewed terminal.controller) := by
  unfold ConfigTerminal.submitConfigText
  rw [flushConfigText_staged htext hstaged]
  simp [htext, hdirty, hnew, hpreview]

/-- and committed when it is submitted again. -/
theorem submit_commits (htext : terminal.configText = some input) (hstaged : input.pending = false)
    (hdirty : terminal.controller.hasUnsavedConfigDraft = true) (hremembered : terminal.validatedConfigText = some input.value) :
    (terminal.submitConfigText world).2 = draftEvents .committed terminal.controller := by
  unfold ConfigTerminal.submitConfigText
  rw [flushConfigText_staged htext hstaged]
  simp only [htext, hdirty, hremembered]
  cases terminal.controller.commitConfig world <;> simp

/-- Enter in a field with a text submits it. -/
theorem enter_submits (unicode : Unicode) (world : ConfigWorld) {field : ConfigFieldView} {maxBytes : Nat} (hconfirming : terminal.confirmingDiscard = false)
    (hstate : terminal.controller.state ≠ .elsewhere) (hdelete : terminal.controller.isConfigObjectDelete = false)
    (hfield : terminal.controller.configEditorField = some field) (hkind : interaction field = .text maxBytes) (log : List DraftEvent) :
    configStep unicode (terminal, log) (world, .key .enter) =
      .ok ((terminal.submitConfigText world).1, log ++ (terminal.submitConfigText world).2) := by
  have hcontext : terminal.inputContext = .configText := by
    unfold ConfigTerminal.inputContext
    rw [hconfirming, hdelete, hfield]
    simp [hstate, hkind]
  unfold configStep ConfigTerminal.intent
  simp only [hcontext]
  rfl

end Submitted

def presetDocument : ConfigDocument :=
  { ConfigDocument.empty with modelPresets := .ofList [("main", { ModelPresetLayer.default with
      provider := some "simulator", model := some "m", dialect := some .responses })] }

def presetWorld : ConfigWorld := ⟨documentLibrary presetDocument, fun _ => none, readyRuntime .empty noLayer noLayer, noFiles, .calm⟩

/-- A preset that was created with a starter. -/
def presetSession : ConfigEditorSession :=
  ⟨userDraft presetDocument, "model_presets.main.provider", false, .create, some ⟨.modelPreset, "main"⟩⟩

theorem preset_previews : ∃ field changes, presetSession.preview presetWorld = .ok (field, changes) ∧ changes ≠ [] ∧
    presetSession.field presetWorld = .ok field := by
  have hlayer : presetDocument.ValidLayer := ConfigDocument.validateLayer_ok.mp (by decide +kernel)
  obtain ⟨changes, hchanges⟩ := diffDocuments_isOk empty_validLayer hlayer
  have hnew : changes ≠ [] := by
    intro hnil
    exact absurd ((diffDocuments_nil hchanges).mp hnil) (by decide +kernel)
  have hprints : (okAnd (presetDocument.toToml presetWorld.lib) fun _ => true) = true := by decide +kernel
  obtain ⟨text, htext, _⟩ := okAnd_iff.mp hprints
  have hresolves : (okAnd (resolveDocuments templateLibrary .builtIn presetDocument .empty .empty) fun _ => true) = true := by decide +kernel
  obtain ⟨resolved, hresolved, _⟩ := okAnd_iff.mp hresolves
  have hprepare : presetWorld.runtime.prepareCommit presetWorld.lib noFiles presetSession.draft = .ok (noLayer, changes, some text) :=
    prepareCommit_ok.mpr ⟨rfl, noLayer, rfl, ⟨rfl, resolveDocuments_isOk.mp ⟨resolved, hresolved⟩⟩, hchanges,
      .inr ⟨hnew, text, htext, rfl⟩⟩
  have hshows : (okAnd (presetSession.field presetWorld) fun _ => true) = true := by decide +kernel
  obtain ⟨field, hfield, _⟩ := okAnd_iff.mp hshows
  refine ⟨field, changes, ?_, hnew, hfield⟩
  unfold ConfigEditorSession.preview ConfigRuntime.commit
  rw [if_neg (by decide), if_neg (by decide)]
  rw [show presetWorld.runtime.prepareCommit presetWorld.lib presetWorld.files presetSession.draft = _ from hprepare, hfield]
  rfl

/-- The editor of the preset, and its name submitted twice. -/
def presetEvents : List (ConfigWorld × ConfigEvent) :=
  [(presetWorld, .opened presetSession (.created true)), (presetWorld, .key .enter), (presetWorld, .key .enter)]

theorem committed_previewed_preset : ∃ terminal log, configRun .ascii presetEvents = .ok (terminal, log) ∧
    .committed presetSession.draft ∈ log ∧ OnlyPreviewed log := by
  obtain ⟨field, changes, hpreview, hnew, hfield⟩ := preset_previews
  have hshown := field_shown_at hfield
  have hkind : interaction field = .text maxConfigIdBytes := hshown.kind.trans (by decide)
  let opened : ConfigController := ⟨.configEditor, some ⟨presetSession, field, true, false⟩⟩
  have hsynced := syncConfigText_synced { ConfigTerminal.start with controller := opened } fun editor heditor => by
    cases heditor
    exact hshown
  have hopened : configStep .ascii (.start, []) (presetWorld, .opened presetSession (.created true)) =
      .ok (({ ConfigTerminal.start with controller := opened } : ConfigTerminal).syncConfigText, [.started]) := by
    have hopen : ConfigController.openEditor presetWorld presetSession (.created true) = .ok opened := by
      unfold ConfigController.openEditor
      dsimp only
      rw [hfield]
      rfl
    unfold configStep
    dsimp only
    rw [if_neg (by decide), hopen]
    rfl
  generalize ({ ConfigTerminal.start with controller := opened } : ConfigTerminal).syncConfigText = terminal at hsynced hopened
  obtain ⟨hcontroller, _, hinput, htext, hstaged, hconfirming⟩ := hsynced
  have htextual : opened.textual = true := by
    rw [show opened.textual = (interactionAt presetSession.fieldPath).isTextual from textual_shown rfl hshown]
    decide
  rw [show opened.textual = true from htextual] at htext
  obtain ⟨input, htext⟩ := Option.isSome_iff_exists.mp htext
  rw [htext, Option.any_some] at hstaged
  have hpreviewed : opened.previewConfig presetWorld = .ok ⟨.configEditor, some ⟨presetSession, field, true, true⟩⟩ := by
    unfold ConfigController.previewConfig ConfigController.activeEditor
    dsimp only
    rw [require_bind (by simp [opened]), okOr_some, ok_bind, hpreview]
    simp only [Except.mapError, ok_bind, decide_eq_true hnew]
    rfl
  have hcontroller : terminal.controller = opened := hcontroller
  have hfirst := enter_submits .ascii presetWorld hconfirming (by rw [hcontroller]; simp [opened])
    (by rw [hcontroller]; simp [ConfigController.isConfigObjectDelete, opened, presetSession]) (by rw [hcontroller]; rfl) hkind [.started]
  rw [submit_previews htext hstaged (by rw [hcontroller]; rfl) hinput (by rw [hcontroller]; exact hpreviewed)] at hfirst
  let previewed : ConfigTerminal :=
    { terminal with controller := ⟨.configEditor, some ⟨presetSession, field, true, true⟩⟩, validatedConfigText := some input.value }
  have hcommits : (previewed.submitConfigText presetWorld).2 = draftEvents .committed previewed.controller :=
    submit_commits htext hstaged rfl rfl
  have hconfirmed : previewed.confirmingDiscard = false := hconfirming
  have hsecond := enter_submits .ascii presetWorld hconfirmed (by simp [previewed])
    (by simp [previewed, ConfigController.isConfigObjectDelete, presetSession]) rfl hkind
    ([.started] ++ draftEvents .previewed terminal.controller)
  rw [hcommits] at hsecond
  have hrun : configRun .ascii presetEvents = .ok ((previewed.submitConfigText presetWorld).1,
      [.started] ++ draftEvents .previewed terminal.controller ++ draftEvents .committed previewed.controller) := by
    unfold configRun presetEvents
    rw [List.foldlM_cons, hopened, ok_bind, List.foldlM_cons, hfirst, ok_bind, List.foldlM_cons]
    exact (congrArg (· >>= _) hsecond).trans rfl
  refine ⟨_, _, hrun, by simp [draftEvents, ConfigController.draft, previewed], ?_⟩
  refine committed_previewed .ascii presetEvents _ _ ?_ hrun ?_
  · intro before event after state heq _
    refine confirmable_other _ ?_
    have hmem : event ∈ presetEvents := by
      rw [heq]
      simp
    simp only [presetEvents, List.mem_cons, List.not_mem_nil, or_false] at hmem
    rcases hmem with rfl | rfl | rfl <;> simp
  · rw [hcontroller]
    simp [draftEvents, ConfigController.draft, opened, previewed]

end GreenTyper.Tui
