/-
  GreenTyper.Tui.ConfigEditor — the config editor of a terminal session (`config/editor.rs`,
  the editor's part of `presentation.rs` and of `terminal.rs`).

  The editor holds a draft and the field it is at. A text field is typed into and submitted:
  the first time the draft is previewed, the second time it is committed. A choice field is
  previewed with Enter and committed with `c`. What was previewed is remembered as the text
  or the choice of the field, and compared with what the field has now.

  What the session says of an outcome (its notice) is left out, and so are the keys that open
  other flows: none of them changes the draft.
-/

import GreenTyper.Config.Edit
import GreenTyper.Config.Views
import GreenTyper.Lib.JsonValue
import GreenTyper.Tui.Layout

namespace GreenTyper.Tui

open Lib Config

/-! ## Fields -/

inductive ConfigFieldInteraction where
  | readOnly
  | choice (choices : List String)
  | text (maxBytes : Nat)
  | credentialReference (maxBytes : Nat)
  deriving DecidableEq

def booleanChoices : List String := ["false", "true"]
def providerDialectChoices : List String := ["responses", "chat_completions", "messages"]

/-- `config_field_interaction`: the pattern, the kind, whether it is a credential reference, and the editor. -/
def fieldInteractions : List ((String × ConfigValueKind × Bool × String) × ConfigFieldInteraction) := [
  (("provider.profile", .string, false, "provider_selector"), .text maxConfigIdBytes),
  (("provider.model", .string, false, "model_selector"), .text maxConfigStringBytes),
  (("runtime.max_output_bytes", .positiveInteger, false, "integer"), .text maxConfigStringBytes),
  (("agent.default_model_preset", .string, false, "preset_selector"), .text maxConfigIdBytes),
  (("providers.<id>.template", .string, false, "provider_template"), .choice ["deepseek", "openai", "opencode-go"]),
  (("providers.<id>.credential", .string, true, "credential_binding"), .credentialReference maxConfigIdBytes),
  (("ui.statusline.preset", .string, false, "statusline_preset"), .choice ["minimal", "balanced", "diagnostic", "custom"]),
  (("ui.statusline.expand", .string, false, "expansion_policy"), .choice ["auto", "compact", "expanded"]),
  (("ui.statusline.primary_usage_window", .string, false, "usage_window_selector"), .text maxConfigIdBytes),
  (("ui.statusline.custom.left", .stringList, false, "segment_list"), .text maxConfigStringBytes),
  (("ui.statusline.custom.right", .stringList, false, "segment_list"), .text maxConfigStringBytes),
  (("providers.<id>.base_url", .string, false, "url"), .text maxConfigStringBytes),
  (("providers.<id>.routes.responses", .string, false, "route"), .text maxConfigStringBytes),
  (("providers.<id>.routes.chat_completions", .string, false, "route"), .text maxConfigStringBytes),
  (("providers.<id>.routes.messages", .string, false, "route"), .text maxConfigStringBytes),
  (("providers.<id>.routes.models", .string, false, "route"), .text maxConfigStringBytes),
  (("providers.<id>.dialects", .stringList, false, "dialect_list"), .text maxConfigStringBytes),
  (("providers.<id>.catalog.mode", .string, false, "catalog_mode"),
    .choice ["template", "discovery", "template_and_discovery", "manual"]),
  (("providers.<id>.pricing.source", .string, false, "pricing_source"),
    .choice ["unknown", "template", "template_mirror", "manual", "provider_reported"]),
  (("providers.<id>.allow_insecure_loopback", .boolean, false, "toggle"), .choice booleanChoices),
  (("model_presets.<id>.provider", .string, false, "provider_selector"), .text maxConfigIdBytes),
  (("model_presets.<id>.model", .string, false, "model_selector"), .text maxConfigStringBytes),
  (("model_presets.<id>.dialect", .string, false, "dialect"), .choice providerDialectChoices),
  (("model_presets.<id>.reasoning_effort", .string, false, "reasoning_effort"),
    .choice ["none", "minimal", "low", "medium", "high", "xhigh", "max"]),
  (("model_presets.<id>.service_tier", .string, false, "service_tier"),
    .choice ["auto", "default", "flex", "scale", "priority", "fast"]),
  (("model_presets.<id>.max_output_tokens", .positiveInteger, false, "integer"), .text maxConfigStringBytes),
  (("model_presets.<id>.fallback", .stringList, false, "preset_list"), .text maxConfigStringBytes),
  (("model_presets.<id>.context_mode", .string, false, "context_mode"), .choice ["canonical", "provider_native"]),
  (("model_presets.<id>.favorite", .boolean, false, "toggle"), .choice booleanChoices),
  (("price_schedules.<id>.provider", .string, false, "provider_selector"), .text maxConfigIdBytes),
  (("price_schedules.<id>.dialect", .string, false, "dialect"), .choice providerDialectChoices),
  (("price_schedules.<id>.source", .string, false, "pricing_source"), .choice ["manual"]),
  (("price_schedules.<id>.version", .string, false, "price_schedule_version"), .text maxConfigStringBytes),
  (("price_schedules.<id>.currency", .string, false, "currency"), .text maxConfigStringBytes),
  (("price_schedules.<id>.model", .string, false, "model_selector"), .text maxConfigStringBytes),
  (("price_schedules.<id>.service_tier", .string, false, "service_tier"), .text maxConfigStringBytes),
  (("price_schedules.<id>.effective_from", .string, false, "utc_timestamp"), .text maxConfigStringBytes),
  (("price_schedules.<id>.effective_until", .string, false, "utc_timestamp"), .text maxConfigStringBytes),
  (("price_schedules.<id>.source_ref", .string, false, "source_reference"), .text maxConfigStringBytes),
  (("price_schedules.<id>.minimum_context_tokens", .nonNegativeInteger, false, "non_negative_integer"), .text maxConfigStringBytes),
  (("price_schedules.<id>.maximum_context_tokens", .nonNegativeInteger, false, "non_negative_integer"), .text maxConfigStringBytes),
  (("price_schedules.<id>.rates.input_micros_per_million", .nonNegativeInteger, false, "price_rate"), .text maxConfigStringBytes),
  (("price_schedules.<id>.rates.cached_input_micros_per_million", .nonNegativeInteger, false, "price_rate"), .text maxConfigStringBytes),
  (("price_schedules.<id>.rates.cache_write_micros_per_million", .nonNegativeInteger, false, "price_rate"), .text maxConfigStringBytes),
  (("price_schedules.<id>.rates.output_micros_per_million", .nonNegativeInteger, false, "price_rate"), .text maxConfigStringBytes),
  (("price_schedules.<id>.rates.reasoning_output_micros_per_million", .nonNegativeInteger, false, "price_rate"),
    .text maxConfigStringBytes),
  (("stats.windows.<id>.start", .string, false, "local_time"), .text maxConfigStringBytes),
  (("stats.windows.<id>.end", .string, false, "local_time"), .text maxConfigStringBytes),
  (("stats.windows.<id>.timezone", .string, false, "timezone"), .text maxConfigStringBytes),
  (("stats.windows.<id>.days", .stringList, false, "weekday_list"), .text maxConfigStringBytes)]

def configFieldInteraction (pathPattern : List String) (valueKind : ConfigValueKind) (credentialReference : Bool) (editor : String) :
    ConfigFieldInteraction :=
  (fieldInteractions.lookup (joined pathPattern, valueKind, credentialReference, editor)).getD .readOnly

/-- Of a credential reference the view has only whether it is bound. -/
def isBinding (field : ConfigFieldView) : Bool :=
  match field.contents with
  | .credentialBinding _ _ _ => true
  | .value _ _ _ => false

/-- The interaction that the schema gives the field of a view. -/
def interaction (field : ConfigFieldView) : ConfigFieldInteraction :=
  configFieldInteraction field.pathPattern field.valueKind (isBinding field) field.editor

/-! ## Sessions -/

inductive ConfigEditorError where
  | config (source : ConfigRuntimeError)
  | configObjectMismatch
  | configObjectAlreadyExists
  | objectDeletionStaged
  | credentialOperationRequired
  | credentialBindingRequired
  | providerProfileRequired
  deriving DecidableEq

inductive ConfigEditorOperation where
  | edit
  | create
  | delete
  deriving DecidableEq

structure ConfigEditorSession where
  draft : ConfigDraft
  fieldPath : String
  credentialBinding : Bool
  operation : ConfigEditorOperation
  object : Option ConfigObjectRef
  deriving DecidableEq

/-- What the editor is given at an event: the libraries, the runtime as it is then, the files and the system's answers. -/
structure ConfigWorld where
  lib : RuntimeLibrary
  listLiteral : String → Option (List String)
  runtime : ConfigRuntime
  files : ConfigFiles
  environment : Environment

variable (world : ConfigWorld)

namespace ConfigEditorSession

def requireValueEditor (session : ConfigEditorSession) : Except ConfigEditorError Unit :=
  if session.operation = .delete then .error .objectDeletionStaged
  else if session.credentialBinding then .error .credentialOperationRequired
  else .ok ()

def requireCredentialBinding (session : ConfigEditorSession) : Except ConfigEditorError Unit :=
  if session.operation = .delete then .error .objectDeletionStaged
  else if session.credentialBinding = false then .error .credentialBindingRequired
  else .ok ()

def requireCommitAllowed (session : ConfigEditorSession) : Except ConfigEditorError Unit :=
  if session.operation = .delete then .ok () else session.requireValueEditor

/-- A change of the draft after a check. A change that is rejected may have left its part. -/
def change (session : ConfigEditorSession) (check : Except ConfigEditorError Unit)
    (edit : ConfigDraft → Except ConfigRuntimeError Unit × ConfigDraft) : Except ConfigEditorError Unit × ConfigEditorSession :=
  match check with
  | .error e => (.error e, session)
  | .ok () => ((edit session.draft).1.mapError .config, { session with draft := (edit session.draft).2 })

def stageRaw (raw : String) (session : ConfigEditorSession) : Except ConfigEditorError Unit × ConfigEditorSession :=
  session.change session.requireValueEditor fun draft => draft.setRaw world.listLiteral session.fieldPath raw

def reset (session : ConfigEditorSession) : Except ConfigEditorError Unit × ConfigEditorSession :=
  session.change session.requireValueEditor fun draft => draft.reset session.fieldPath

def stageCredentialReference (reference : String) (session : ConfigEditorSession) :
    Except ConfigEditorError Unit × ConfigEditorSession :=
  session.change session.requireCredentialBinding fun draft => draft.setRaw world.listLiteral session.fieldPath reference

def resetCredentialReference (session : ConfigEditorSession) : Except ConfigEditorError Unit × ConfigEditorSession :=
  session.change session.requireCredentialBinding fun draft => draft.reset session.fieldPath

def field (session : ConfigEditorSession) : Except ConfigEditorError ConfigFieldView :=
  (world.runtime.inspectDraftField session.draft session.fieldPath).mapError .config

/-- The focus moves over the fields of the object that can be edited, and stops at the first and the last. -/
def moveField (session : ConfigEditorSession) (offset : Int) : Except ConfigEditorError ConfigEditorSession :=
  if session.operation = .delete then .error .objectDeletionStaged
  else
    match session.object with
    | none => .ok session
    | some object => do
      let fields ← (world.runtime.draftObjectFields session.draft object.kind object.id).mapError .config
      let fields := fields.filter fun field => interaction field ≠ .readOnly
      match fields.findIdx? (·.path = session.fieldPath) with
      | none => return session
      | some index =>
        match fields[min (saturatingAddSigned index offset) (fields.length - 1)]? with
        | none => return session
        | some field => return { session with credentialBinding := isBinding field, fieldPath := field.path }

/-- The field and the changes; the draft is committed without being written. -/
def preview (session : ConfigEditorSession) : Except ConfigEditorError (ConfigFieldView × List ConfigChange) := do
  let preview ← (world.runtime.commit world.lib world.environment world.files session.draft true).1.mapError .config
  return (← session.field world, preview.changes)

def tryCommit (session : ConfigEditorSession) : Except ConfigEditorError ConfigCommit := do
  session.requireCommitAllowed
  (world.runtime.commit world.lib world.environment world.files session.draft false).1.mapError .config

def tryCommitProviderProfile (session : ConfigEditorSession) : Except ConfigEditorError ConfigCommit := do
  require (session.operation ≠ .delete) .objectDeletionStaged
  match session.requireCommitAllowed with
  | .ok () => .ok ()
  | .error e => require (e = .credentialOperationRequired ∧ session.credentialBinding = true) e
  require (session.object.any (·.kind = .providerProfile) = true) .providerProfileRequired
  (world.runtime.commit world.lib world.environment world.files session.draft false).1.mapError .config

/-- `open_object_draft`: at the first field that can be edited. -/
def openObjectDraft (draft : ConfigDraft) (object : ConfigObjectRef) (operation : ConfigEditorOperation) :
    Except ConfigEditorError ConfigEditorSession := do
  let fields ← (world.runtime.draftObjectFields draft object.kind object.id).mapError .config
  let field ← okOr ((fields.find? fun field => interaction field ≠ .readOnly) <|> fields.head?) .configObjectMismatch
  return ⟨draft, field.path, isBinding field, operation, some object⟩

end ConfigEditorSession

/-! ## The controller -/

inductive ConfigControllerError where
  | configEditor (source : ConfigEditorError)
  | notConfigEditor
  | notProviderWizard
  | unsavedConfigDraft
  deriving DecidableEq

structure ActiveConfigEditor where
  session : ConfigEditorSession
  /-- The field of its view, as it was when it was last looked at. -/
  field : ConfigFieldView
  dirty : Bool
  validated : Bool
  deriving DecidableEq

inductive EditorState where
  | configEditor
  | providerWizard
  /-- Any other screen. -/
  | elsewhere
  deriving DecidableEq

/-- What `PresentationController` has of the editor. -/
structure ConfigController where
  state : EditorState
  editor : Option ActiveConfigEditor
  deriving DecidableEq

/-- How an editor is opened: over a draft that was created, perhaps with a starter in it, over one with an object deleted, or
    over the layer as it is. -/
inductive Opening where
  | created (starter : Bool)
  | deletion
  | edited
  deriving DecidableEq

namespace ConfigController

def draft (controller : ConfigController) : Option ConfigDraft := controller.editor.map (·.session.draft)

def configEditorField (controller : ConfigController) : Option ConfigFieldView := controller.editor.map (·.field)

def hasUnsavedConfigDraft (controller : ConfigController) : Bool := controller.editor.any (·.dirty)

def isConfigObjectDelete (controller : ConfigController) : Bool :=
  controller.state = .configEditor && controller.editor.any (·.session.operation = .delete)

def activeEditor (controller : ConfigController) : Except ConfigControllerError ActiveConfigEditor := do
  require (controller.state ≠ .elsewhere) .notConfigEditor
  okOr controller.editor .notConfigEditor

/-- An editor over a new draft. -/
def openEditor (session : ConfigEditorSession) (opening : Opening) : Except ConfigControllerError ConfigController := do
  let field ← match opening with
    | .edited => (session.preview world).map (·.1) |>.mapError .configEditor
    | .created _ | .deletion => (session.field world).mapError .configEditor
  let wizard := opening ≠ .deletion ∧ session.object.any (·.kind = .providerProfile) = true
  return ⟨if wizard then .providerWizard else .configEditor,
    some ⟨session, field, opening = .created true || opening = .deletion, opening = .edited⟩⟩

/-- A change of the draft, by `stage_config` and its like. -/
def change (controller : ConfigController) (edit : ConfigEditorSession → Except ConfigEditorError Unit × ConfigEditorSession) :
    Except ConfigControllerError Unit × ConfigController :=
  match controller.activeEditor with
  | .error e => (.error e, controller)
  | .ok editor =>
    let changed : ConfigController := { controller with editor := some { editor with session := (edit editor.session).2 } }
    match (edit editor.session).1 with
    | .error e => (.error (.configEditor e), changed)
    | .ok () =>
      match (edit editor.session).2.field world with
      | .error e => (.error (.configEditor e), changed)
      | .ok field => (.ok (), { controller with editor := some ⟨(edit editor.session).2, field, true, false⟩ })

/-- A change that only the wizard makes. -/
def changeInWizard (controller : ConfigController) (edit : ConfigEditorSession → Except ConfigEditorError Unit × ConfigEditorSession) :
    Except ConfigControllerError Unit × ConfigController :=
  if controller.state = .providerWizard then controller.change world edit else (.error .notProviderWizard, controller)

def stageConfig (controller : ConfigController) (raw : String) := controller.change world (·.stageRaw world raw)

def resetConfig (controller : ConfigController) := controller.change world (·.reset)

def stageProviderCredentialReference (controller : ConfigController) (reference : String) :=
  controller.changeInWizard world (·.stageCredentialReference world reference)

def resetProviderCredentialReference (controller : ConfigController) := controller.changeInWizard world (·.resetCredentialReference)

def moveConfigField (controller : ConfigController) (offset : Int) : Except ConfigControllerError Unit × ConfigController :=
  match controller.activeEditor with
  | .error e => (.error e, controller)
  | .ok editor =>
    match editor.session.moveField world offset with
    | .error e => (.error (.configEditor e), controller)
    | .ok session =>
      match session.field world with
      | .error e => (.error (.configEditor e), { controller with editor := some { editor with session } })
      | .ok field => (.ok (), { controller with editor := some { editor with session, field } })

def previewConfig (controller : ConfigController) : Except ConfigControllerError ConfigController := do
  let editor ← controller.activeEditor
  let (field, changes) ← (editor.session.preview world).mapError .configEditor
  return { controller with editor := some { editor with field, dirty := changes ≠ [], validated := true } }

def commitConfig (controller : ConfigController) : Except ConfigControllerError ConfigController := do
  let editor ← controller.activeEditor
  let _ ← (if controller.state = .providerWizard then editor.session.tryCommitProviderProfile world else editor.session.tryCommit world)
    |>.mapError .configEditor
  return ⟨.elsewhere, none⟩

def discardConfig (controller : ConfigController) : Except ConfigControllerError ConfigController := do
  require (controller.state ≠ .elsewhere) .notConfigEditor
  return ⟨.elsewhere, none⟩

def back (controller : ConfigController) : Except ConfigControllerError ConfigController := do
  require (controller.hasUnsavedConfigDraft = false) .unsavedConfigDraft
  return ⟨.elsewhere, none⟩

end ConfigController

/-! ## The terminal session -/

structure ConfigTextInput where
  value : String
  replaceOnEdit : Bool
  pending : Bool
  deriving DecidableEq

/-- What `TerminalSession` has of the editor. -/
structure ConfigTerminal where
  controller : ConfigController
  validatedConfigChoice : Option String
  configText : Option ConfigTextInput
  validatedConfigText : Option String
  confirmingDiscard : Bool
  deriving DecidableEq

/-- What happens to drafts. -/
inductive DraftEvent where
  /-- An editor is opened. -/
  | started
  /-- The draft is staged into or reset. -/
  | edited
  /-- A rejected change left the draft changed. -/
  | spoiled
  /-- `preview_config` succeeded. -/
  | previewed (draft : ConfigDraft)
  /-- `commit_config` is called. -/
  | committed (draft : ConfigDraft)
  deriving DecidableEq

/-- What a change of the draft was. -/
def changeEvents (before : ConfigController) (changed : Except ConfigControllerError Unit × ConfigController) : List DraftEvent :=
  match changed.1 with
  | .ok () => [.edited]
  | .error _ => if changed.2.draft = before.draft then [] else [.spoiled]

/-- The draft of the editor that is open, as an event. -/
def draftEvents (event : ConfigDraft → DraftEvent) (controller : ConfigController) : List DraftEvent :=
  controller.draft.toList.map event

variable (unicode : Unicode)

namespace ConfigTerminal

def start : ConfigTerminal := ⟨⟨.elsewhere, none⟩, none, none, none, false⟩

def clearConfigText (terminal : ConfigTerminal) : ConfigTerminal :=
  { terminal with configText := none, validatedConfigText := none, confirmingDiscard := false }

/-- The text that a field is edited with. -/
def valueText : ConfigValue → String
  | .string value => value
  | .positiveInteger value => toString value.toNat
  | .nonNegativeInteger value => toString value.toNat
  | .boolean value => toString value
  | .stringList values => String.ofList (JsonValue.array (values.map .string)).text

def syncConfigText (terminal : ConfigTerminal) : ConfigTerminal :=
  match terminal.controller.configEditorField with
  | none => terminal.clearConfigText
  | some field =>
    let synced (value : String) : ConfigTerminal :=
      { terminal with configText := some ⟨value, true, false⟩, validatedConfigText := none, confirmingDiscard := false }
    match interaction field with
    | .readOnly | .choice _ => terminal.clearConfigText
    | .credentialReference _ => synced ""
    | .text _ =>
      match field.contents with
      | .credentialBinding _ _ _ => terminal.clearConfigText
      | .value effective _ target => synced (((target <|> effective).map valueText).getD "")

def configChoices (terminal : ConfigTerminal) : Option (List String) :=
  terminal.controller.configEditorField.bind fun field =>
    match interaction field with
    | .choice choices => some choices
    | .readOnly | .text _ | .credentialReference _ => none

/-- The value of a choice field that is a text or a toggle. -/
def choiceValue : ConfigValue → Option String
  | .string value => some value
  | .boolean value => some (if value then "true" else "false")
  | .positiveInteger _ | .nonNegativeInteger _ | .stringList _ => none

def configChoice (terminal : ConfigTerminal) : Option String := do
  let field ← terminal.controller.configEditorField
  let _ ← terminal.configChoices
  match field.contents with
  | .credentialBinding _ _ _ => none
  | .value effective _ target => (target <|> effective).bind choiceValue

def hasUnsavedConfigInput (terminal : ConfigTerminal) : Bool :=
  terminal.controller.hasUnsavedConfigDraft || terminal.configText.any (·.pending)

def configTextLimit (terminal : ConfigTerminal) : Option Nat :=
  terminal.controller.configEditorField.bind fun field =>
    match interaction field with
    | .text maxBytes | .credentialReference maxBytes => some maxBytes
    | .readOnly | .choice _ => none

def configTextRequiresDeferredStage (terminal : ConfigTerminal) : Bool :=
  terminal.controller.configEditorField.any fun field =>
    field.valueKind ≠ .string && match interaction field with
      | .text _ => true
      | .readOnly | .choice _ | .credentialReference _ => false

/-- Whether the focus is on a credential reference. -/
def onCredentialReference (terminal : ConfigTerminal) : Bool :=
  terminal.controller.configEditorField.any fun field =>
    match interaction field with
    | .credentialReference _ => true
    | .readOnly | .choice _ | .text _ => false

/-- The input after a change of the draft that was let through. -/
def changeText (terminal : ConfigTerminal) (changed : Except ConfigControllerError Unit × ConfigController) (input : ConfigTextInput) :
    ConfigTerminal × List DraftEvent :=
  let terminal' := { terminal with controller := changed.2 }
  (match changed.1 with
    | .ok () => { terminal' with configText := some input, validatedConfigText := none, confirmingDiscard := false }
    | .error _ => terminal', changeEvents terminal.controller changed)

def stageConfigText (terminal : ConfigTerminal) (next : String) : ConfigTerminal × List DraftEvent :=
  terminal.changeText (if terminal.onCredentialReference then terminal.controller.stageProviderCredentialReference world next
    else terminal.controller.stageConfig world next) ⟨next, false, false⟩

def resetConfigText (terminal : ConfigTerminal) : ConfigTerminal × List DraftEvent :=
  terminal.changeText (if terminal.onCredentialReference then terminal.controller.resetProviderCredentialReference world
    else terminal.controller.resetConfig world) ⟨"", true, false⟩

/-- The input becomes `next`; a field that is no text is staged when it is left or submitted. -/
def inputConfigText (terminal : ConfigTerminal) (next : String) : ConfigTerminal × List DraftEvent :=
  if terminal.configTextRequiresDeferredStage then
    ({ terminal with configText := some ⟨next, false, true⟩, validatedConfigText := none, confirmingDiscard := false }, [])
  else terminal.stageConfigText world next

def editConfigText (terminal : ConfigTerminal) (character : Option Char) : ConfigTerminal × List DraftEvent :=
  match terminal.configText, terminal.configTextLimit with
  | some current, some maxBytes =>
    let next := if current.replaceOnEdit then "" else current.value
    match character with
    | some character =>
      if isControl character ∨ maxBytes < byteLen next + character.utf8Size then (terminal, [])
      else terminal.inputConfigText world (next.push character)
    | none =>
      if current.replaceOnEdit then terminal.resetConfigText world
      else
        let next := concat (unicode.graphemes next).dropLast
        if next = "" then terminal.resetConfigText world else terminal.inputConfigText world next
  | _, _ => (terminal, [])

/-- Whether the input is staged now. -/
def flushConfigText (terminal : ConfigTerminal) : Bool × ConfigTerminal × List DraftEvent :=
  match terminal.configText.filter (·.pending) with
  | none => (true, terminal, [])
  | some input =>
    let changed := terminal.controller.stageConfig world input.value
    let events := changeEvents terminal.controller changed
    match changed.1 with
    | .ok () =>
      (true, { terminal with controller := changed.2, configText := terminal.configText.map ({ · with pending := false }) }, events)
    | .error _ => (false, { terminal with controller := changed.2 }, events)

def submitConfigText (terminal : ConfigTerminal) : ConfigTerminal × List DraftEvent :=
  match terminal.flushConfigText world with
  | (false, terminal, events) => (terminal, events)
  | (true, terminal, events) =>
    let current := terminal.configText.map (·.value)
    if terminal.controller.hasUnsavedConfigDraft = false then (terminal, events)
    else if current ≠ terminal.validatedConfigText then
      match terminal.controller.previewConfig world with
      | .ok controller =>
        ({ terminal with controller, validatedConfigText := current }, events ++ draftEvents .previewed terminal.controller)
      | .error _ => ({ terminal with validatedConfigText := none }, events)
    else
      let events := events ++ draftEvents .committed terminal.controller
      match terminal.controller.commitConfig world with
      | .ok controller => ({ terminal with controller }.clearConfigText, events)
      | .error _ => (terminal, events)

def moveConfigChoice (terminal : ConfigTerminal) (offset : Int) : ConfigTerminal × List DraftEvent :=
  match terminal.configChoices with
  | none => ({ terminal with validatedConfigChoice := none }, [])
  | some choices =>
    let next := match terminal.configChoice.bind fun current => choices.findIdx? (· = current) with
      | none => if offset < 0 then choices.length - 1 else 0
      | some index => min (saturatingAddSigned index offset) (choices.length - 1)
    match choices[next]? with
    | none => ({ terminal with validatedConfigChoice := none }, [])
    | some choice =>
      let changed := terminal.controller.stageConfig world choice
      let terminal' := { terminal with controller := changed.2 }
      (match changed.1 with
        | .ok () => { terminal' with validatedConfigChoice := none }
        | .error _ => terminal', changeEvents terminal.controller changed)

/-! ### Events -/

end ConfigTerminal

/-- The keys; every other event leaves the editor alone. -/
inductive ConfigKey where
  | character (character : Char)
  | backspace
  | delete
  | tab
  | backTab
  | up
  | down
  | enter
  | escape
  | other
  deriving DecidableEq

inductive ConfigContext where
  | configChoice
  | configText
  | configCredentialReference
  | configDeleteConfirmation
  | discardConfirmation
  | other
  deriving DecidableEq

inductive ConfigIntent where
  | moveConfigField (offset : Int)
  | moveConfigChoice (offset : Int)
  | previewConfig
  | commitConfig
  | discardConfig
  | editConfigText (character : Char)
  | backspaceConfigText
  | clearConfigText
  | submitConfigText
  | cancelDiscard
  | confirmConfigDelete
  | back
  | none
  deriving DecidableEq

namespace ConfigTerminal

def inputContext (terminal : ConfigTerminal) : ConfigContext :=
  if terminal.confirmingDiscard then .discardConfirmation
  else if terminal.controller.state = .elsewhere then .other
  else if terminal.controller.isConfigObjectDelete then .configDeleteConfirmation
  else
    match terminal.controller.configEditorField with
    | none => .other
    | some field =>
      match interaction field with
      | .choice _ => .configChoice
      | .text _ => .configText
      | .credentialReference _ => .configCredentialReference
      | .readOnly => .other

end ConfigTerminal

/-- What a key asks for, by the context: first those of a choice, of a text, and of the confirmations. -/
def configIntent (key : ConfigKey) : ConfigContext → ConfigIntent
  | .configChoice =>
    match key with
    | .up => .moveConfigChoice (-1)
    | .down => .moveConfigChoice 1
    | .enter => .previewConfig
    | .character character => if character = 'c' then .commitConfig else if character = 'd' then .discardConfig else .none
    | .tab => .moveConfigField 1
    | .backTab => .moveConfigField (-1)
    | .escape => .back
    | _ => .none
  | .configText | .configCredentialReference =>
    match key with
    | .tab => .moveConfigField 1
    | .backTab => .moveConfigField (-1)
    | .character character => if isControl character then .none else .editConfigText character
    | .backspace => .backspaceConfigText
    | .delete => .clearConfigText
    | .enter => .submitConfigText
    | .escape => .back
    | _ => .none
  | .discardConfirmation =>
    match key with
    | .enter => .discardConfig
    | .escape => .cancelDiscard
    | _ => .none
  | .configDeleteConfirmation =>
    match key with
    | .enter => .confirmConfigDelete
    | .escape => .discardConfig
    | _ => .none
  | .other => if key = .escape then .back else .none

namespace ConfigTerminal

/-- The terminal after an intent, and what it did to drafts. The session ends where the source returns the error. -/
def handle (terminal : ConfigTerminal) : ConfigIntent → Except ConfigControllerError (ConfigTerminal × List DraftEvent)
  | .moveConfigField offset =>
    match terminal.flushConfigText world with
    | (false, terminal, events) => .ok (terminal, events)
    | (true, terminal, events) =>
      let moved := terminal.controller.moveConfigField world offset
      let terminal' := { terminal with controller := moved.2 }
      match moved.1 with
      | .ok () => .ok ({ terminal' with validatedConfigChoice := none }.syncConfigText, events)
      | .error _ => .ok (terminal', events)
  | .moveConfigChoice offset => .ok (terminal.moveConfigChoice world offset)
  | .previewConfig =>
    match terminal.controller.previewConfig world with
    | .ok controller =>
      .ok ({ terminal with controller, validatedConfigChoice := terminal.configChoice }, draftEvents .previewed terminal.controller)
    | .error _ => .ok ({ terminal with validatedConfigChoice := none }, [])
  | .commitConfig =>
    if terminal.controller.hasUnsavedConfigDraft = false then .ok (terminal, [])
    else if terminal.configChoice ≠ terminal.validatedConfigChoice then .ok (terminal, [])
    else
      let events := draftEvents .committed terminal.controller
      match terminal.controller.commitConfig world with
      | .ok controller => .ok ({ terminal with controller, validatedConfigChoice := none }, events)
      | .error _ => .ok (terminal, events)
  | .discardConfig => do
    return ({ terminal with controller := ← terminal.controller.discardConfig, validatedConfigChoice := none }.clearConfigText, [])
  | .editConfigText character => .ok (terminal.editConfigText world unicode (some character))
  | .backspaceConfigText => .ok (terminal.editConfigText world unicode none)
  | .clearConfigText => .ok (terminal.resetConfigText world)
  | .submitConfigText => .ok (terminal.submitConfigText world)
  | .cancelDiscard => .ok ({ terminal with confirmingDiscard := false }, [])
  | .confirmConfigDelete =>
    if terminal.controller.isConfigObjectDelete = false then .ok (terminal, [])
    else
      match terminal.controller.previewConfig world with
      | .error _ => .ok (terminal, [])
      | .ok controller =>
        let events := draftEvents .previewed terminal.controller ++ draftEvents .committed controller
        match controller.commitConfig world with
        | .error _ => .ok ({ terminal with controller }, events)
        | .ok controller => .ok ({ terminal with controller, validatedConfigChoice := none }.clearConfigText, events)
  | .back =>
    if terminal.configText.isSome ∧ terminal.hasUnsavedConfigInput = true then .ok ({ terminal with confirmingDiscard := true }, [])
    else
      match terminal.controller.back with
      | .ok controller => .ok ({ terminal with controller, validatedConfigChoice := none }.clearConfigText, [])
      | .error .unsavedConfigDraft => .ok (terminal, [])
      | .error e => .error e
  | .none => .ok (terminal, [])

end ConfigTerminal

/-- A key, or an editor opened over a new draft. -/
inductive ConfigEvent where
  | key (key : ConfigKey)
  | opened (session : ConfigEditorSession) (opening : Opening)

def ConfigTerminal.intent (terminal : ConfigTerminal) : ConfigEvent → ConfigIntent
  | .key key => configIntent key terminal.inputContext
  | .opened _ _ => .none

def configStep (state : ConfigTerminal × List DraftEvent) (event : ConfigWorld × ConfigEvent) :
    Except ConfigControllerError (ConfigTerminal × List DraftEvent) :=
  match event.2 with
  | .key _ => do
    let (terminal, events) ← state.1.handle event.1 unicode (state.1.intent event.2)
    return (terminal, state.2 ++ events)
  | .opened session opening =>
    -- An editor is opened from another screen, and one that fails to open leaves it.
    if state.1.controller.state ≠ .elsewhere then .ok state
    else
      match ConfigController.openEditor event.1 session opening with
      | .error _ => .ok state
      | .ok controller =>
        .ok ({ state.1 with controller, validatedConfigChoice := none }.syncConfigText, state.2 ++ [.started])

def configRun (events : List (ConfigWorld × ConfigEvent)) : Except ConfigControllerError (ConfigTerminal × List DraftEvent) :=
  events.foldlM (configStep unicode) (.start, [])

end GreenTyper.Tui
