/-
  GreenTyper.Config.Runtime — the configuration of one process over the two layer files
  (`ConfigRuntime` of `config/runtime.rs`).

  A layer file is missing or holds bytes; next to it may be a backup of what it held
  before. A runtime keeps what it read of both layers. A draft is a changed document of
  one layer with the revision it was taken from; a commit reads both layers again, under
  the locks, and replaces the draft's file if its revision is still the draft's.

  The TOML library and SHA-256 are parameters.
-/

import GreenTyper.Config.Resolve

namespace GreenTyper.Config

open Lib Provider Usage

structure TomlLibrary where
  /-- `to_string_pretty`. -/
  print : ConfigDocument → Except String String
  /-- `from_str`. -/
  parse : String → Except String ConfigDocument

/-- The parser reads what the printer wrote, also with a line break after it. -/
structure TomlLibrary.Lawful (toml : TomlLibrary) : Prop where
  parse_print : ∀ {document : ConfigDocument} {text : String}, toml.print document = .ok text →
    toml.parse text = .ok document ∧ toml.parse (text ++ "\n") = .ok document

structure RuntimeLibrary extends ConfigLibrary where
  toml : TomlLibrary
  sha256 : List Byte → List Byte

/-! ## Texts of documents -/

namespace ConfigDocument

/-- A document of the first schema has no starters. -/
def migrate (document : ConfigDocument) : Except ConfigRuntimeError ConfigDocument :=
  if document.schemaVersion = 1 then do
    require (document.modelPresets.values.any (·.starter.isSome) = false)
      (invalid "schema_version" "starter provenance requires Config schema version 2")
    return { document with schemaVersion := configFileSchemaVersion }
  else .ok document

def parse (lib : RuntimeLibrary) (input : String) : Except ConfigRuntimeError ConfigDocument := do
  require (byteLen input ≤ maxConfigFileBytes) (invalid "<document>" "config file exceeds the supported size")
  let document ← (lib.toml.parse input).mapError .parse
  let document ← document.migrate
  let document ← document.normalizeRoutes
  document.validateLayer
  return document

def endLine (output : String) : String := if output.toList.getLast? = some '\n' then output else output ++ "\n"

def toToml (lib : RuntimeLibrary) (document : ConfigDocument) : Except ConfigRuntimeError String := do
  let normalized ← document.normalizeRoutes
  normalized.validateLayer
  let output ← (lib.toml.print normalized).mapError .parse
  return endLine output

end ConfigDocument

/-! ## Layer files -/

structure LoadedLayer where
  document : ConfigDocument
  revision : ConfigRevision
  bytes : List Byte
  present : Bool
  deriving DecidableEq

structure LayerState where
  current : Option LoadedLayer
  issue : Option ConfigRepairIssue
  deriving DecidableEq

/-- A layer file: missing, or its bytes. -/
abbrev LayerFile := Option (List Byte)

/-- What a revision of no file is the digest of. -/
def missingLayerText : String := "<missing-config-layer>"

def readLayerUnvalidated (lib : RuntimeLibrary) : LayerFile → Except ConfigRuntimeError LoadedLayer
  | none => .ok ⟨.empty, lib.sha256 (utf8 missingLayerText), [], false⟩
  | some bytes => do
    require (bytes.length ≤ maxConfigFileBytes) (invalid "<document>" "config file exceeds the supported size")
    return ⟨.empty, lib.sha256 bytes, bytes, true⟩

def readLayer (lib : RuntimeLibrary) (file : LayerFile) : Except ConfigRuntimeError LoadedLayer := do
  let layer ← readLayerUnvalidated lib file
  if layer.present then
    let text ← okOr (fromUtf8 layer.bytes) (.parse "config file is not UTF-8")
    return { layer with document := ← ConfigDocument.parse lib text }
  else return layer

structure ConfigFiles where
  user : LayerFile
  project : LayerFile
  userBackup : LayerFile
  projectBackup : LayerFile
  deriving DecidableEq

namespace ConfigFiles

def layer (files : ConfigFiles) : ConfigScope → LayerFile
  | .project => files.project
  | _ => files.user

def backup (files : ConfigFiles) : ConfigScope → LayerFile
  | .project => files.projectBackup
  | _ => files.userBackup

def writeLayer (files : ConfigFiles) (scope : ConfigScope) (bytes : List Byte) : ConfigFiles :=
  if scope = .project then { files with project := some bytes } else { files with user := some bytes }

def writeBackup (files : ConfigFiles) (scope : ConfigScope) (bytes : List Byte) : ConfigFiles :=
  if scope = .project then { files with projectBackup := some bytes } else { files with userBackup := some bytes }

end ConfigFiles

def backupAvailable (lib : RuntimeLibrary) (backup : LayerFile) : Bool := okAnd (readLayer lib backup) (·.present)

def loadLayerState (lib : RuntimeLibrary) (files : ConfigFiles) (scope : ConfigScope) : LayerState :=
  match readLayer lib (files.layer scope) with
  | .ok layer => ⟨some layer, none⟩
  | .error source => ⟨none, some ⟨scope, source.category, backupAvailable lib (files.backup scope)⟩⟩

/-! ## Runtimes -/

structure ConfigRuntime where
  builtIn : ConfigDocument
  cli : ConfigDocument
  user : LayerState
  project : LayerState
  lastValid : Option ResolvedState
  deriving DecidableEq

/-- `resolve_if_valid`: the resolved state, and the layers with the issue of a pair that does not resolve. -/
def resolveIfValid (lib : RuntimeLibrary) (files : ConfigFiles) (builtIn cli : ConfigDocument) (user project : LayerState) :
    Option ResolvedState × LayerState × LayerState :=
  match user.current, project.current with
  | some userLayer, some projectLayer =>
    match resolveDocuments lib.toConfigLibrary builtIn userLayer.document projectLayer.document cli with
    | .ok resolved => (some resolved, user, project)
    | .error source =>
      let issue (scope : ConfigScope) : Option ConfigRepairIssue :=
        some ⟨scope, source.category, backupAvailable lib (files.backup scope)⟩
      match resolveDocuments lib.toConfigLibrary builtIn userLayer.document .empty cli with
      | .error _ => (none, { user with issue := issue .user }, project)
      | .ok _ => (none, user, { project with issue := issue .project })
  | _, _ => (none, user, project)

structure ConfigRuntimeStatus where
  ready : Bool
  issues : List ConfigRepairIssue

namespace ConfigRuntime

/-- `open`. -/
def openFiles (lib : RuntimeLibrary) (files : ConfigFiles) (cli : ConfigDocument) : Except ConfigRuntimeError ConfigRuntime := do
  ConfigDocument.builtIn.validateLayer
  cli.validateLayer
  let (lastValid, user, project) := resolveIfValid lib files .builtIn cli (loadLayerState lib files .user)
    (loadLayerState lib files .project)
  return ⟨.builtIn, cli, user, project, lastValid⟩

def status (runtime : ConfigRuntime) : ConfigRuntimeStatus :=
  let issues := runtime.user.issue.toList ++ runtime.project.issue.toList
  ⟨issues.isEmpty && runtime.lastValid.isSome, issues⟩

def reload (lib : RuntimeLibrary) (files : ConfigFiles) (runtime : ConfigRuntime) : ConfigRuntime :=
  let (resolved, user, project) := resolveIfValid lib files runtime.builtIn runtime.cli (loadLayerState lib files .user)
    (loadLayerState lib files .project)
  { runtime with user := user, project := project, lastValid := resolved.or runtime.lastValid }

def repairRequired (runtime : ConfigRuntime) : ConfigRuntimeError := .repairRequired runtime.status.issues

def resolvedState (runtime : ConfigRuntime) : Except ConfigRuntimeError ResolvedState :=
  okOr runtime.lastValid runtime.repairRequired

def state (runtime : ConfigRuntime) : ConfigScope → Except ConfigRuntimeError LayerState
  | .user => .ok runtime.user
  | .project => .ok runtime.project
  | scope => .error (.readOnlyScope scope)

/-! ## Derivations -/

def providerProfile (lib : ConfigLibrary) (runtime : ConfigRuntime) (profile : String) :
    Except ConfigRuntimeError (Option ProviderProfileSnapshot) := do
  validateId "provider profile" profile
  if profile = "simulator" then return none
  else
    let resolved ← runtime.resolvedState
    return some (← providerProfileSnapshot lib resolved.document profile)

def resolvedUsageWindows (lib : ConfigLibrary) (runtime : ConfigRuntime) : Except ConfigRuntimeError (List UsageWindow) := do
  let resolved ← runtime.resolvedState
  resolved.document.windows.mapM (resolveUsageWindow lib)

def resolvedPriceSchedules (lib : ConfigLibrary) (runtime : ConfigRuntime) : Except ConfigRuntimeError PriceScheduleBook := do
  let resolved ← runtime.resolvedState
  resolvePriceScheduleBook lib resolved.document

def targetDocument (runtime : ConfigRuntime) (scope : ConfigScope) : Except ConfigRuntimeError ConfigDocument := do
  let state ← runtime.state scope
  return (← okOr state.current runtime.repairRequired).document

end ConfigRuntime

structure ModelPresetView where
  id : String
  provider : String
  model : String
  dialect : ProviderDialect
  reasoningEffort : Option ReasoningEffort
  serviceTier : Option ServiceTier
  maxOutputTokens : Option UInt32
  contextMode : Option ContextMode
  default : Bool
  favorite : Bool
  fallback : List String
  starter : Option ModelStarterProvenance
  starterScope : Option ConfigScope
  starterUpdateAvailable : Bool

/-- The one source of the fields, unless one is absent or from elsewhere. -/
def commonSource (entries : List EffectiveConfigEntry) (source : Option ConfigScope) : List String → Option ConfigScope
  | [] => source
  | path :: paths =>
    match entries.find? (·.path = path), source with
    | none, _ => none
    | some entry, some previous => if previous = entry.source then commonSource entries source paths else none
    | some entry, none => commonSource entries (some entry.source) paths

def modelStarterScope (resolved : ResolvedState) (presetId : String) : Option ConfigScope :=
  commonSource resolved.internalEntries none (["provider", "model", "dialect", "starter.catalog_key", "starter.seed_revision",
    "starter.provider", "starter.model", "starter.dialect"].map (dotted (presetPath presetId)))

namespace ConfigRuntime

def releaseStarterUpdate (lib : ConfigLibrary) (runtime : ConfigRuntime) (presetId : String) (scope : Option ConfigScope)
    (provenance : ModelStarterProvenance) : Except ConfigRuntimeError (Option ModelStarterProvenance) := do
  let path := presetPath presetId
  let scope ← okOr scope (invalid path "release starter is overridden outside one scope")
  let document ← runtime.targetDocument scope
  let target ← okOr (document.modelPresets.get presetId) (.unknownObject path)
  require (target.provider = some provenance.provider ∧ target.model = some provenance.model ∧
    target.dialect = some provenance.dialect) (invalid path "release starter was modified after acceptance")
  let accepted ← okOr (releaseModelIdentity provenance.seedRevision provenance.catalogKey)
    (invalid (dotted path "starter.seed_revision") "release starter seed is not a supported update source")
  let profile ← okOr (← runtime.providerProfile lib provenance.provider)
    (invalid (dotted path "starter.provider") "release starter references an unknown provider profile")
  require (profile.template = accepted.providerTemplate ∧ provenance.model = accepted.model ∧
    provenance.dialect = accepted.dialect)
    (invalid (dotted path "starter") "release starter provenance does not match its catalog record")
  let current ← okOr (releaseModelIdentity releaseSeedRevision provenance.catalogKey)
    (.unknownObject (dotted "catalog.models" provenance.catalogKey))
  require (profile.template = current.providerTemplate ∧ profile.supports current.dialect = true)
    (invalid (dotted path "dialect") "updated starter dialect is not supported by the selected provider profile")
  if provenance.seedRevision = releaseSeedRevision then return none
  else return some ⟨current.catalogKey, releaseSeedRevision, provenance.provider, current.model, current.dialect⟩

def modelPresetView (lib : ConfigLibrary) (runtime : ConfigRuntime) (resolved : ResolvedState) (id : String)
    (preset : ModelPresetLayer) : Except ConfigRuntimeError ModelPresetView := do
  let path := dotted (presetPath id)
  let provider ← okOr preset.provider (invalid (path "provider") "model preset requires a provider")
  let model ← okOr preset.model (invalid (path "model") "model preset requires a model")
  let dialect ← okOr preset.dialect (invalid (path "dialect") "model preset requires a dialect")
  let reasoningEffort ← transpose (preset.reasoningEffort.map fun value =>
    okOr (ReasoningEffort.parse value) (invalid (path "reasoning_effort") "unknown reasoning effort"))
  let serviceTier ← transpose (preset.serviceTier.map fun value =>
    okOr (ServiceTier.parse value) (invalid (path "service_tier") "unknown service tier"))
  let contextMode ← transpose (preset.contextMode.map fun value =>
    okOr (ContextMode.parse value) (invalid (path "context_mode") "unknown context mode"))
  let starterScope := if preset.starter.isSome then modelStarterScope resolved id else none
  let starter ← transpose (preset.starter.map (·.provenance id))
  let updateAvailable := starter.any fun provenance =>
    okAnd (runtime.releaseStarterUpdate lib id starterScope provenance) (·.isSome)
  return ⟨id, provider, model, dialect, reasoningEffort, serviceTier, preset.maxOutputTokens, contextMode,
    resolved.document.agent.defaultModelPreset == some id, preset.favorite.getD false, preset.fallbacks, starter, starterScope,
    updateAvailable⟩

def modelPresets (lib : ConfigLibrary) (runtime : ConfigRuntime) : Except ConfigRuntimeError (List ModelPresetView) := do
  let resolved ← runtime.resolvedState
  resolved.document.modelPresets.entries.mapM fun (id, preset) => runtime.modelPresetView lib resolved id preset

end ConfigRuntime

/-- The walk of a fallback graph: the presets met, and the chain so far. -/
def visitPreset (presets : OrdMap String ModelPresetView) : Nat → List String × List ModelPresetView → String →
    Except ConfigRuntimeError (List String × List ModelPresetView)
  | 0, _, _ => .error (.panicked "fallback walk")
  | fuel + 1, (seen, chain), id =>
    if id ∈ seen then .ok (seen, chain)
    else do
      let preset ← okOr (presets.get id) (.panicked "validated fallback references remain present")
      preset.fallback.foldlM (visitPreset presets fuel) (id :: seen, chain ++ [preset])

def ConfigRuntime.modelPresetChain (lib : ConfigLibrary) (runtime : ConfigRuntime) (id : String) :
    Except ConfigRuntimeError (List ModelPresetView) := do
  validateId "model preset" id
  let presets : OrdMap String ModelPresetView := .ofList ((← runtime.modelPresets lib).map fun preset => (preset.id, preset))
  require (presets.contains id = true) (.unknownObject (presetPath id))
  return (← visitPreset presets (presets.size + 1) ([], []) id).2

/-! ## Drafts -/

structure ConfigDraft where
  scope : ConfigScope
  baseRevision : ConfigRevision
  document : ConfigDocument
  deriving DecidableEq

structure ConfigChange where
  path : String
  before : Option ConfigValue
  after : Option ConfigValue
  /-- Of a credential, only whether it was bound before and after. -/
  credentialBinding : Option (Bool × Bool)
  timing : ConfigApplicationTiming
  deriving DecidableEq

/-- The paths of either map, in their order. -/
def changedPaths (before after : OrdMap String ConfigValue) : List String :=
  (inOrder (before.keys ++ after.keys).toFinset).filter fun path => before.get path ≠ after.get path

def diffDocuments (before after : ConfigDocument) : Except ConfigRuntimeError (List ConfigChange) :=
  (changedPaths before.flatten after.flatten).mapM fun path => do
    -- The source unwraps the entry: flattening makes schema paths only.
    let descriptor ← requireSchemaEntry path
    let old := before.flatten.get path
    let new := after.flatten.get path
    if descriptor.credentialReference then return ⟨path, none, none, some (old.isSome, new.isSome), descriptor.timing⟩
    else return ⟨path, old, new, none, descriptor.timing⟩

structure ConfigCommit where
  scope : ConfigScope
  baseRevision : ConfigRevision
  revision : ConfigRevision
  changes : List ConfigChange
  written : Bool
  deriving DecidableEq

/-- What the system answers a commit: whether the locks are free and which writes succeed. -/
structure Environment where
  lock : Bool
  backup : Bool
  layer : Bool
  deriving DecidableEq

def Environment.calm : Environment := ⟨true, true, true⟩

namespace ConfigRuntime

def beginDraft (runtime : ConfigRuntime) (scope : ConfigScope) : Except ConfigRuntimeError ConfigDraft := do
  require (scope.isWritable = true) (.readOnlyScope scope)
  let state ← runtime.state scope
  let layer ← okOr state.current runtime.repairRequired
  return ⟨scope, layer.revision, layer.document⟩

/-- The documents of both layers, where `draft` is that of its own. -/
def draftDocuments (draft : ConfigDraft) (other : ConfigDocument) : ConfigDocument × ConfigDocument :=
  if draft.scope = .project then (other, draft.document) else (draft.document, other)

def resolveDraft (lib : ConfigLibrary) (runtime : ConfigRuntime) (draft : ConfigDraft) : Except ConfigRuntimeError ResolvedState := do
  let state ← runtime.state draft.scope
  let current ← okOr state.current runtime.repairRequired
  require (current.revision = draft.baseRevision) (.revisionConflict draft.baseRevision current.revision)
  draft.document.validateLayer
  let other ← okOr (if draft.scope = .project then runtime.user else runtime.project).current runtime.repairRequired
  let (user, project) := draftDocuments draft other.document
  resolveDocuments lib runtime.builtIn user project runtime.cli

def validateDraft (lib : ConfigLibrary) (runtime : ConfigRuntime) (draft : ConfigDraft) :
    Except ConfigRuntimeError (List ConfigChange) := do
  let _ ← runtime.resolveDraft lib draft
  let state ← runtime.state draft.scope
  let current ← okOr state.current runtime.repairRequired
  diffDocuments current.document draft.document

/-- What a commit decides before it writes: the layer on disk, the changes, and the text of a changed document. -/
def prepareCommit (lib : RuntimeLibrary) (files : ConfigFiles) (runtime : ConfigRuntime) (draft : ConfigDraft) :
    Except ConfigRuntimeError (LoadedLayer × List ConfigChange × Option String) := do
  let user ← readLayer lib files.user
  let project ← readLayer lib files.project
  let (current, other) := if draft.scope = .project then (project, user) else (user, project)
  require (current.revision = draft.baseRevision) (.revisionConflict draft.baseRevision current.revision)
  draft.document.validateLayer
  let (resolvedUser, resolvedProject) := draftDocuments draft other.document
  let _ ← resolveDocuments lib.toConfigLibrary runtime.builtIn resolvedUser resolvedProject runtime.cli
  let changes ← diffDocuments current.document draft.document
  if changes = [] then return (current, changes, none)
  else return (current, changes, some (← draft.document.toToml lib))

/-- The writes of a commit or a restore: the backup, then the layer. -/
def writeFiles (environment : Environment) (files : ConfigFiles) (scope : ConfigScope) (backup : Option (List Byte))
    (bytes : List Byte) : Except ConfigRuntimeError Unit × ConfigFiles :=
  let (backedUp, files) := match backup with
    | none => (true, files)
    | some old => if environment.backup then (true, files.writeBackup scope old) else (false, files)
  if backedUp && environment.layer then (.ok (), files.writeLayer scope bytes) else (.error .io, files)

/-- `commit`, with the files after it. -/
def commit (lib : RuntimeLibrary) (environment : Environment) (files : ConfigFiles) (runtime : ConfigRuntime) (draft : ConfigDraft)
    (dryRun : Bool) : Except ConfigRuntimeError ConfigCommit × ConfigRuntime × ConfigFiles :=
  if draft.scope.isWritable = false then (.error (.readOnlyScope draft.scope), runtime, files)
  else if dryRun = false ∧ environment.lock = false then (.error .locked, runtime, files)
  else
    match runtime.prepareCommit lib files draft with
    | .error e => (.error e, runtime, files)
    | .ok (current, changes, none) => (.ok ⟨draft.scope, draft.baseRevision, current.revision, changes, false⟩, runtime, files)
    | .ok (current, changes, some text) =>
      let committed : ConfigCommit := ⟨draft.scope, draft.baseRevision, lib.sha256 (utf8 text), changes, !dryRun⟩
      if dryRun then (.ok committed, runtime, files)
      else
        match writeFiles environment files draft.scope (if current.present then some current.bytes else none) (utf8 text) with
        | (.error e, files) => (.error e, runtime, files)
        | (.ok (), files) => (.ok committed, runtime.reload lib files, files)

/-- What a restore decides before it writes: the layer that it replaces and the backup. -/
def prepareRestore (lib : RuntimeLibrary) (files : ConfigFiles) (runtime : ConfigRuntime) (scope : ConfigScope) :
    Except ConfigRuntimeError (LoadedLayer × LoadedLayer × List ConfigChange) := do
  let current ← readLayerUnvalidated lib (files.layer scope)
  let backup ← (readLayer lib (files.backup scope)).mapError fun _ => .backupUnavailable scope
  require (backup.present = true) (.backupUnavailable scope)
  let user ← if scope = .user then .ok backup else readLayer lib files.user
  let project ← if scope = .project then .ok backup else readLayer lib files.project
  let _ ← resolveDocuments lib.toConfigLibrary runtime.builtIn user.document project.document runtime.cli
  let changes ← diffDocuments current.document backup.document
  return (current, backup, changes)

/-- `restore_backup`, with the files after it. -/
def restoreBackup (lib : RuntimeLibrary) (environment : Environment) (files : ConfigFiles) (runtime : ConfigRuntime)
    (scope : ConfigScope) : Except ConfigRuntimeError ConfigCommit × ConfigRuntime × ConfigFiles :=
  if scope.isWritable = false then (.error (.readOnlyScope scope), runtime, files)
  else if environment.lock = false then (.error .locked, runtime, files)
  else
    match runtime.prepareRestore lib files scope with
    | .error e => (.error e, runtime, files)
    | .ok (current, backup, changes) =>
      match writeFiles environment files scope none backup.bytes with
      | (.error e, files) => (.error e, runtime, files)
      | (.ok (), files) =>
        (.ok ⟨scope, current.revision, backup.revision, changes, true⟩, runtime.reload lib files, files)

end ConfigRuntime

end GreenTyper.Config
