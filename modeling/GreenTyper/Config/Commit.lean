/-
  GreenTyper.Config.Commit — what a commit leaves on disk.

  A commit checks the draft's document and writes its text; a reader checks the bytes. The
  text of a document reads back as the document with its routes normalized, where it is not
  longer than a config file may be (`readLayer_toToml`), and normalizing the routes keeps
  the pair of layers resolved. The commit itself does not look at the length, and a draft
  whose fields are those of the layer is answered without a look at the rest of it; what a
  draft must be for its commit to leave what it says is `Storable` (`commit_readable`).
-/

import GreenTyper.Config.Wide

namespace GreenTyper.Config

open Lib Provider Usage

/-! ## Reading a layer -/

section Reading

variable {lib : RuntimeLibrary} {document : ConfigDocument}

theorem parse_ok {text : String} : ConfigDocument.parse lib text = .ok document ↔ byteLen text ≤ maxConfigFileBytes ∧
    ∃ parsed, lib.toml.parse text = .ok parsed ∧ ∃ migrated, parsed.migrate = .ok migrated ∧
      migrated.normalizeRoutes = .ok document ∧ document.ValidLayer := by
  simp only [ConfigDocument.parse, bind_ok, exists_unit, require_ok, mapError_ok, ConfigDocument.validateLayer_ok, pure, Except.pure,
    Except.ok.injEq]
  constructor
  · rintro ⟨hlen, parsed, hparsed, migrated, hmigrated, _, hroutes, hlayer, rfl⟩
    exact ⟨hlen, parsed, hparsed, migrated, hmigrated, hroutes, hlayer⟩
  · rintro ⟨hlen, parsed, hparsed, migrated, hmigrated, hroutes, hlayer⟩
    exact ⟨hlen, parsed, hparsed, migrated, hmigrated, _, hroutes, hlayer, rfl⟩

theorem readLayer_some {bytes : List Byte} {layer : LoadedLayer} : readLayer lib (some bytes) = .ok layer ↔
    bytes.length ≤ maxConfigFileBytes ∧ ∃ text, fromUtf8 bytes = some text ∧ ∃ document, ConfigDocument.parse lib text = .ok document ∧
      layer = ⟨document, lib.sha256 bytes, bytes, true⟩ := by
  simp only [readLayer, readLayerUnvalidated, bind_ok, exists_unit, require_ok, pure, Except.pure, Except.ok.injEq]
  constructor
  · rintro ⟨_, ⟨hlen, rfl⟩, hread⟩
    simp only [if_true, bind_ok, okOr_ok, Except.ok.injEq] at hread
    obtain ⟨text, htext, document, hparse, rfl⟩ := hread
    exact ⟨hlen, text, htext, document, hparse, rfl⟩
  · rintro ⟨hlen, text, htext, document, hparse, rfl⟩
    refine ⟨_, ⟨hlen, rfl⟩, ?_⟩
    simp only [if_true, htext, okOr_some, ok_bind, hparse]

/-- A layer that reads is a valid one with its routes normalized. -/
theorem readLayer_document {file : LayerFile} {layer : LoadedLayer} (h : readLayer lib file = .ok layer) :
    layer.document.ValidLayer ∧ layer.document.normalizeRoutes = .ok layer.document := by
  cases file with
  | none =>
    cases h
    exact ⟨empty_validLayer, rfl⟩
  | some bytes =>
    obtain ⟨_, _, _, document, hparse, rfl⟩ := readLayer_some.mp h
    obtain ⟨_, _, _, _, _, hroutes, hlayer⟩ := parse_ok.mp hparse
    exact ⟨hlayer, normalizeRoutes_again hroutes hlayer⟩

/-- What a layer file holds, and the revision of what it holds. -/
theorem readLayer_revision {file : LayerFile} {layer : LoadedLayer} (h : readLayer lib file = .ok layer) :
    layer.revision = lib.sha256 (file.getD (utf8 missingLayerText)) ∧ layer.present = file.isSome ∧ layer.bytes = file.getD [] := by
  cases file with
  | none =>
    cases h
    exact ⟨rfl, rfl, rfl⟩
  | some bytes =>
    obtain ⟨_, _, _, _, _, rfl⟩ := readLayer_some.mp h
    exact ⟨rfl, rfl, rfl⟩

theorem toToml_ok {text : String} : document.toToml lib = .ok text ↔ ∃ normalized, document.normalizeRoutes = .ok normalized ∧
    normalized.ValidLayer ∧ ∃ output, lib.toml.print normalized = .ok output ∧ text = ConfigDocument.endLine output := by
  simp only [ConfigDocument.toToml, bind_ok, exists_unit, mapError_ok, ConfigDocument.validateLayer_ok, pure, Except.pure,
    Except.ok.injEq, eq_comm (b := text)]

theorem parse_endLine (hlib : lib.toml.Lawful) {output : String} (h : lib.toml.print document = .ok output) :
    lib.toml.parse (ConfigDocument.endLine output) = .ok document := by
  rw [ConfigDocument.endLine]
  split
  · exact (hlib.parse_print h).1
  · exact (hlib.parse_print h).2

/-- The text of a document reads back as the document with its routes normalized, unless it
    is too long for a config file. -/
theorem readLayer_toToml (hlib : lib.toml.Lawful) {text : String} (h : document.toToml lib = .ok text) {layer : LoadedLayer} :
    readLayer lib (some (utf8 text)) = .ok layer ↔ byteLen text ≤ maxConfigFileBytes ∧
      document.normalizeRoutes = .ok layer.document ∧ layer = ⟨layer.document, lib.sha256 (utf8 text), utf8 text, true⟩ := by
  obtain ⟨normalized, hroutes, hlayer, output, hprint, rfl⟩ := toToml_ok.mp h
  have hmigrate : normalized.migrate = .ok normalized := by
    rw [ConfigDocument.migrate, if_neg (by rw [hlayer.schema]; decide)]
  have hparse : ∀ {document'}, ConfigDocument.parse lib (ConfigDocument.endLine output) = .ok document' ↔
      byteLen (ConfigDocument.endLine output) ≤ maxConfigFileBytes ∧ document' = normalized := by
    intro document'
    simp only [parse_ok, parse_endLine hlib hprint, Except.ok.injEq, exists_eq_left', hmigrate, normalizeRoutes_again hroutes hlayer]
    exact and_congr_right fun _ => ⟨fun ⟨heq, _⟩ => heq.symm, fun heq => ⟨heq.symm, heq ▸ hlayer⟩⟩
  simp only [readLayer_some, utf8_length, fromUtf8_utf8, Option.some.injEq, exists_eq_left', hparse, hroutes, Except.ok.injEq]
  constructor
  · rintro ⟨_, _, ⟨hlen, rfl⟩, rfl⟩
    exact ⟨hlen, rfl, rfl⟩
  · rintro ⟨hlen, heq, hparts⟩
    exact ⟨hlen, layer.document, ⟨hlen, heq.symm⟩, hparts⟩

end Reading

/-! ## Ready runtimes -/

/-- A runtime of two layers that resolve. -/
def readyRuntime (cli : ConfigDocument) (user project : LoadedLayer) : ConfigRuntime :=
  ⟨.builtIn, cli, ⟨some user, none⟩, ⟨some project, none⟩, some (resolvedState .builtIn user.document project.document cli)⟩

section Ready

variable {lib : RuntimeLibrary} {files : ConfigFiles} {cli : ConfigDocument}

theorem loadLayerState_ok {scope : ConfigScope} {layer : LoadedLayer} (h : readLayer lib (files.layer scope) = .ok layer) :
    loadLayerState lib files scope = ⟨some layer, none⟩ := by rw [loadLayerState, h]

theorem loadLayerState_issue {scope : ConfigScope} : (loadLayerState lib files scope).issue = none ↔
    ∃ layer, readLayer lib (files.layer scope) = .ok layer := by
  rw [loadLayerState]
  cases readLayer lib (files.layer scope) with
  | ok layer => simp
  | error e => simp

/-- A pair of files opens as ready where both layers read and resolve. -/
theorem openFiles_ready {runtime : ConfigRuntime} :
    ConfigRuntime.openFiles lib files cli = .ok runtime ∧ runtime.status.ready = true ↔
      ∃ user, readLayer lib files.user = .ok user ∧ ∃ project, readLayer lib files.project = .ok project ∧
        Resolves lib.toConfigLibrary .builtIn user.document project.document cli ∧ runtime = readyRuntime cli user project := by
  have hready : ∀ r : ConfigRuntime, r.status.ready = true ↔ r.user.issue = none ∧ r.project.issue = none ∧ r.lastValid.isSome = true := by
    intro r
    simp only [ConfigRuntime.status, Bool.and_eq_true, List.isEmpty_iff, List.append_eq_nil_iff, Option.toList_eq_nil_iff, and_assoc]
  have hopen : ∀ r : ConfigRuntime, ConfigRuntime.openFiles lib files cli = .ok r ↔ cli.ValidLayer ∧
      r = ⟨.builtIn, cli,
        (resolveIfValid lib files .builtIn cli (loadLayerState lib files .user) (loadLayerState lib files .project)).2.1,
        (resolveIfValid lib files .builtIn cli (loadLayerState lib files .user) (loadLayerState lib files .project)).2.2,
        (resolveIfValid lib files .builtIn cli (loadLayerState lib files .user) (loadLayerState lib files .project)).1⟩ := by
    intro r
    simp only [ConfigRuntime.openFiles, bind_ok, exists_unit, ConfigDocument.validateLayer_ok, builtIn_validLayer, true_and, pure,
      Except.pure, Except.ok.injEq, eq_comm (b := r)]
  rw [hopen, hready]
  constructor
  · rintro ⟨⟨hcli, rfl⟩, huser, hproject, hvalid⟩
    simp only [resolveIfValid] at huser hproject hvalid
    split at hvalid
    · rename_i userLayer projectLayer hu hp
      split at hvalid
      · rename_i resolved hresolved
        simp only [hu, hp, hresolved] at huser hproject
        obtain ⟨user, huserRead⟩ := loadLayerState_issue.mp huser
        obtain ⟨project, hprojectRead⟩ := loadLayerState_issue.mp hproject
        rw [loadLayerState_ok huserRead, Option.some.injEq] at hu
        rw [loadLayerState_ok hprojectRead, Option.some.injEq] at hp
        subst hu hp
        obtain ⟨hresolves, rfl⟩ := resolveDocuments_ok.mp hresolved
        refine ⟨user, huserRead, project, hprojectRead, hresolves, ?_⟩
        simp only [resolveIfValid, loadLayerState_ok huserRead, loadLayerState_ok hprojectRead, hresolved, readyRuntime]
      · split at hvalid <;> cases hvalid
    · cases hvalid
  · rintro ⟨user, huserRead, project, hprojectRead, hresolves, rfl⟩
    have hresolved := resolveDocuments_ok.mpr ⟨hresolves, rfl⟩
    have huser : loadLayerState lib files .user = ⟨some user, none⟩ := loadLayerState_ok huserRead
    have hproject : loadLayerState lib files .project = ⟨some project, none⟩ := loadLayerState_ok hprojectRead
    refine ⟨⟨hresolves.cliLayer, ?_⟩, rfl, rfl, rfl⟩
    simp only [resolveIfValid, huser, hproject, hresolved, readyRuntime]

end Ready

/-! ## Changes -/

theorem mem_changedPaths {before after : OrdMap String ConfigValue} {path : String} :
    path ∈ changedPaths before after ↔ before.get path ≠ after.get path := by
  simp only [changedPaths, List.mem_filter, inOrder, Finset.mem_sort, List.mem_toFinset, List.mem_append, decide_eq_true_eq,
    and_iff_right_iff_imp]
  intro hne
  by_contra hnone
  rw [not_or, OrdMap.mem_keys, OrdMap.mem_keys, not_exists, not_exists] at hnone
  rw [Option.eq_none_iff_forall_ne_some.mpr hnone.1, Option.eq_none_iff_forall_ne_some.mpr hnone.2] at hne
  exact hne rfl

theorem diffDocuments_nil {before after : ConfigDocument} {changes : List ConfigChange} (h : diffDocuments before after = .ok changes) :
    changes = [] ↔ before.flatten = after.flatten := by
  have hlength := mapM_length _ h
  constructor
  · rintro rfl
    refine OrdMap.ext_get fun path => ?_
    by_contra hne
    have hmem := mem_changedPaths.mpr hne
    rw [List.eq_nil_of_length_eq_zero hlength.symm] at hmem
    cases hmem
  · intro hsame
    refine List.eq_nil_of_length_eq_zero (hlength.trans ?_)
    rw [List.length_eq_zero_iff, List.eq_nil_iff_forall_not_mem]
    intro path hmem
    exact mem_changedPaths.mp hmem (by rw [hsame])

/-- Every path of a valid layer is in the schema. -/
theorem ConfigDocument.ValidLayer.entry {document : ConfigDocument} (h : document.ValidLayer) {path : String} {value : ConfigValue}
    (hget : document.flatten.get path = some value) : ∃ entry, requireSchemaEntry path = .ok entry := by
  have hfield := h.fields _ ((ConfigDocument.get_flatten h.plainIds).mp hget)
  simp only [validateField, bind_ok] at hfield
  exact hfield.imp fun _ hentry => hentry.1

theorem diffDocuments_isOk {before after : ConfigDocument} (h : before.ValidLayer) (h' : after.ValidLayer) :
    ∃ changes, diffDocuments before after = .ok changes := by
  refine mapM_isOk fun path hmem => ?_
  obtain ⟨entry, hentry⟩ : ∃ entry, requireSchemaEntry path = .ok entry := by
    cases hbefore : before.flatten.get path with
    | some value => exact h.entry hbefore
    | none =>
      have hne := mem_changedPaths.mp hmem
      rw [hbefore] at hne
      obtain ⟨value, hafter⟩ := Option.ne_none_iff_exists'.mp hne.symm
      exact h'.entry hafter
  rw [hentry, ok_bind]
  split
  · exact ⟨_, rfl⟩
  · exact ⟨_, rfl⟩

/-! ## Commits -/

def otherScope : ConfigScope → ConfigScope
  | .project => .user
  | _ => .project

namespace ConfigFiles

/-- The files with a layer replaced, and the layer it was kept where there was one. -/
def replaced (files : ConfigFiles) (scope : ConfigScope) (current : LoadedLayer) (bytes : List Byte) : ConfigFiles :=
  (if current.present then files.writeBackup scope current.bytes else files).writeLayer scope bytes

variable (files : ConfigFiles) {scope : ConfigScope}

theorem layer_writeBackup (scope' : ConfigScope) (bytes : List Byte) :
    (files.writeBackup scope bytes).layer scope' = files.layer scope' := by
  unfold writeBackup
  split <;> cases scope' <;> rfl

theorem layer_writeLayer (h : scope.isWritable = true) (bytes : List Byte) :
    (files.writeLayer scope bytes).layer scope = some bytes ∧
      (files.writeLayer scope bytes).layer (otherScope scope) = files.layer (otherScope scope) := by
  cases scope with
  | builtIn => cases h
  | cli => cases h
  | user => exact ⟨rfl, rfl⟩
  | project => exact ⟨rfl, rfl⟩

theorem layer_replaced (h : scope.isWritable = true) (current : LoadedLayer) (bytes : List Byte) :
    (files.replaced scope current bytes).layer scope = some bytes ∧
      (files.replaced scope current bytes).layer (otherScope scope) = files.layer (otherScope scope) := by
  unfold replaced
  obtain ⟨hself, hother⟩ := layer_writeLayer (if current.present then files.writeBackup scope current.bytes else files) h bytes
  refine ⟨hself, hother.trans ?_⟩
  split
  · exact layer_writeBackup _ _ _
  · rfl

end ConfigFiles

section Commits

variable {lib : RuntimeLibrary} {files files' : ConfigFiles} {runtime runtime' : ConfigRuntime} {draft : ConfigDraft}

/-- What a draft is checked for over the layers of the files. -/
structure Checked (lib : RuntimeLibrary) (builtIn cli : ConfigDocument) (draft : ConfigDraft) (current other : LoadedLayer) : Prop where
  revision : current.revision = draft.baseRevision
  resolves : Resolves lib.toConfigLibrary builtIn (ConfigRuntime.draftDocuments draft other.document).1
    (ConfigRuntime.draftDocuments draft other.document).2 cli

theorem Checked.validLayer {builtIn cli : ConfigDocument} {current other : LoadedLayer} (h : Checked lib builtIn cli draft current other) :
    draft.document.ValidLayer := by
  have hresolves := h.resolves
  unfold ConfigRuntime.draftDocuments at hresolves
  split at hresolves
  · exact hresolves.projectLayer
  · exact hresolves.userLayer

theorem prepareCommit_ok {current : LoadedLayer} {changes : List ConfigChange} {text : Option String} :
    runtime.prepareCommit lib files draft = .ok (current, changes, text) ↔
      readLayer lib (files.layer draft.scope) = .ok current ∧ ∃ other, readLayer lib (files.layer (otherScope draft.scope)) = .ok other ∧
        Checked lib runtime.builtIn runtime.cli draft current other ∧ diffDocuments current.document draft.document = .ok changes ∧
        (changes = [] ∧ text = none ∨ changes ≠ [] ∧ ∃ output, draft.document.toToml lib = .ok output ∧ text = some output) := by
  -- What is done with the layers of the draft's scope and the other one.
  have hchecks : ∀ read other : LoadedLayer, (read.revision = draft.baseRevision ∧ draft.document.ValidLayer ∧
      ∃ resolved, resolveDocuments lib.toConfigLibrary runtime.builtIn (ConfigRuntime.draftDocuments draft other.document).1
        (ConfigRuntime.draftDocuments draft other.document).2 runtime.cli = .ok resolved ∧
      ∃ changes', diffDocuments read.document draft.document = .ok changes' ∧ (if changes' = [] then pure (read, changes', none)
        else do return (read, changes', some (← draft.document.toToml lib))) = .ok (current, changes, text)) ↔
      read = current ∧ Checked lib runtime.builtIn runtime.cli draft current other ∧
        diffDocuments current.document draft.document = .ok changes ∧
        (changes = [] ∧ text = none ∨ changes ≠ [] ∧ ∃ output, draft.document.toToml lib = .ok output ∧ text = some output) := by
    intro read other
    constructor
    · rintro ⟨hrevision, _, resolved, hresolved, changes', hchanges, htail⟩
      have hresolves := (resolveDocuments_ok.mp hresolved).1
      split at htail
      · rename_i hnil
        cases htail
        exact ⟨rfl, ⟨hrevision, hresolves⟩, hchanges, .inl ⟨hnil, rfl⟩⟩
      · rename_i hnil
        simp only [bind_ok, pure, Except.pure, Except.ok.injEq, Prod.mk.injEq] at htail
        obtain ⟨output, houtput, rfl, rfl, rfl⟩ := htail
        exact ⟨rfl, ⟨hrevision, hresolves⟩, hchanges, .inr ⟨hnil, output, houtput, rfl⟩⟩
    · rintro ⟨rfl, hchecked, hchanges, htext⟩
      refine ⟨hchecked.revision, hchecked.validLayer, _, resolveDocuments_ok.mpr ⟨hchecked.resolves, rfl⟩, changes, hchanges, ?_⟩
      rcases htext with ⟨rfl, rfl⟩ | ⟨hnil, output, houtput, rfl⟩
      · rfl
      · rw [if_neg hnil, houtput]
        rfl
  by_cases hscope : draft.scope = .project
  · have hcurrent : files.layer draft.scope = files.project := by rw [hscope]; rfl
    have hother : files.layer (otherScope draft.scope) = files.user := by rw [hscope]; rfl
    simp only [ConfigRuntime.prepareCommit, hcurrent, hother, if_pos hscope, bind_ok, exists_unit, require_ok,
      ConfigDocument.validateLayer_ok]
    constructor
    · rintro ⟨user, huser, project, hproject, h⟩
      obtain ⟨rfl, h⟩ := (hchecks project user).mp h
      exact ⟨hproject, user, huser, h⟩
    · rintro ⟨hproject, user, huser, h⟩
      exact ⟨user, huser, current, hproject, (hchecks current user).mpr ⟨rfl, h⟩⟩
  · have hcurrent : files.layer draft.scope = files.user := by
      unfold ConfigFiles.layer
      split
      · exact absurd ‹_› hscope
      · rfl
    have hother : files.layer (otherScope draft.scope) = files.project := by
      unfold otherScope
      split
      · exact absurd ‹_› hscope
      · rfl
    simp only [ConfigRuntime.prepareCommit, hcurrent, hother, if_neg hscope, bind_ok, exists_unit, require_ok,
      ConfigDocument.validateLayer_ok]
    constructor
    · rintro ⟨user, huser, project, hproject, h⟩
      obtain ⟨rfl, h⟩ := (hchecks user project).mp h
      exact ⟨huser, project, hproject, h⟩
    · rintro ⟨huser, project, hproject, h⟩
      exact ⟨current, huser, project, hproject, (hchecks current project).mpr ⟨rfl, h⟩⟩

theorem writeFiles_ok {environment : Environment} {scope : ConfigScope} {backup : Option (List Byte)} {bytes : List Byte}
    (h : ConfigRuntime.writeFiles environment files scope backup bytes = (.ok (), files')) :
    files' = (backup.elim files (files.writeBackup scope)).writeLayer scope bytes := by
  unfold ConfigRuntime.writeFiles at h
  cases backup with
  | none =>
    simp only at h
    split at h
    · cases h
      rfl
    · cases h
  | some old =>
    simp only at h
    by_cases hbackup : environment.backup = true
    · rw [if_pos hbackup] at h
      simp only at h
      split at h
      · cases h
        rfl
      · cases h
    · rw [if_neg hbackup] at h
      cases h

/-- Writes that fail leave both layers. -/
theorem writeFiles_error {environment : Environment} {scope : ConfigScope} {backup : Option (List Byte)} {bytes : List Byte}
    {e : ConfigRuntimeError} (h : ConfigRuntime.writeFiles environment files scope backup bytes = (.error e, files')) (scope' : ConfigScope) :
    files'.layer scope' = files.layer scope' := by
  unfold ConfigRuntime.writeFiles at h
  cases backup with
  | none =>
    simp only at h
    split at h
    · cases h
    · cases h
      rfl
  | some old =>
    simp only at h
    by_cases hbackup : environment.backup = true
    · rw [if_pos hbackup] at h
      simp only at h
      split at h
      · cases h
      · cases h
        exact ConfigFiles.layer_writeBackup _ _ _
    · rw [if_neg hbackup] at h
      cases h
      rfl

theorem writeFiles_calm (files : ConfigFiles) (scope : ConfigScope) (backup : Option (List Byte)) (bytes : List Byte) :
    (ConfigRuntime.writeFiles .calm files scope backup bytes).1 = .ok () := by
  cases backup <;> rfl

/-- What a commit that succeeds has done: nothing where nothing changed, or the writes. -/
theorem commit_ok {environment : Environment} {committed : ConfigCommit}
    (h : runtime.commit lib environment files draft false = (.ok committed, runtime', files')) :
    draft.scope.isWritable = true ∧ ∃ current changes, (runtime.prepareCommit lib files draft = .ok (current, changes, none) ∧ files' = files ∨
      ∃ text, runtime.prepareCommit lib files draft = .ok (current, changes, some text) ∧
        files' = files.replaced draft.scope current (utf8 text)) := by
  unfold ConfigRuntime.commit at h
  split at h
  · cases h
  rename_i hscope
  rw [Bool.not_eq_false] at hscope
  refine ⟨hscope, ?_⟩
  split at h
  · cases h
  split at h
  · cases h
  · rename_i current changes hprepare
    cases h
    exact ⟨current, changes, .inl ⟨hprepare, rfl⟩⟩
  · rename_i current changes text hprepare
    rw [if_neg (by decide)] at h
    refine ⟨current, changes, .inr ⟨text, hprepare, ?_⟩⟩
    split at h
    · cases h
    rename_i written hwritten
    cases h
    rw [writeFiles_ok hwritten, ConfigFiles.replaced]
    split <;> rfl

/-- A commit that succeeds has checked the draft over the layers, and has written its text
    unless the draft has the fields of its layer. -/
theorem commit_cases {environment : Environment} {committed : ConfigCommit}
    (h : runtime.commit lib environment files draft false = (.ok committed, runtime', files')) :
    draft.scope.isWritable = true ∧ ∃ current, readLayer lib (files.layer draft.scope) = .ok current ∧
      ∃ other, readLayer lib (files.layer (otherScope draft.scope)) = .ok other ∧ Checked lib runtime.builtIn runtime.cli draft current other ∧
      (current.document.flatten = draft.document.flatten ∧ files' = files ∨ current.document.flatten ≠ draft.document.flatten ∧
        ∃ text, draft.document.toToml lib = .ok text ∧ files' = files.replaced draft.scope current (utf8 text)) := by
  obtain ⟨hscope, current, changes, ⟨hprepare, hfiles⟩ | ⟨text, hprepare, hfiles⟩⟩ := commit_ok h
  · obtain ⟨hcurrent, other, hother, hchecked, hchanges, ⟨hnil, _⟩ | ⟨_, _, _, hnone⟩⟩ := prepareCommit_ok.mp hprepare
    · exact ⟨hscope, current, hcurrent, other, hother, hchecked, .inl ⟨(diffDocuments_nil hchanges).mp hnil, hfiles⟩⟩
    · cases hnone
  · obtain ⟨hcurrent, other, hother, hchecked, hchanges, ⟨_, hsome⟩ | ⟨hchanged, output, htoml, heq⟩⟩ := prepareCommit_ok.mp hprepare
    · cases hsome
    · cases heq
      exact ⟨hscope, current, hcurrent, other, hother, hchecked,
        .inr ⟨fun hflat => hchanged ((diffDocuments_nil hchanges).mpr hflat), text, htoml, hfiles⟩⟩

/-- Where nothing stands in its way, a commit succeeds with what it prepared. -/
theorem commit_calm (hscope : draft.scope.isWritable = true) :
    (∃ committed, (runtime.commit lib .calm files draft false).1 = .ok committed) ↔ ∃ prepared, runtime.prepareCommit lib files draft = .ok prepared := by
  unfold ConfigRuntime.commit
  rw [if_neg (by simp [hscope]), if_neg (by decide)]
  constructor
  · intro ⟨committed, h⟩
    split at h
    · cases h
    · exact ⟨_, ‹_›⟩
    · exact ⟨_, ‹_›⟩
  · rintro ⟨⟨current, changes, text⟩, hprepare⟩
    rw [hprepare]
    cases text with
    | none => exact ⟨_, rfl⟩
    | some text =>
      have hwrite := writeFiles_calm files draft.scope (if current.present then some current.bytes else none) (utf8 text)
      simp only [Bool.false_eq_true, if_false]
      split
      · rename_i hwritten
        rw [hwritten] at hwrite
        cases hwrite
      · exact ⟨_, rfl⟩

/-- The layers of a ready runtime, by the scope of a draft. -/
theorem ready_layers {cli : ConfigDocument} {scope : ConfigScope} (hopen : ConfigRuntime.openFiles lib files cli = .ok runtime)
    (hready : runtime.status.ready = true) (hscope : scope.isWritable = true) :
    runtime.builtIn = .builtIn ∧ runtime.cli = cli ∧ ∃ current, readLayer lib (files.layer scope) = .ok current ∧
      runtime.state scope = .ok ⟨some current, none⟩ ∧ ∃ other, readLayer lib (files.layer (otherScope scope)) = .ok other ∧
      (if scope = .project then runtime.user else runtime.project).current = some other := by
  obtain ⟨user, huser, project, hproject, _, rfl⟩ := openFiles_ready.mp ⟨hopen, hready⟩
  cases scope with
  | builtIn => cases hscope
  | cli => cases hscope
  | user => exact ⟨rfl, rfl, user, huser, rfl, project, hproject, rfl⟩
  | project => exact ⟨rfl, rfl, project, hproject, rfl, user, huser, rfl⟩

/-- Layers that read and resolve open as a ready runtime. -/
theorem layers_ready {cli : ConfigDocument} {scope : ConfigScope} {revision : ConfigRevision} {current other : LoadedLayer}
    (hscope : scope.isWritable = true) (hcurrent : readLayer lib (files.layer scope) = .ok current)
    (hother : readLayer lib (files.layer (otherScope scope)) = .ok other)
    (hresolves : Resolves lib.toConfigLibrary .builtIn (ConfigRuntime.draftDocuments ⟨scope, revision, current.document⟩ other.document).1
      (ConfigRuntime.draftDocuments ⟨scope, revision, current.document⟩ other.document).2 cli) :
    ∃ fresh, ConfigRuntime.openFiles lib files cli = .ok fresh ∧ fresh.status.ready = true ∧
      fresh.targetDocument scope = .ok current.document := by
  cases scope with
  | builtIn => cases hscope
  | cli => cases hscope
  | user =>
    obtain ⟨hopen, hready⟩ := openFiles_ready.mpr ⟨current, hcurrent, other, hother, hresolves, rfl⟩
    exact ⟨_, hopen, hready, rfl⟩
  | project =>
    obtain ⟨hopen, hready⟩ := openFiles_ready.mpr ⟨other, hother, current, hcurrent, hresolves, rfl⟩
    exact ⟨_, hopen, hready, rfl⟩

theorem Checked.normalized {builtIn cli document : ConfigDocument} {current other : LoadedLayer}
    (h : Checked lib builtIn cli draft current other) (hroutes : draft.document.normalizeRoutes = .ok document) (hlayer : document.ValidLayer) :
    Resolves lib.toConfigLibrary builtIn (ConfigRuntime.draftDocuments ⟨draft.scope, draft.baseRevision, document⟩ other.document).1
      (ConfigRuntime.draftDocuments ⟨draft.scope, draft.baseRevision, document⟩ other.document).2 cli := by
  have hresolves := h.resolves
  have hsame := normalizeRoutes_same hroutes
  unfold ConfigRuntime.draftDocuments at hresolves ⊢
  by_cases hscope : draft.scope = .project
  · simp only [if_pos hscope] at hresolves ⊢
    exact hresolves.same (.refl _) hsame hresolves.userLayer hlayer
  · simp only [if_neg hscope] at hresolves ⊢
    exact hresolves.same hsame (.refl _) hlayer hresolves.projectLayer

theorem validateDraft_ok {current other : LoadedLayer} (hstate : runtime.state draft.scope = .ok ⟨some current, none⟩)
    (hother : (if draft.scope = .project then runtime.user else runtime.project).current = some other)
    (hlayer : current.document.ValidLayer) :
    (∃ changes, runtime.validateDraft lib.toConfigLibrary draft = .ok changes) ↔
      Checked lib runtime.builtIn runtime.cli draft current other := by
  have hdraft : (∃ resolved, runtime.resolveDraft lib.toConfigLibrary draft = .ok resolved) ↔
      Checked lib runtime.builtIn runtime.cli draft current other := by
    simp only [ConfigRuntime.resolveDraft, hstate, hother, okOr_some, ok_bind, bind_ok, exists_unit, require_ok,
      ConfigDocument.validateLayer_ok]
    constructor
    · rintro ⟨resolved, hrevision, _, hresolved⟩
      exact ⟨hrevision, (resolveDocuments_ok.mp hresolved).1⟩
    · intro h
      exact ⟨_, h.revision, h.validLayer, resolveDocuments_ok.mpr ⟨h.resolves, rfl⟩⟩
  rw [← hdraft]
  simp only [ConfigRuntime.validateDraft, hstate, okOr_some, ok_bind, bind_ok]
  constructor
  · rintro ⟨_, resolved, hresolved, _⟩
    exact ⟨resolved, hresolved⟩
  · intro h
    have hchecked := hdraft.mp h
    obtain ⟨changes, hchanges⟩ := diffDocuments_isOk hlayer hchecked.validLayer
    obtain ⟨resolved, hresolved⟩ := h
    exact ⟨changes, resolved, hresolved, hchanges⟩

/-- A fresh runtime over the files of a commit that succeeds is ready and has the draft's
    document, the other layer is as it was, and a draft that validates commits. -/
structure CommitReadable (lib : RuntimeLibrary) (files : ConfigFiles) (cli : ConfigDocument) (runtime : ConfigRuntime)
    (draft : ConfigDraft) : Prop where
  readable : ∀ environment committed runtime' files', runtime.commit lib environment files draft false = (.ok committed, runtime', files') →
    (∃ fresh document, ConfigRuntime.openFiles lib files' cli = .ok fresh ∧ fresh.status.ready = true ∧
      fresh.targetDocument draft.scope = .ok document ∧ draft.document.normalizeRoutes = .ok document) ∧
    files'.layer (otherScope draft.scope) = files.layer (otherScope draft.scope)
  accepted : ∀ changes, runtime.validateDraft lib.toConfigLibrary draft = .ok changes →
    ∃ committed, (runtime.commit lib .calm files draft false).1 = .ok committed

/-- A document that has the fields of the layer is the layer's; another has a text, with
    valid normalized routes, that is not longer than a config file may be. -/
def Storable (lib : RuntimeLibrary) (current document : ConfigDocument) : Prop :=
  if current.flatten = document.flatten then document.normalizeRoutes = .ok current
  else ∃ normalized output, document.normalizeRoutes = .ok normalized ∧ normalized.ValidLayer ∧
    lib.toml.print normalized = .ok output ∧ byteLen (ConfigDocument.endLine output) ≤ maxConfigFileBytes

theorem targetDocument_state {scope : ConfigScope} {current : LoadedLayer} (h : runtime.state scope = .ok ⟨some current, none⟩) :
    runtime.targetDocument scope = .ok current.document := by
  rw [ConfigRuntime.targetDocument, h]
  rfl

theorem targetDocument_writable {scope : ConfigScope} {document : ConfigDocument} (h : runtime.targetDocument scope = .ok document) :
    scope.isWritable = true := by
  cases scope with
  | builtIn => cases h
  | cli => cases h
  | user => rfl
  | project => rfl

theorem validateDraft_writable {changes : List ConfigChange} (h : runtime.validateDraft lib.toConfigLibrary draft = .ok changes) :
    draft.scope.isWritable = true := by
  simp only [ConfigRuntime.validateDraft, bind_ok] at h
  obtain ⟨_, _, state, hstate, _⟩ := h
  cases hscope : draft.scope with
  | builtIn => rw [hscope] at hstate; cases hstate
  | cli => rw [hscope] at hstate; cases hstate
  | user => rfl
  | project => rfl

/-- What a commit needs of a storable document: no text where nothing changed, or one. -/
theorem Storable.prepares {builtIn cli : ConfigDocument} {current other : LoadedLayer} (hbuiltIn : runtime.builtIn = builtIn)
    (hcli : runtime.cli = cli) (h : Storable lib current.document draft.document)
    (hcurrent : readLayer lib (files.layer draft.scope) = .ok current)
    (hother : readLayer lib (files.layer (otherScope draft.scope)) = .ok other) (hchecked : Checked lib builtIn cli draft current other) :
    ∃ prepared, runtime.prepareCommit lib files draft = .ok prepared := by
  obtain ⟨changes, hchanges⟩ := diffDocuments_isOk (readLayer_document hcurrent).1 hchecked.validLayer
  subst hbuiltIn hcli
  by_cases hflat : current.document.flatten = draft.document.flatten
  · exact ⟨_, prepareCommit_ok.mpr ⟨hcurrent, other, hother, hchecked, hchanges, .inl ⟨(diffDocuments_nil hchanges).mpr hflat, rfl⟩⟩⟩
  · rw [Storable, if_neg hflat] at h
    obtain ⟨normalized, output, hroutes, hlayer, hprint, _⟩ := h
    exact ⟨_, prepareCommit_ok.mpr ⟨hcurrent, other, hother, hchecked, hchanges, .inr ⟨fun hnil => hflat ((diffDocuments_nil hchanges).mp hnil),
      _, toToml_ok.mpr ⟨normalized, hroutes, hlayer, output, hprint, rfl⟩, rfl⟩⟩⟩

/-- A commit leaves what it says for each draft that validates where the document is
    storable over the layer on disk. -/
theorem commit_readable (hlib : lib.toml.Lawful) {cli : ConfigDocument} (hopen : ConfigRuntime.openFiles lib files cli = .ok runtime)
    (hready : runtime.status.ready = true) (draft : ConfigDraft) :
    CommitReadable lib files cli runtime draft ↔
      ∀ changes current, runtime.validateDraft lib.toConfigLibrary draft = .ok changes →
        runtime.targetDocument draft.scope = .ok current → Storable lib current draft.document := by
  constructor
  · intro h changes document hvalid htarget
    have hscope := targetDocument_writable htarget
    obtain ⟨_, _, current, hcurrent, hstate, _⟩ := ready_layers hopen hready hscope
    rw [targetDocument_state hstate] at htarget
    cases htarget
    obtain ⟨committed, hok⟩ := h.accepted changes hvalid
    have hcommit : runtime.commit lib .calm files draft false = (.ok committed, (runtime.commit lib .calm files draft false).2.1,
        (runtime.commit lib .calm files draft false).2.2) := by rw [← hok]
    obtain ⟨⟨fresh, document, hfresh, hfreshReady, hdocument, hroutes⟩, _⟩ := h.readable _ _ _ _ hcommit
    obtain ⟨_, _, read, hread, hreadState, _⟩ := ready_layers hfresh hfreshReady hscope
    rw [targetDocument_state hreadState] at hdocument
    cases hdocument
    obtain ⟨_, current', hcurrent', _, _, _, hdone⟩ := commit_cases hcommit
    obtain rfl : current' = current := Except.ok.inj (hcurrent'.symm.trans hcurrent)
    rcases hdone with ⟨hflat, hfiles⟩ | ⟨hflat, text, htoml, hfiles⟩
    · -- Nothing changed: the layer that the fresh runtime reads is the one before.
      rw [hfiles, hcurrent] at hread
      cases hread
      rw [Storable, if_pos hflat]
      exact hroutes
    · rw [hfiles, (ConfigFiles.layer_replaced files hscope _ _).1] at hread
      have hlen := ((readLayer_toToml hlib htoml).mp hread).1
      obtain ⟨normalized, hnormalized, hlayer, output, hprint, rfl⟩ := toToml_ok.mp htoml
      rw [Storable, if_neg hflat]
      exact ⟨normalized, output, hnormalized, hlayer, hprint, hlen⟩
  · intro hstorable
    refine ⟨fun environment committed runtime' files' hcommit => ?_, fun changes hvalid => ?_⟩
    · obtain ⟨hscope, current, hcurrent, other, hother, hchecked, hdone⟩ := commit_cases hcommit
      obtain ⟨hbuiltIn, hcli, current', hcurrent', hstate, other', hother', hotherState⟩ := ready_layers hopen hready hscope
      obtain rfl : current' = current := Except.ok.inj (hcurrent'.symm.trans hcurrent)
      obtain rfl : other' = other := Except.ok.inj (hother'.symm.trans hother)
      obtain ⟨_, hvalid⟩ := (validateDraft_ok hstate hotherState (readLayer_document hcurrent).1).mpr hchecked
      have hstored := hstorable _ _ hvalid (targetDocument_state hstate)
      rcases hdone with ⟨hflat, rfl⟩ | ⟨hflat, text, htoml, rfl⟩
      · rw [Storable, if_pos hflat] at hstored
        exact ⟨⟨runtime, _, hopen, hready, targetDocument_state hstate, hstored⟩, rfl⟩
      · rw [hbuiltIn, hcli] at hchecked
        rw [Storable, if_neg hflat] at hstored
        obtain ⟨normalized, output, hroutes, hlayer, hprint, hlen⟩ := hstored
        obtain rfl : text = ConfigDocument.endLine output :=
          Except.ok.inj (htoml.symm.trans (toToml_ok.mpr ⟨normalized, hroutes, hlayer, output, hprint, rfl⟩))
        obtain ⟨hself, hrest⟩ := ConfigFiles.layer_replaced files hscope current' (utf8 (ConfigDocument.endLine output))
        have hread : readLayer lib (some (utf8 (ConfigDocument.endLine output))) = .ok ⟨normalized, _, _, true⟩ :=
          (readLayer_toToml hlib htoml).mpr ⟨hlen, hroutes, rfl⟩
        obtain ⟨fresh, hfresh, hfreshReady, htarget⟩ := layers_ready hscope (hself ▸ hread) (hrest ▸ hother)
          (hchecked.normalized hroutes hlayer)
        exact ⟨⟨fresh, normalized, hfresh, hfreshReady, htarget, hroutes⟩, hrest⟩
    · have hscope := validateDraft_writable hvalid
      obtain ⟨_, _, current, hcurrent, hstate, other, hother, hotherState⟩ := ready_layers hopen hready hscope
      have hchecked := (validateDraft_ok hstate hotherState (readLayer_document hcurrent).1).mp ⟨changes, hvalid⟩
      exact (commit_calm hscope).mpr ((hstorable _ _ hvalid (targetDocument_state hstate)).prepares rfl rfl hcurrent hother hchecked)

end Commits

def noFiles : ConfigFiles := ⟨none, none, none, none⟩

/-- The draft of a document for a user layer without a file. -/
def userDraft (document : ConfigDocument) : ConfigDraft := ⟨.user, utf8 missingLayerText, document⟩

section Drafts

variable {document : ConfigDocument}

/-- The layer of no file, for these libraries. -/
def noLayer : LoadedLayer := ⟨.empty, utf8 missingLayerText, [], false⟩

theorem noFiles_ready (document : ConfigDocument) :
    ConfigRuntime.openFiles (documentLibrary document) noFiles .empty = .ok (readyRuntime .empty noLayer noLayer) ∧
      (readyRuntime .empty noLayer noLayer).status.ready = true :=
  openFiles_ready.mpr ⟨noLayer, rfl, noLayer, rfl, resolveDocuments_isOk.mp ⟨resolvedState .builtIn .empty .empty .empty,
    show resolveDocuments templateLibrary .builtIn .empty .empty .empty = _ from resolveDocuments_accepts (by decide +kernel)⟩, rfl⟩

/-- One profile of a bundled template, for a layer without a file. -/
theorem commit_readable_template : CommitReadable (documentLibrary (wideDocument ["work"] "deepseek")) noFiles .empty
    (readyRuntime .empty noLayer noLayer) (userDraft (wideDocument ["work"] "deepseek")) := by
  obtain ⟨hopen, hready⟩ := noFiles_ready (wideDocument ["work"] "deepseek")
  refine (commit_readable (documentToml_lawful _ _) hopen hready _).mpr fun changes current _ hcurrent => ?_
  obtain rfl : .empty = current := Except.ok.inj hcurrent
  rw [Storable, if_neg (by decide +kernel)]
  exact ⟨wideDocument ["work"] "deepseek", wideText (wideDocument ["work"] "deepseek"), by decide +kernel,
    ConfigDocument.validateLayer_ok.mp (by decide +kernel), documentToml_print _ _, by decide +kernel⟩

variable {ids : List String} {template : String}

theorem endLine_long (output : String) : byteLen output ≤ byteLen (ConfigDocument.endLine output) := by
  unfold ConfigDocument.endLine
  split
  · exact le_refl _
  · rw [byteLen_append]
    exact Nat.le_add_right _ _

/-- Enough profiles of a template that is not bundled: the draft commits, and then the user
    layer is longer than a config file may be, so that no runtime is ready. -/
theorem wide_unreadable (hids : ∀ id ∈ ids, IdText id) (hnodup : ids.Nodup) (htemplate : ProviderText maxConfigStringBytes template)
    (hcustom : catalogTemplate template = none) (hlong : maxConfigFileBytes ≤ ids.length * byteLen template) :
    ∃ committed runtime' files', (readyRuntime .empty noLayer noLayer).commit (documentLibrary (wideDocument ids template)) .calm noFiles
        (userDraft (wideDocument ids template)) false = (.ok committed, runtime', files') ∧
      ∀ fresh, ConfigRuntime.openFiles (documentLibrary (wideDocument ids template)) files' .empty = .ok fresh → fresh.status.ready = false := by
  have hsome : ids ≠ [] := by
    rintro rfl
    rw [List.length_nil, Nat.zero_mul] at hlong
    exact absurd hlong (by decide)
  have hchecked : Checked (documentLibrary (wideDocument ids template)) .builtIn .empty (userDraft (wideDocument ids template)) noLayer noLayer :=
    ⟨rfl, wide_resolves hids htemplate hcustom⟩
  have htoml : (wideDocument ids template).toToml (documentLibrary (wideDocument ids template)) =
      .ok (ConfigDocument.endLine (wideText (wideDocument ids template))) :=
    toToml_ok.mpr ⟨_, wide_normalized, wide_validLayer hids htemplate, _, documentToml_print _ _, rfl⟩
  obtain ⟨changes, hchanges⟩ := diffDocuments_isOk empty_validLayer (wide_validLayer hids htemplate)
  have hflat := wide_changed hids htemplate hsome
  have hcurrent : readLayer (documentLibrary (wideDocument ids template)) (noFiles.layer .user) = .ok noLayer := rfl
  have hother : readLayer (documentLibrary (wideDocument ids template)) (noFiles.layer .project) = .ok noLayer := rfl
  have hprepare : (readyRuntime .empty noLayer noLayer).prepareCommit (documentLibrary (wideDocument ids template)) noFiles
      (userDraft (wideDocument ids template)) =
      .ok (noLayer, changes, some (ConfigDocument.endLine (wideText (wideDocument ids template)))) :=
    prepareCommit_ok.mpr ⟨hcurrent, noLayer, hother, hchecked, hchanges,
      .inr ⟨fun hnil => hflat ((diffDocuments_nil hchanges).mp hnil), _, htoml, rfl⟩⟩
  obtain ⟨committed, hok⟩ := (commit_calm rfl).mpr ⟨_, hprepare⟩
  generalize hcommit : (readyRuntime .empty noLayer noLayer).commit (documentLibrary (wideDocument ids template)) .calm noFiles
    (userDraft (wideDocument ids template)) false = result at hok
  obtain ⟨outcome, runtime', files'⟩ := result
  obtain rfl : outcome = .ok committed := hok
  refine ⟨committed, runtime', files', rfl, fun fresh hfresh => Bool.eq_false_iff.mpr fun hready => ?_⟩
  obtain ⟨_, current, hread, _, _, _, hdone⟩ := commit_cases hcommit
  obtain rfl : noLayer = current := Except.ok.inj (hcurrent.symm.trans hread)
  rcases hdone with ⟨hsame, _⟩ | ⟨_, text, htext, rfl⟩
  · exact hflat hsame
  · obtain rfl := Except.ok.inj (htoml.symm.trans htext)
    have hscope : (userDraft (wideDocument ids template)).scope.isWritable = true := rfl
    obtain ⟨_, _, layer, hlayer, _⟩ := ready_layers hfresh hready hscope
    rw [(ConfigFiles.layer_replaced noFiles hscope _ _).1] at hlayer
    have hlen := ((readLayer_toToml (documentToml_lawful _ _) htoml).mp hlayer).1
    have hend := endLine_long (wideText (wideDocument ids template))
    have hwide : ids.length * byteLen template < byteLen (wideText (wideDocument ids template)) := wideText_long hnodup
    omega

end Drafts

/-- Two thousand one hundred ids. -/
def manyIds : List String := (List.range 2100).map Nat.repr

/-- A template of 512 characters. -/
def longTemplate : String := String.ofList (List.replicate 512 'x')

theorem manyIds_valid : (∀ id ∈ manyIds, IdText id) ∧ manyIds.Nodup ∧ manyIds.length = 2100 := by
  refine ⟨?_, ?_, by rw [manyIds, List.length_map, List.length_range]⟩
  · intro id hid
    obtain ⟨n, hn, rfl⟩ := List.mem_map.mp hid
    exact IdText.repr (lt_trans (List.mem_range.mp hn) (by norm_num))
  · refine List.Nodup.map (fun m n h => ?_) List.nodup_range
    have hdigits : Nat.toDigits 10 m = Nat.toDigits 10 n := String.ofList_injective h
    rw [← Nat.ofDigitChars_ten_toDigits (n := m), hdigits, Nat.ofDigitChars_ten_toDigits]

theorem longTemplate_valid : ProviderText maxConfigStringBytes longTemplate ∧ catalogTemplate longTemplate = none ∧
    byteLen longTemplate = 512 := by
  obtain ⟨htext, hbytes⟩ := plainText_valid (c := 'x') (n := 512) (by decide) (by decide) (le_refl maxConfigStringBytes)
  exact ⟨htext, by decide +kernel, hbytes⟩

/-- The draft of these profiles, over no files. -/
theorem oversized_commit :
    let document := wideDocument manyIds longTemplate
    (documentLibrary document).toml.Lawful ∧
      ConfigRuntime.openFiles (documentLibrary document) noFiles .empty = .ok (readyRuntime .empty noLayer noLayer) ∧
      (readyRuntime .empty noLayer noLayer).status.ready = true ∧
      ∃ committed runtime' files', (readyRuntime .empty noLayer noLayer).commit (documentLibrary document) .calm noFiles
          (userDraft document) false = (.ok committed, runtime', files') ∧
        ∀ fresh, ConfigRuntime.openFiles (documentLibrary document) files' .empty = .ok fresh → fresh.status.ready = false := by
  intro document
  obtain ⟨hids, hnodup, hlength⟩ := manyIds_valid
  obtain ⟨htext, hcustom, hbytes⟩ := longTemplate_valid
  have hlong : maxConfigFileBytes ≤ manyIds.length * byteLen longTemplate := by
    rw [hlength, hbytes]
    decide
  obtain ⟨hopen, hready⟩ := noFiles_ready document
  exact ⟨documentToml_lawful _ _, hopen, hready, wide_unreadable hids hnodup htext hcustom hlong⟩

end GreenTyper.Config
