/-
  GreenTyper.Config.Changes — what a commit and a restore report as changed
  (`diff_documents`, `commit` and `restore_backup` of `config/runtime.rs`).

  Changes are read off two flattened maps (`diffDocuments_real`). A document is more than
  its map: an object without fields is in no map, nor is the order of the windows. A draft
  that differs from its layer in these alone is answered as unchanged and not written
  (`a_deletion_is_not_written`). A restore takes its changes from an empty document, for
  it does not parse the file that it replaces (`a_restore_hides_changes`).
  `commit_reports_changes` says when the reports are what changed.
-/

import GreenTyper.Config.Assign
import GreenTyper.Config.Commit
import GreenTyper.Config.Merge

namespace GreenTyper.Config

open Lib Provider Usage

/-! ## Objects -/

inductive ConfigObjectKind where
  | providerProfile
  | modelPreset
  | priceSchedule
  | usageWindow
  deriving DecidableEq

structure ConfigObjectRef where
  kind : ConfigObjectKind
  id : String
  deriving DecidableEq

/-- `object_path`. -/
def ConfigObjectKind.objectPath : ConfigObjectKind → String → String
  | .providerProfile, id => providerPath id
  | .modelPreset, id => presetPath id
  | .priceSchedule, id => schedulePath id
  | .usageWindow, id => windowPath id

namespace ConfigDocument

/-- `delete_object`, with the document after it. -/
def deleteObject (document : ConfigDocument) (object : ConfigObjectRef) : Except ConfigRuntimeError Unit × ConfigDocument :=
  let unknown : ConfigRuntimeError := .unknownObject (object.kind.objectPath object.id)
  match validateId "<id>" object.id with
  | .error e => (.error e, document)
  | .ok () =>
    match object.kind with
    | .providerProfile =>
      if document.providers.contains object.id then
        let document := { document with providers := document.providers.erase object.id }
        (document.validateLayer, document)
      else (.error unknown, document)
    | .modelPreset =>
      if document.modelPresets.contains object.id then
        let document := { document with modelPresets := document.modelPresets.erase object.id }
        (document.validateLayer, document)
      else (.error unknown, document)
    | .priceSchedule =>
      if document.priceSchedules.contains object.id then
        let document := { document with priceSchedules := document.priceSchedules.erase object.id }
        (document.validateLayer, document)
      else (.error unknown, document)
    | .usageWindow =>
      if document.windows.any (·.id = object.id) then
        let windows := document.windows.eraseP (·.id = object.id)
        let document := { document with stats := ⟨if windows = [] then none else some windows⟩ }
        (document.validateLayer, document)
      else (.error unknown, document)

end ConfigDocument

def ConfigDraft.deleteObject (draft : ConfigDraft) (object : ConfigObjectRef) : Except ConfigRuntimeError Unit × ConfigDraft :=
  match draft.document.deleteObject object with
  | (result, document) => (result, { draft with document := document })

/-! ## Credential paths -/

theorem schema_credential : ∀ entry ∈ configSchema,
    (entry.credentialReference = true ↔ entry.pathPattern = ["providers", "<id>", "credential"]) := by
  decide

/-- The paths of credential references are those of the profiles' field `credential`. -/
theorem credentialReference_iff {path : String} {descriptor : ConfigSchemaEntry} (h : requireSchemaEntry path = .ok descriptor) :
    descriptor.credentialReference = true ↔ ∃ id, segments path = ["providers", id, "credential"] := by
  obtain ⟨hmem, hmatch, _⟩ := requireSchemaEntry_ok h
  rw [schema_credential descriptor hmem]
  constructor
  · intro hpattern
    rw [hpattern, pathMatches_iff] at hmatch
    simp [List.forall₂_cons_left_iff] at hmatch
    exact hmatch
  · intro hpath
    obtain ⟨id, hid⟩ := hpath
    rw [hid] at hmatch
    have hall : ∀ entry ∈ configSchema, entry.pathPattern ≠ ["providers", "<id>", "credential"] →
        pathMatches entry.pathPattern ["providers", id, "credential"] = false := by
      simp only [configSchema, List.forall_mem_cons, List.not_mem_nil, false_implies, implies_true, and_true]
      simp [pathMatches]
    by_contra hne
    rw [hall descriptor hmem hne] at hmatch
    cases hmatch

/-! ## What a list of changes says -/

/-- The change of a path whose value is another one after: the values, or of a credential whether there was one and is one. -/
structure ConfigChange.Reports (change : ConfigChange) (before after : ConfigDocument) : Prop where
  changed : before.flatten.get change.path ≠ after.flatten.get change.path
  entry : ∃ descriptor, requireSchemaEntry change.path = .ok descriptor ∧ change.timing = descriptor.timing ∧
    if descriptor.credentialReference = true then
      change.before = none ∧ change.after = none ∧
        change.credentialBinding = some ((before.flatten.get change.path).isSome, (after.flatten.get change.path).isSome)
    else
      change.before = before.flatten.get change.path ∧ change.after = after.flatten.get change.path ∧
        change.credentialBinding = none

/-- The changes are those from one document to the other, one for each changed path in order, and none only if the
    documents are the same. -/
structure RealChanges (before after : ConfigDocument) (changes : List ConfigChange) : Prop where
  ordered : (changes.map (·.path)).Pairwise (· < ·)
  real : ∀ change, change ∈ changes ↔ change.Reports before after
  unchanged : changes = [] → before = after

section Diff

variable {before after after' : ConfigDocument} {changes : List ConfigChange}

theorem changedPaths_ordered (before after : OrdMap String ConfigValue) : (changedPaths before after).Pairwise (· < ·) :=
  (Finset.sortedLT_sort _).pairwise.filter _

/-- The entry of one path. -/
theorem diffEntry_ok {path : String} {change : ConfigChange} :
    (do
      let descriptor ← requireSchemaEntry path
      let old := before.flatten.get path
      let new := after.flatten.get path
      if descriptor.credentialReference then return ⟨path, none, none, some (old.isSome, new.isSome), descriptor.timing⟩
      else return ⟨path, old, new, none, descriptor.timing⟩ : Except ConfigRuntimeError ConfigChange) = .ok change ↔
      change.path = path ∧ ∃ descriptor, requireSchemaEntry path = .ok descriptor ∧ change.timing = descriptor.timing ∧
        if descriptor.credentialReference = true then
          change.before = none ∧ change.after = none ∧
            change.credentialBinding = some ((before.flatten.get path).isSome, (after.flatten.get path).isSome)
        else change.before = before.flatten.get path ∧ change.after = after.flatten.get path ∧ change.credentialBinding = none := by
  obtain ⟨changePath, changeBefore, changeAfter, binding, timing⟩ := change
  simp only [bind_ok]
  constructor
  · intro h
    obtain ⟨descriptor, hentry, hchange⟩ := h
    by_cases hcredential : descriptor.credentialReference = true
    · rw [if_pos hcredential] at hchange
      cases hchange
      exact ⟨rfl, descriptor, hentry, rfl, by rw [if_pos hcredential]; exact ⟨rfl, rfl, rfl⟩⟩
    · rw [if_neg hcredential] at hchange
      cases hchange
      exact ⟨rfl, descriptor, hentry, rfl, by rw [if_neg hcredential]; exact ⟨rfl, rfl, rfl⟩⟩
  · intro h
    obtain ⟨rfl, descriptor, hentry, htiming, hvalues⟩ := h
    refine ⟨descriptor, hentry, ?_⟩
    by_cases hcredential : descriptor.credentialReference = true
    · rw [if_pos hcredential] at hvalues ⊢
      obtain ⟨rfl, rfl, rfl⟩ := hvalues
      cases htiming
      rfl
    · rw [if_neg hcredential] at hvalues ⊢
      obtain ⟨rfl, rfl, rfl⟩ := hvalues
      cases htiming
      rfl

theorem diffDocuments_real (h : diffDocuments before after = .ok changes) :
    (changes.map (·.path)).Pairwise (· < ·) ∧ ∀ change, change ∈ changes ↔ change.Reports before after := by
  unfold diffDocuments at h
  have hall := (mapM_ok _).mp h
  have hpaths : changes.map (·.path) = changedPaths before.flatten after.flatten := by
    refine List.ext_getElem (by rw [List.length_map, hall.length_eq]) fun i hi hi' => ?_
    rw [List.getElem_map]
    exact (diffEntry_ok.mp (hall.get hi' (by simpa using hi))).1
  refine ⟨hpaths ▸ changedPaths_ordered _ _, fun change => ?_⟩
  constructor
  · intro hmem
    obtain ⟨path, hpath, hchange⟩ := mapM_member h hmem
    obtain ⟨rfl, hentry⟩ := diffEntry_ok.mp hchange
    exact ⟨mem_changedPaths.mp hpath, hentry⟩
  · intro hreports
    obtain ⟨other, hmem, hother⟩ := mapM_value h (mem_changedPaths.mpr hreports.changed)
    have hchange := diffEntry_ok.mpr ⟨rfl, hreports.entry⟩
    rw [hother] at hchange
    cases hchange
    exact hmem

theorem reports_of_changed {path : String} {descriptor : ConfigSchemaEntry} (hne : before.flatten.get path ≠ after.flatten.get path)
    (hentry : requireSchemaEntry path = .ok descriptor) : ∃ change : ConfigChange, change.Reports before after ∧ change.path = path := by
  by_cases hcredential : descriptor.credentialReference = true
  · exact ⟨⟨path, none, none, some ((before.flatten.get path).isSome, (after.flatten.get path).isSome), descriptor.timing⟩,
      ⟨hne, descriptor, hentry, rfl, by rw [if_pos hcredential]; exact ⟨rfl, rfl, rfl⟩⟩, rfl⟩
  · exact ⟨⟨path, before.flatten.get path, after.flatten.get path, none, descriptor.timing⟩,
      ⟨hne, descriptor, hentry, rfl, by rw [if_neg hcredential]; exact ⟨rfl, rfl, rfl⟩⟩, rfl⟩

/-- Two documents that the same changes lead to from one have the same value at each path but a credential's. -/
theorem same_of_real (h : ∀ change, change ∈ changes ↔ change.Reports before after)
    (h' : ∀ change, change ∈ changes ↔ change.Reports before after') {path : String} {descriptor : ConfigSchemaEntry}
    (hentry : requireSchemaEntry path = .ok descriptor) (hcredential : descriptor.credentialReference = false) :
    after.flatten.get path = after'.flatten.get path := by
  -- A path that changes in one of the two is listed, with the value that it has in both.
  have hlisted : ∀ {a b : ConfigDocument}, (∀ change, change ∈ changes ↔ change.Reports before a) →
      (∀ change, change ∈ changes ↔ change.Reports before b) → before.flatten.get path ≠ a.flatten.get path →
      a.flatten.get path = b.flatten.get path := by
    intro a b ha hb hne
    have hreports : ConfigChange.Reports ⟨path, before.flatten.get path, a.flatten.get path, none, descriptor.timing⟩ before a :=
      ⟨hne, descriptor, hentry, rfl, by rw [hcredential]; exact ⟨rfl, rfl, rfl⟩⟩
    obtain ⟨_, other, hother, _, hvalues⟩ := (hb _).mp ((ha _).mpr hreports)
    rw [hentry] at hother
    cases hother
    rw [hcredential] at hvalues
    exact hvalues.2.1
  by_cases hne : before.flatten.get path = after.flatten.get path
  · by_cases hne' : before.flatten.get path = after'.flatten.get path
    · exact hne.symm.trans hne'
    · exact (hlisted h' h hne').symm
  · exact hlisted h h' hne

end Diff

/-! ## Routes -/

section Routes

variable {document normalized : ConfigDocument}

theorem profile_route {id name : String} {profile : ProviderProfileLayer} {read : ProviderProfileLayer → Option String}
    (h : document.PlainIds) (hget : document.providers.get id = some profile)
    (hlookup : ProviderProfileLayer.fields.lookup name = some (text read)) :
    document.flatten.get (dotted (Location.profile id).stem name) = (read profile).map .string := by
  have hplain : (Location.profile id).Plain := fun _ hid => Option.some.inj hid ▸ h.providers id (OrdMap.mem_keys.mpr ⟨profile, hget⟩)
  rw [Location.get_place h hplain]
  show (ProviderProfileLayer.fields.lookup name).bind _ = _
  rw [hlookup]
  show text read (((Location.profile id).place.find document).getD _) = _
  rw [show (Location.profile id).place.find document = some profile from hget]
  rfl

/-- A document reads like its normalized one at all paths but credentials only if it is normalized. -/
theorem normalized_of_same (h : document.ValidLayer) (h' : normalized.ValidLayer) (hroutes : document.normalizeRoutes = .ok normalized)
    (hsame : ∀ path descriptor, requireSchemaEntry path = .ok descriptor → descriptor.credentialReference = false →
      document.flatten.get path = normalized.flatten.get path) : normalized = document := by
  obtain ⟨providers, hmap, rfl⟩ := normalizeRoutes_ok.mp hroutes
  have hproviders : providers = document.providers := by
    refine OrdMap.ext_get fun id => ?_
    rcases OrdMap.get_mapM hmap id with ⟨hnone, hnone'⟩ | ⟨profile, profile', hget, hprofile, hget'⟩
    · rw [hnone, hnone']
    · have hroute : ∀ (name : String) (read : ProviderProfileLayer → Option String),
          ProviderProfileLayer.fields.lookup name = some (text read) → (segments name).length = 2 → read profile' = read profile := by
        intro name read hlookup hlength
        have hread := profile_route h.plainIds hget hlookup
        have hread' := profile_route h'.plainIds hget' hlookup
        by_contra hne
        obtain ⟨descriptor, hentry⟩ : ∃ descriptor, requireSchemaEntry (dotted (Location.profile id).stem name) = .ok descriptor := by
          cases hold : read profile with
          | some route => exact h.entry (by rw [hread, hold]; rfl)
          | none =>
            cases hnew : read profile' with
            | some route => exact h'.entry (by rw [hread', hnew]; rfl)
            | none => exact absurd (hnew.trans hold.symm) hne
        have hplain : (Location.profile id).Plain :=
          fun _ hid => Option.some.inj hid ▸ h.plainIds.providers id (OrdMap.mem_keys.mpr ⟨profile, hget⟩)
        have hcredential : descriptor.credentialReference = false := by
          rw [Bool.eq_false_iff]
          intro hreference
          obtain ⟨_, hsegments⟩ := (credentialReference_iff hentry).mp hreference
          rw [Location.segments_stem hplain] at hsegments
          have hlengths := congrArg List.length hsegments
          rw [List.length_append, hlength] at hlengths
          cases hlengths
        have hvalues := hsame _ descriptor hentry hcredential
        rw [hread, hread'] at hvalues
        exact hne (Option.map_injective (fun _ _ heq => ConfigValue.string.inj heq) hvalues.symm)
      have hresponses := hroute "routes.responses" (·.routes.responses) rfl (by decide)
      have hchat := hroute "routes.chat_completions" (·.routes.chatCompletions) rfl (by decide)
      have hmessages := hroute "routes.messages" (·.routes.messages) rfl (by decide)
      have hmodels := hroute "routes.models" (·.routes.models) rfl (by decide)
      obtain ⟨_, _, _, _, _, _, _, _, rfl⟩ := normalizeProfile_ok.mp hprofile
      simp only at hresponses hchat hmessages hmodels
      rw [hget', hget, hresponses, hchat, hmessages, hmodels]
  rw [hproviders]

end Routes

/-! ## Commits and restores -/

section Reports

variable {lib : RuntimeLibrary} {environment : Environment} {files files' : ConfigFiles} {runtime runtime' : ConfigRuntime}
  {draft : ConfigDraft} {committed : ConfigCommit}

theorem commit_prepared {dryRun : Bool}
    (h : runtime.commit lib environment files draft dryRun = (.ok committed, runtime', files')) :
    draft.scope.isWritable = true ∧ ∃ current text,
      runtime.prepareCommit lib files draft = .ok (current, committed.changes, text) ∧
        committed.written = (text.isSome && !dryRun) ∧
        ∀ output, text = some output → dryRun = false → files' = files.replaced draft.scope current (utf8 output) := by
  unfold ConfigRuntime.commit at h
  split at h
  · cases h
  rename_i hscope
  rw [Bool.not_eq_false] at hscope
  refine ⟨hscope, ?_⟩
  split at h
  · cases h
  split at h
  · cases h
  · rename_i current changes hprepare
    cases h
    exact ⟨current, none, hprepare, rfl, fun _ hsome => by cases hsome⟩
  · rename_i current changes text hprepare
    cases dryRun with
    | true =>
      cases h
      exact ⟨current, some text, hprepare, rfl, fun _ _ hdry => by cases hdry⟩
    | false =>
      rw [if_neg (by decide)] at h
      split at h
      · cases h
      rename_i written hwritten
      cases h
      refine ⟨current, some text, hprepare, rfl, fun output hsome _ => ?_⟩
      cases hsome
      rw [writeFiles_ok hwritten, ConfigFiles.replaced]
      split <;> rfl

theorem restore_prepared {scope : ConfigScope}
    (h : runtime.restoreBackup lib environment files scope = (.ok committed, runtime', files')) :
    ∃ current backup, runtime.prepareRestore lib files scope = .ok (current, backup, committed.changes) := by
  unfold ConfigRuntime.restoreBackup at h
  split at h
  · cases h
  split at h
  · cases h
  split at h
  · cases h
  rename_i current backup changes hprepare
  split at h
  · cases h
  cases h
  exact ⟨current, backup, hprepare⟩

/-- Two ways to a layer, and what is done with it. -/
theorem either_bind {c : Prop} [Decidable c] {β : Type} {m m' : Except ConfigRuntimeError LoadedLayer}
    {f : LoadedLayer → Except ConfigRuntimeError β} {b : β} (h : (if c then m >>= f else m' >>= f) = .ok b) :
    ∃ layer, f layer = .ok b := by
  by_cases hc : c
  · rw [if_pos hc] at h
    exact (bind_ok.mp h).imp fun _ hlayer => hlayer.2
  · rw [if_neg hc] at h
    exact (bind_ok.mp h).imp fun _ hlayer => hlayer.2

/-- A restore compares the backup with an empty document. -/
theorem prepareRestore_ok {scope : ConfigScope} {current backup : LoadedLayer} {changes : List ConfigChange}
    (h : runtime.prepareRestore lib files scope = .ok (current, backup, changes)) :
    readLayer lib (files.backup scope) = .ok backup ∧ diffDocuments .empty backup.document = .ok changes := by
  unfold ConfigRuntime.prepareRestore at h
  obtain ⟨replaced, hcurrent, h⟩ := bind_ok.mp h
  obtain ⟨read, hbackup, h⟩ := bind_ok.mp h
  obtain ⟨_, _, h⟩ := bind_ok.mp h
  obtain ⟨user, h⟩ := either_bind h
  obtain ⟨project, h⟩ := either_bind h
  simp only [bind_ok, pure, Except.pure, Except.ok.injEq, Prod.mk.injEq] at h
  obtain ⟨_, _, _, hchanges, rfl, rfl, rfl⟩ := h
  have hempty : replaced.document = .empty := by
    unfold readLayerUnvalidated at hcurrent
    split at hcurrent
    · cases hcurrent
      rfl
    · simp only [bind_ok, exists_unit, require_ok, pure, Except.pure, Except.ok.injEq] at hcurrent
      obtain ⟨_, rfl⟩ := hcurrent
      rfl
  rw [hempty] at hchanges
  exact ⟨mapError_ok.mp hbackup, hchanges⟩

/-- What a commit is to report: what changes from the layer on disk to the draft's document as it is stored, and that
    nothing was written only where there is nothing to write. -/
structure CommitReports (lib : RuntimeLibrary) (files' : ConfigFiles) (draft : ConfigDraft) (committed : ConfigCommit)
    (before after : ConfigDocument) : Prop where
  stored : draft.document.normalizeRoutes = .ok after
  onDisk : committed.written = true → ∃ output, lib.toml.print after = .ok output ∧
    files'.layer draft.scope = some (utf8 (ConfigDocument.endLine output))
  changes : RealChanges before after committed.changes
  unwritten : committed.written = false → draft.document = before

theorem commit_reports_iff {dryRun : Bool} {before : LoadedLayer}
    (h : runtime.commit lib environment files draft dryRun = (.ok committed, runtime', files'))
    (hbefore : readLayer lib (files.layer draft.scope) = .ok before) :
    (∃ after, CommitReports lib files' draft committed before.document after) ↔
      draft.document = before.document ∨
        draft.document.flatten ≠ before.document.flatten ∧ draft.document.normalizeRoutes = .ok draft.document ∧ dryRun = false := by
  obtain ⟨hscope, current, text, hprepare, hwritten, hfiles⟩ := commit_prepared h
  obtain ⟨hcurrent, _, _, hchecked, hdiff, htext⟩ := prepareCommit_ok.mp hprepare
  rw [hbefore] at hcurrent
  cases hcurrent
  obtain ⟨hordered, hreal⟩ := diffDocuments_real hdiff
  have hnil := diffDocuments_nil hdiff
  obtain ⟨_, hnormal⟩ := readLayer_document hbefore
  rcases htext with ⟨hunchanged, rfl⟩ | ⟨hchanged, output, htoml, rfl⟩
  · -- Nothing changed that the maps show, and nothing is written.
    have hflat := hnil.mp hunchanged
    constructor
    · intro hreports
      obtain ⟨after, hreports⟩ := hreports
      exact .inl (hreports.unwritten hwritten)
    · intro hcases
      rcases hcases with hsame | ⟨hne, _⟩
      · refine ⟨before.document, hsame ▸ hnormal, fun hyes => ?_, ⟨hordered, hsame ▸ hreal, fun _ => rfl⟩, fun _ => hsame⟩
        rw [hwritten] at hyes
        cases hyes
      · exact absurd hflat.symm hne
  · have hne : draft.document.flatten ≠ before.document.flatten := fun hflat => hchanged (hnil.mpr hflat.symm)
    obtain ⟨normalized, hroutes, hvalid, printed, hprint, hprinted⟩ := toToml_ok.mp htoml
    constructor
    · intro hreports
      obtain ⟨after, hstored, _, hchanges, hunwritten⟩ := hreports
      rw [hroutes] at hstored
      cases hstored
      cases dryRun with
      | true => exact .inl (hunwritten hwritten)
      | false =>
        have hsame := normalized_of_same hchecked.validLayer hvalid hroutes fun _ _ hentry hcredential =>
          same_of_real hreal hchanges.real hentry hcredential
        exact .inr ⟨hne, hsame ▸ hroutes, rfl⟩
    · intro hcases
      rcases hcases with hsame | ⟨_, hself, rfl⟩
      · exact absurd (congrArg ConfigDocument.flatten hsame) hne
      · rw [hroutes] at hself
        cases hself
        refine ⟨draft.document, hroutes, fun _ => ⟨printed, hprint, ?_⟩, ⟨hordered, hreal, fun hnone => absurd hnone hchanged⟩, ?_⟩
        · rw [hfiles output rfl rfl, hprinted]
          exact (ConfigFiles.layer_replaced files hscope _ _).1
        · intro hno
          rw [hwritten] at hno
          cases hno

theorem restore_reports_iff {scope : ConfigScope} {before backup : LoadedLayer}
    (h : runtime.restoreBackup lib environment files scope = (.ok committed, runtime', files'))
    (hbefore : readLayer lib (files.layer scope) = .ok before) (hbackup : readLayer lib (files.backup scope) = .ok backup) :
    RealChanges before.document backup.document committed.changes ↔
      before.document.flatten = ConfigDocument.empty.flatten ∧
        (backup.document.flatten = ConfigDocument.empty.flatten → before.document = backup.document) := by
  obtain ⟨current, read, hprepare⟩ := restore_prepared h
  obtain ⟨hread, hdiff⟩ := prepareRestore_ok hprepare
  rw [hbackup] at hread
  cases hread
  obtain ⟨hordered, hreal⟩ := diffDocuments_real hdiff
  have hnil := diffDocuments_nil hdiff
  constructor
  · intro hchanges
    refine ⟨?_, fun hflat => hchanges.unchanged (hnil.mpr hflat.symm)⟩
    have hread : ∀ {file : LayerFile} {layer : LoadedLayer} {path : String} {value : ConfigValue}, readLayer lib file = .ok layer →
        layer.document.flatten.get path = some value → ∃ descriptor, requireSchemaEntry path = .ok descriptor :=
      fun hlayer hget => (readLayer_document hlayer).1.entry hget
    refine OrdMap.ext_get fun path => ?_
    rw [show ConfigDocument.empty.flatten.get path = none from rfl]
    cases hold : before.document.flatten.get path with
    | none => rfl
    | some value =>
      obtain ⟨descriptor, hentry⟩ := hread hbefore hold
      by_cases hchanged : before.document.flatten.get path = backup.document.flatten.get path
      · -- The backup has the same value: it is listed as new, but has not changed.
        obtain ⟨change, hmem, hpath⟩ := reports_of_changed (show ConfigDocument.empty.flatten.get path ≠ backup.document.flatten.get path by
          rw [← hchanged, hold]; exact nofun) hentry
        have hreports := (hchanges.real change).mp ((hreal change).mpr hmem)
        rw [← hpath] at hchanged
        exact absurd hchanged hreports.changed
      · obtain ⟨change, hreports, hpath⟩ := reports_of_changed hchanged hentry
        obtain ⟨_, other, hother, _, hvalues⟩ := (hreal change).mp ((hchanges.real change).mpr hreports)
        obtain ⟨_, descriptor', hentry', _, hvalues'⟩ := hreports
        rw [hother] at hentry'
        cases hentry'
        subst hpath
        by_cases hcredential : other.credentialReference = true
        · rw [if_pos hcredential] at hvalues hvalues'
          rw [hvalues'.2.2, hold] at hvalues
          exact absurd hvalues.2.2 (by simp [show ConfigDocument.empty.flatten.get change.path = none from rfl])
        · rw [if_neg hcredential] at hvalues hvalues'
          rw [hvalues'.1, hold] at hvalues
          cases hvalues.1
  · intro hcases
    obtain ⟨hflat, hequal⟩ := hcases
    have hsame : ∀ change : ConfigChange, change.Reports .empty backup.document ↔ change.Reports before.document backup.document := by
      intro change
      constructor
      · intro hreports
        exact ⟨hflat ▸ hreports.changed, hflat ▸ hreports.entry⟩
      · intro hreports
        exact ⟨hflat ▸ hreports.changed, hflat ▸ hreports.entry⟩
    exact ⟨hordered, fun change => (hreal change).trans (hsame change), fun hnone => hequal (hnil.mp hnone).symm⟩

end Reports

/-- A commit reports what changed if the draft's document is that on disk, or has other fields in normal form and is not
    only tried; a restore does if what it replaces has no fields, nor an object that is not in a backup without fields. -/
theorem commit_reports_changes (lib : RuntimeLibrary) :
    (∀ environment files runtime draft dryRun committed runtime' files' before,
      ConfigRuntime.commit lib environment files runtime draft dryRun = (.ok committed, runtime', files') →
      readLayer lib (files.layer draft.scope) = .ok before →
      ((∃ after, CommitReports lib files' draft committed before.document after) ↔
        draft.document = before.document ∨
          draft.document.flatten ≠ before.document.flatten ∧ draft.document.normalizeRoutes = .ok draft.document ∧
            dryRun = false)) ∧
      ∀ environment files runtime scope committed runtime' files' before backup,
        ConfigRuntime.restoreBackup lib environment files runtime scope = (.ok committed, runtime', files') →
        readLayer lib (files.layer scope) = .ok before → readLayer lib (files.backup scope) = .ok backup →
        (RealChanges before.document backup.document committed.changes ↔
          before.document.flatten = ConfigDocument.empty.flatten ∧
            (backup.document.flatten = ConfigDocument.empty.flatten → before.document = backup.document)) :=
  ⟨fun _ _ _ _ _ _ _ _ _ h hbefore => commit_reports_iff h hbefore,
    fun _ _ _ _ _ _ _ _ _ h hbefore hbackup => restore_reports_iff h hbefore hbackup⟩

section Examples

/-- A layer that selects a model, and its text. -/
def modelDocument : ConfigDocument := { ConfigDocument.empty with provider := ⟨none, some "first-model"⟩ }

def modelText : String := "schema_version = 2\n\n[provider]\nmodel = \"first-model\"\n"

def modelLibrary : RuntimeLibrary := ⟨templateLibrary, documentToml modelDocument modelText, fun bytes => bytes⟩

def modelLayer : LoadedLayer := ⟨modelDocument, utf8 modelText, utf8 modelText, true⟩

def modelChange : ConfigChange := ⟨"provider.model", none, some (.string "first-model"), none, .nextProviderEpoch⟩

/-- The user layer was restored from its backup. -/
def restoredFiles : ConfigFiles := ⟨some (utf8 modelText), none, some (utf8 modelText), none⟩

def restoredRuntime : ConfigRuntime := readyRuntime .empty modelLayer noLayer

/-- A usage window of which nothing is set. -/
def idleDocument : ConfigDocument := { ConfigDocument.empty with stats := ⟨some [⟨"work", none, none, none, none⟩]⟩ }

def idleText : String := "schema_version = 2\n\n[[stats.windows]]\nid = \"work\"\n"

def idleLibrary : RuntimeLibrary := ⟨templateLibrary, documentToml idleDocument idleText, fun bytes => bytes⟩

def idleFiles : ConfigFiles := ⟨some (utf8 idleText), none, none, none⟩

/-- The runtime over these files; the window needs a start before the layer resolves. -/
def idleRuntime : ConfigRuntime :=
  ⟨.builtIn, .empty, ⟨some ⟨idleDocument, utf8 idleText, utf8 idleText, true⟩, some ⟨.user, .invalidValue, false⟩⟩,
    ⟨some noLayer, none⟩, none⟩

def idleDraft : ConfigDraft := ⟨.user, utf8 idleText, idleDocument⟩

theorem model_restored : (restoredRuntime.restoreBackup modelLibrary .calm restoredFiles .user).1 =
    .ok ⟨.user, utf8 modelText, utf8 modelText, [modelChange], true⟩ := by
  decide +kernel

theorem modelLayer_read : readLayer modelLibrary (some (utf8 modelText)) = .ok modelLayer := by
  decide +kernel

theorem commit_reports_changes_model :
    (∃ after, CommitReports modelLibrary
      ((readyRuntime .empty noLayer noLayer).commit modelLibrary .calm noFiles (userDraft modelDocument) false).2.2
      (userDraft modelDocument) ⟨.user, utf8 missingLayerText, utf8 modelText, [modelChange], true⟩ .empty after) ∧
      ¬ RealChanges modelDocument modelDocument [modelChange] := by
  constructor
  · have hcommit : ((readyRuntime .empty noLayer noLayer).commit modelLibrary .calm noFiles (userDraft modelDocument) false).1 =
        .ok ⟨.user, utf8 missingLayerText, utf8 modelText, [modelChange], true⟩ := by decide +kernel
    exact ((commit_reports_changes modelLibrary).1 .calm noFiles (readyRuntime .empty noLayer noLayer) (userDraft modelDocument) false _
      _ _ noLayer (Prod.ext hcommit rfl) rfl).mpr (.inr ⟨by decide +kernel, by decide +kernel, rfl⟩)
  · intro hreal
    have hflat := (((commit_reports_changes modelLibrary).2 .calm restoredFiles restoredRuntime .user _ _ _ modelLayer modelLayer
      (Prod.ext model_restored rfl) modelLayer_read modelLayer_read).mp hreal).1
    exact absurd hflat (by decide +kernel)

/-- The window is deleted in a draft, the commit reports no change and writes nothing, and the window stays on disk. A
    layer that is restored again, and does not change, is reported as new. -/
theorem unreported_and_unreal_changes :
    (ConfigRuntime.openFiles idleLibrary idleFiles .empty = .ok idleRuntime ∧ idleRuntime.beginDraft .user = .ok idleDraft ∧
      idleDraft.deleteObject ⟨.usageWindow, "work"⟩ = (.ok (), { idleDraft with document := .empty }) ∧
      idleRuntime.commit idleLibrary .calm idleFiles { idleDraft with document := .empty } false =
        (.ok ⟨.user, utf8 idleText, utf8 idleText, [], false⟩, idleRuntime, idleFiles) ∧
      idleDocument ≠ .empty) ∧
      readLayer modelLibrary restoredFiles.user = .ok modelLayer ∧
      readLayer modelLibrary restoredFiles.userBackup = .ok modelLayer ∧
      (restoredRuntime.restoreBackup modelLibrary .calm restoredFiles .user).1 =
        .ok ⟨.user, utf8 modelText, utf8 modelText, [modelChange], true⟩ :=
  ⟨by decide +kernel, modelLayer_read, modelLayer_read, model_restored⟩

end Examples

end GreenTyper.Config
