/-
  GreenTyper.Config.Views — what a configuration and a draft show of their fields
  (`effective_entries`, `get_effective`, `inspect_field`, `object_fields` of
  `config/runtime.rs`, and `get` of a draft).

  Of a credential reference a view says whether it is bound and which layer binds it.
  Configurations that are alike show the same (`credential_references_hidden`): each view
  that reads a value asks the schema for the path before, and a change of a reference
  keeps its values to itself.
-/

import GreenTyper.Config.Alike

namespace GreenTyper.Config

open Lib Provider Usage

inductive ConfigFieldContents where
  | value (effective : Option ConfigValue) (source : Option ConfigScope) (target : Option ConfigValue)
  | credentialBinding (effectiveBound : Bool) (source : Option ConfigScope) (targetBound : Bool)
  deriving DecidableEq

/-- What the schema says of the field is copied; its command path and its interaction, which the schema gives too, are left out. -/
structure ConfigFieldView where
  path : String
  pathPattern : List String
  valueKind : ConfigValueKind
  targetScope : ConfigScope
  timing : ConfigApplicationTiming
  editor : String
  contents : ConfigFieldContents
  deriving DecidableEq

/-- `path_prefix`, as segments. -/
def ConfigObjectKind.pathPrefix : ConfigObjectKind → List String
  | .providerProfile => ["providers", "<id>"]
  | .modelPreset => ["model_presets", "<id>"]
  | .usageWindow => ["stats", "windows", "<id>"]
  | .priceSchedule => ["price_schedules", "<id>"]

/-- The paths of an object's fields; a pattern has one `<id>`. -/
def ConfigObjectKind.fieldPaths (kind : ConfigObjectKind) (id : String) : List String :=
  (configSchema.filter fun entry => kind.pathPrefix.isPrefixOf entry.pathPattern).map fun entry =>
    joined (entry.pathPattern.map fun name => if name = "<id>" then id else name)

/-- The objects of a document. The source sorts them, and only searches them here. -/
def ConfigDocument.objects (document : ConfigDocument) : List ConfigObjectRef :=
  document.providers.keys.map (⟨.providerProfile, ·⟩) ++ document.modelPresets.keys.map (⟨.modelPreset, ·⟩) ++
    document.priceSchedules.keys.map (⟨.priceSchedule, ·⟩) ++ document.windows.map (⟨.usageWindow, ·.id⟩)

def ConfigDraft.get (draft : ConfigDraft) (path : String) : Except ConfigRuntimeError (Option ConfigValue) := do
  let descriptor ← requireSchemaEntry path
  require (descriptor.credentialReference = false) (.secretReadForbidden path)
  draft.document.get path

namespace ConfigRuntime

def effectiveEntries (runtime : ConfigRuntime) : Except ConfigRuntimeError (List EffectiveConfigEntry) := do
  return (← runtime.resolvedState).entries

def effectiveEntry (runtime : ConfigRuntime) (path : String) : Except ConfigRuntimeError (Option EffectiveConfigEntry) := do
  return (← runtime.resolvedState).internalEntries.find? (·.path = path)

def getEffective (runtime : ConfigRuntime) (path : String) : Except ConfigRuntimeError (Option EffectiveConfigEntry) := do
  let descriptor ← requireSchemaEntry path
  require (descriptor.credentialReference = false) (.secretReadForbidden path)
  runtime.effectiveEntry path

def addressableObjects (runtime : ConfigRuntime) : Except ConfigRuntimeError (List ConfigObjectRef) := do
  return (← runtime.resolvedState).document.objects

def inspectDocumentField (runtime : ConfigRuntime) (targetScope : ConfigScope) (path : String) (targetDocument : ConfigDocument) :
    Except ConfigRuntimeError ConfigFieldView := do
  require (targetScope.isWritable = true) (.readOnlyScope targetScope)
  let descriptor ← requireSchemaEntry path
  require (targetScope ∈ descriptor.scopes) (.readOnlyScope targetScope)
  let target ← targetDocument.get path
  let effective ← runtime.effectiveEntry path
  let contents := if descriptor.credentialReference then
      ConfigFieldContents.credentialBinding effective.isSome (effective.map (·.source)) target.isSome
    else .value (effective.map (·.value)) (effective.map (·.source)) target
  return ⟨path, descriptor.pathPattern, descriptor.valueKind, targetScope, descriptor.timing, descriptor.editor, contents⟩

def inspectField (runtime : ConfigRuntime) (targetScope : ConfigScope) (path : String) : Except ConfigRuntimeError ConfigFieldView := do
  runtime.inspectDocumentField targetScope path (← runtime.targetDocument targetScope)

def inspectDraftField (runtime : ConfigRuntime) (draft : ConfigDraft) (path : String) : Except ConfigRuntimeError ConfigFieldView :=
  runtime.inspectDocumentField draft.scope path draft.document

def objectFields (runtime : ConfigRuntime) (targetScope : ConfigScope) (kind : ConfigObjectKind) (id : String) :
    Except ConfigRuntimeError (List ConfigFieldView) := do
  validateId "<id>" id
  let objects ← runtime.addressableObjects
  require (⟨kind, id⟩ ∈ objects) (.unknownObject (kind.objectPath id))
  (kind.fieldPaths id).mapM (runtime.inspectField targetScope)

def draftObjectFields (runtime : ConfigRuntime) (draft : ConfigDraft) (kind : ConfigObjectKind) (id : String) :
    Except ConfigRuntimeError (List ConfigFieldView) := do
  validateId "<id>" id
  (kind.fieldPaths id).mapM (runtime.inspectDraftField draft)

end ConfigRuntime

/-! ## Configurations that are alike -/

/-- Both valid layers, and alike. -/
structure AlikeLayer (document document' : ConfigDocument) : Prop where
  alike : Alike document document'
  layer : document.ValidLayer
  layer' : document'.ValidLayer

/-- The four layers of each are alike, one by one, and resolve. -/
def AlikeResolved (lib : ConfigLibrary) (resolved resolved' : ResolvedState) : Prop :=
  ∃ builtIn builtIn' user user' project project' cli cli', AlikeLayer builtIn builtIn' ∧ AlikeLayer user user' ∧
    AlikeLayer project project' ∧ AlikeLayer cli cli' ∧ resolveDocuments lib builtIn user project cli = .ok resolved ∧
    resolveDocuments lib builtIn' user' project' cli' = .ok resolved'

/-- Both read, with documents that are alike, or neither; and the same issue. -/
structure AlikeState (state state' : LayerState) : Prop where
  current : Option.Rel (fun layer layer' => AlikeLayer layer.document layer'.document) state.current state'.current
  issue : state'.issue = state.issue

/-- Runtimes over configurations that are alike. -/
structure AlikeRuntime (lib : ConfigLibrary) (runtime runtime' : ConfigRuntime) : Prop where
  builtIn : AlikeLayer runtime.builtIn runtime'.builtIn
  cli : AlikeLayer runtime.cli runtime'.cli
  user : AlikeState runtime.user runtime'.user
  project : AlikeState runtime.project runtime'.project
  lastValid : Option.Rel (AlikeResolved lib) runtime.lastValid runtime'.lastValid

/-- Layer files that read as documents that are alike, or do not read for the same reason, with backups of which the same
    can be restored. -/
structure AlikeFiles (lib : RuntimeLibrary) (files files' : ConfigFiles) : Prop where
  read : ∀ scope, Both (fun layer layer' => Alike layer.document layer'.document)
    ((readLayer lib (files.layer scope)).mapError (·.category)) ((readLayer lib (files'.layer scope)).mapError (·.category))
  backups : ∀ scope, backupAvailable lib (files'.backup scope) = backupAvailable lib (files.backup scope)

/-- Drafts of one layer whose documents are alike. -/
structure AlikeDraft (draft draft' : ConfigDraft) : Prop where
  scope : draft'.scope = draft.scope
  document : Alike draft.document draft'.document

/-- The same changes of fields that are no references; of a reference no value, and the same of one that both list. -/
structure AlikeChanges (changes changes' : List ConfigChange) : Prop where
  fields : changes'.filter (·.credentialBinding.isNone) = changes.filter (·.credentialBinding.isNone)
  hidden : ∀ change ∈ changes ++ changes', change.credentialBinding.isSome = true → change.before = none ∧ change.after = none
  bindings : ∀ change ∈ changes, ∀ change' ∈ changes', change'.path = change.path → change' = change

/-- The views of a runtime and of a draft show the same. -/
structure SameViews (runtime runtime' : ConfigRuntime) (draft draft' : ConfigDraft) : Prop where
  effectiveEntries : runtime.effectiveEntries = runtime'.effectiveEntries
  getEffective : ∀ path, runtime.getEffective path = runtime'.getEffective path
  get : ∀ path, draft.get path = draft'.get path
  inspectField : ∀ scope path, runtime.inspectField scope path = runtime'.inspectField scope path
  inspectDraftField : ∀ path, runtime.inspectDraftField draft path = runtime'.inspectDraftField draft' path
  objectFields : ∀ scope kind id, runtime.objectFields scope kind id = runtime'.objectFields scope kind id
  draftObjectFields : ∀ kind id, runtime.draftObjectFields draft kind id = runtime'.draftObjectFields draft' kind id

section Reads

variable {lib : ConfigLibrary} {document document' : ConfigDocument} {runtime runtime' : ConfigRuntime}

theorem bound_any (document : ConfigDocument) : Bound (fun _ => True) document := fun _ _ _ _ _ => trivial

/-- At a path of the schema that is no reference's the values are the same. -/
theorem SameValue.shown {p : String → Prop} {path : String} {value value' : ConfigValue} (h : SameValue p path value value')
    {descriptor : ConfigSchemaEntry} (hentry : requireSchemaEntry path = .ok descriptor)
    (hcredential : descriptor.credentialReference = false) : value' = value := by
  rcases h with heq | ⟨hpath, _⟩
  · exact heq.symm
  · rw [credentialField_entry hpath hentry] at hcredential
    cases hcredential

theorem Alike.get_bound (h : Alike document document') (path : String) :
    (document'.flatten.get path).isSome = (document.flatten.get path).isSome := by
  have hrel := h.flatten (bound_any _) (bound_any _) path
  generalize document.flatten.get path = value at hrel
  generalize document'.flatten.get path = value' at hrel
  cases hrel <;> rfl

theorem Alike.get_shown (h : Alike document document') {path : String} {descriptor : ConfigSchemaEntry}
    (hentry : requireSchemaEntry path = .ok descriptor) (hcredential : descriptor.credentialReference = false) :
    document'.flatten.get path = document.flatten.get path := by
  have hrel := h.flatten (bound_any _) (bound_any _) path
  generalize document.flatten.get path = value at hrel
  generalize document'.flatten.get path = value' at hrel
  cases hrel with
  | none => rfl
  | some hvalue => rw [hvalue.shown hentry hcredential]

theorem Alike.symm (h : Alike document document') : Alike document' document := by
  refine ⟨by rw [h.rest], fun id => ?_⟩
  have hrel := h.profiles id
  generalize document.providers.get id = found at hrel ⊢
  generalize document'.providers.get id = found' at hrel ⊢
  cases hrel with
  | none => exact .none
  | some hprofile => exact .some ⟨by rw [hprofile.rest], hprofile.bound.symm⟩

theorem AlikeLayer.symm (h : AlikeLayer document document') : AlikeLayer document' document := ⟨h.alike.symm, h.layer', h.layer⟩

/-! ## Entries -/

theorem AlikeEntry.shown {entry entry' : EffectiveConfigEntry} (h : AlikeEntry entry entry')
    {descriptor : ConfigSchemaEntry} (hentry : requireSchemaEntry entry.path = .ok descriptor)
    (hcredential : descriptor.credentialReference = false) : entry' = entry := by
  obtain ⟨path, value, source⟩ := entry
  obtain ⟨path', value', source'⟩ := entry'
  obtain ⟨hpath, hsource, hvalue⟩ := h
  cases hpath
  cases hsource
  have hsame : value' = value := hvalue.shown hentry hcredential
  rw [hsame]

theorem credentialPath_false {path : String} : credentialPath path = false ↔
    ∃ descriptor, requireSchemaEntry path = .ok descriptor ∧ descriptor.credentialReference = false := by
  unfold credentialPath
  cases requireSchemaEntry path <;> simp

theorem filter_alike {entries entries' : List EffectiveConfigEntry} (h : List.Forall₂ AlikeEntry entries entries') :
    entries'.filter (fun entry => !credentialPath entry.path) = entries.filter (fun entry => !credentialPath entry.path) := by
  induction h with
  | nil => rfl
  | @cons entry entry' entries entries' hentry _ ih =>
    by_cases hhidden : credentialPath entry.path = true
    · rw [List.filter_cons_of_neg (by simpa [hentry.path] using hhidden), List.filter_cons_of_neg (by simpa using hhidden), ih]
    · rw [Bool.not_eq_true] at hhidden
      obtain ⟨descriptor, hdescriptor, hcredential⟩ := credentialPath_false.mp hhidden
      rw [hentry.shown hdescriptor hcredential, List.filter_cons_of_pos (by simpa using hhidden),
        List.filter_cons_of_pos (by simpa using hhidden), ih]

theorem find_alike {entries entries' : List EffectiveConfigEntry} (h : List.Forall₂ AlikeEntry entries entries') (path : String) :
    Option.Rel AlikeEntry (entries.find? (·.path = path)) (entries'.find? (·.path = path)) := by
  induction h with
  | nil => exact .none
  | @cons entry entry' entries entries' hentry _ ih =>
    by_cases hpath : entry.path = path
    · rw [List.find?_cons_of_pos (by simpa using hpath), List.find?_cons_of_pos (by simpa [hentry.path] using hpath)]
      exact .some hentry
    · rw [List.find?_cons_of_neg (by simpa using hpath), List.find?_cons_of_neg (by simpa [hentry.path] using hpath)]
      exact ih

theorem Alike.objects (h : Alike document document') : document'.objects = document.objects := by
  have hkeys : document'.providers.keys = document.providers.keys := by
    have hentries := OrdMap.entries_rel h.profiles
    rw [OrdMap.keys, OrdMap.keys, eq_comm, ← List.forall₂_eq_eq_eq, List.forall₂_map_left_iff, List.forall₂_map_right_iff]
    exact hentries.imp fun _ _ hentry => hentry.1
  unfold ConfigDocument.objects
  rw [hkeys, h.rest]
  rfl

theorem AlikeResolved.shows {resolved resolved' : ResolvedState} (h : AlikeResolved lib resolved resolved') :
    resolved'.entries = resolved.entries ∧ List.Forall₂ AlikeEntry resolved.internalEntries resolved'.internalEntries ∧
      resolved'.document.objects = resolved.document.objects := by
  obtain ⟨builtIn, builtIn', user, user', project, project', cli, cli', hbuiltIn, huser, hproject, hcli, hok, hok'⟩ := h
  rw [(resolveDocuments_ok.mp hok).2, (resolveDocuments_ok.mp hok').2]
  have hentries := effectiveEntries_alike hbuiltIn.alike huser.alike hproject.alike hcli.alike
  exact ⟨filter_alike hentries, hentries, (Alike.merge hbuiltIn.alike huser.alike hproject.alike hcli.alike).objects⟩

/-! ## Runtimes -/

theorem repairRequired_alike (h : AlikeRuntime lib runtime runtime') : runtime'.repairRequired = runtime.repairRequired := by
  unfold ConfigRuntime.repairRequired ConfigRuntime.status
  rw [h.user.issue, h.project.issue]

theorem resolvedState_alike (h : AlikeRuntime lib runtime runtime') :
    Both (AlikeResolved lib) runtime.resolvedState runtime'.resolvedState := by
  unfold ConfigRuntime.resolvedState
  rw [repairRequired_alike h]
  exact .okOr h.lastValid _

theorem effectiveEntry_alike (h : AlikeRuntime lib runtime runtime') (path : String) :
    Both (fun entry entry' => Option.Rel AlikeEntry entry entry' ∧ ∀ found ∈ entry, found.path = path)
      (runtime.effectiveEntry path) (runtime'.effectiveEntry path) := by
  unfold ConfigRuntime.effectiveEntry
  refine (resolvedState_alike h).bind fun resolved resolved' _ _ hresolved => .ok ⟨find_alike hresolved.shows.2.1 path, ?_⟩
  intro found hfound
  simpa using List.find?_some (Option.mem_def.mp hfound)

/-- The entry of a path that is no reference's is the same. -/
theorem effectiveEntry_shown (h : AlikeRuntime lib runtime runtime') {path : String} {descriptor : ConfigSchemaEntry}
    (hentry : requireSchemaEntry path = .ok descriptor) (hcredential : descriptor.credentialReference = false) :
    runtime.effectiveEntry path = runtime'.effectiveEntry path := by
  have hboth := effectiveEntry_alike h path
  generalize runtime.effectiveEntry path = result at hboth
  generalize runtime'.effectiveEntry path = result' at hboth
  cases hboth with
  | error e => rfl
  | ok hentries =>
    obtain ⟨hrel, hpath⟩ := hentries
    cases hrel with
    | none => rfl
    | some halike =>
      have hfound := hpath _ rfl
      rw [halike.shown (hfound ▸ hentry) hcredential]

theorem layer_alike {state state' : LayerState} (h : AlikeState state state') (e : ConfigRuntimeError) :
    Both (fun layer layer' => AlikeLayer layer.document layer'.document) (okOr state.current e) (okOr state'.current e) :=
  .okOr h.current e

theorem state_alike (h : AlikeRuntime lib runtime runtime') (scope : ConfigScope) :
    Both AlikeState (runtime.state scope) (runtime'.state scope) := by
  cases scope with
  | user => exact .ok h.user
  | project => exact .ok h.project
  | builtIn => exact .error _
  | cli => exact .error _

theorem targetDocument_alike (h : AlikeRuntime lib runtime runtime') (scope : ConfigScope) :
    Both AlikeLayer (runtime.targetDocument scope) (runtime'.targetDocument scope) := by
  unfold ConfigRuntime.targetDocument
  rw [repairRequired_alike h]
  exact (state_alike h scope).bind fun state state' _ _ hstate => (layer_alike hstate _).bind fun layer layer' _ _ hlayer => .ok hlayer

/-! ## Views -/

section Views

variable {draft draft' : ConfigDraft}

theorem effectiveEntries_shown (h : AlikeRuntime lib runtime runtime') : runtime.effectiveEntries = runtime'.effectiveEntries := by
  unfold ConfigRuntime.effectiveEntries
  exact ((resolvedState_alike h).bind fun resolved resolved' _ _ hresolved => .ok hresolved.shows.1.symm).eq

theorem addressableObjects_shown (h : AlikeRuntime lib runtime runtime') :
    runtime.addressableObjects = runtime'.addressableObjects := by
  unfold ConfigRuntime.addressableObjects
  exact ((resolvedState_alike h).bind fun resolved resolved' _ _ hresolved => .ok hresolved.shows.2.2.symm).eq

theorem getEffective_shown (h : AlikeRuntime lib runtime runtime') (path : String) :
    runtime.getEffective path = runtime'.getEffective path := by
  unfold ConfigRuntime.getEffective
  cases hentry : requireSchemaEntry path with
  | error e => rfl
  | ok descriptor =>
    rw [ok_bind, ok_bind]
    by_cases hcredential : descriptor.credentialReference = false
    · rw [require_bind hcredential, require_bind hcredential, effectiveEntry_shown h hentry hcredential]
    · rw [require_bind_neg hcredential, require_bind_neg hcredential]

theorem draftGet_shown (h : AlikeDraft draft draft') (path : String) :
    draft.get path = draft'.get path := by
  unfold ConfigDraft.get
  cases hentry : requireSchemaEntry path with
  | error e => rfl
  | ok descriptor =>
    rw [ok_bind, ok_bind]
    by_cases hcredential : descriptor.credentialReference = false
    · rw [require_bind hcredential, require_bind hcredential]
      unfold ConfigDocument.get
      rw [h.document.get_shown hentry hcredential]
    · rw [require_bind_neg hcredential, require_bind_neg hcredential]

/-- A field of two documents that are alike. Of a reference both say whether it is bound and where. -/
theorem inspectDocumentField_shown (h : AlikeRuntime lib runtime runtime') (hdocument : Alike document document')
    (scope : ConfigScope) (path : String) :
    runtime.inspectDocumentField scope path document = runtime'.inspectDocumentField scope path document' := by
  unfold ConfigRuntime.inspectDocumentField
  refine bind_congr fun _ => ?_
  cases hentry : requireSchemaEntry path with
  | error e => rfl
  | ok descriptor =>
    rw [ok_bind, ok_bind]
    refine bind_congr fun _ => ?_
    unfold ConfigDocument.get
    by_cases hcredential : descriptor.credentialReference = false
    · rw [hdocument.get_shown hentry hcredential, effectiveEntry_shown h hentry hcredential]
    · rw [Bool.not_eq_false] at hcredential
      rw [hentry, ok_bind, ok_bind]
      refine ((effectiveEntry_alike h path).bind fun entry entry' _ _ hrel => .ok ?_).eq
      rw [if_pos hcredential, if_pos hcredential, hdocument.get_bound]
      cases hrel.1 with
      | none => rfl
      | some halike =>
        rw [Option.map_some, Option.map_some, halike.source]
        rfl

theorem inspectField_shown (h : AlikeRuntime lib runtime runtime') (scope : ConfigScope) (path : String) :
    runtime.inspectField scope path = runtime'.inspectField scope path := by
  unfold ConfigRuntime.inspectField
  refine ((targetDocument_alike h scope).bind (s := Eq) fun target target' _ _ htarget => ?_).eq
  rw [inspectDocumentField_shown h htarget.alike scope path]
  exact .refl (fun _ => rfl) _

theorem inspectDraftField_shown (h : AlikeRuntime lib runtime runtime') (hdraft : AlikeDraft draft draft') (path : String) :
    runtime.inspectDraftField draft path = runtime'.inspectDraftField draft' path := by
  unfold ConfigRuntime.inspectDraftField
  rw [hdraft.scope]
  exact inspectDocumentField_shown h hdraft.document _ path

theorem objectFields_shown (h : AlikeRuntime lib runtime runtime') (scope : ConfigScope) (kind : ConfigObjectKind) (id : String) :
    runtime.objectFields scope kind id = runtime'.objectFields scope kind id := by
  unfold ConfigRuntime.objectFields
  rw [addressableObjects_shown h, funext (inspectField_shown h scope)]

theorem draftObjectFields_shown (h : AlikeRuntime lib runtime runtime') (hdraft : AlikeDraft draft draft')
    (kind : ConfigObjectKind) (id : String) :
    runtime.draftObjectFields draft kind id = runtime'.draftObjectFields draft' kind id := by
  unfold ConfigRuntime.draftObjectFields
  rw [funext (inspectDraftField_shown h hdraft)]

theorem sameViews (h : AlikeRuntime lib runtime runtime') (hdraft : AlikeDraft draft draft') :
    SameViews runtime runtime' draft draft' :=
  ⟨effectiveEntries_shown h, getEffective_shown h, draftGet_shown hdraft, inspectField_shown h, inspectDraftField_shown h hdraft,
    objectFields_shown h, draftObjectFields_shown h hdraft⟩

end Views

/-! ## Changes -/

section Changes

variable {before before' after after' : ConfigDocument} {changes changes' : List ConfigChange} {change change' : ConfigChange}

theorem Reports.hidden (h : change.Reports before after) (hbinding : change.credentialBinding.isSome = true) :
    change.before = none ∧ change.after = none := by
  obtain ⟨_, descriptor, _, _, hvalues⟩ := h
  by_cases hcredential : descriptor.credentialReference = true
  · rw [if_pos hcredential] at hvalues
    exact ⟨hvalues.1, hvalues.2.1⟩
  · rw [if_neg hcredential] at hvalues
    rw [hvalues.2.2] at hbinding
    cases hbinding

/-- The changes of one path between documents that are alike are the same. -/
theorem Reports.same (h : change.Reports before after) (h' : change'.Reports before' after') (hbefore : Alike before before')
    (hafter : Alike after after') (hpath : change'.path = change.path) : change' = change := by
  obtain ⟨path, old, new, binding, timing⟩ := change
  obtain ⟨path', old', new', binding', timing'⟩ := change'
  obtain ⟨_, descriptor, hentry, htiming, hvalues⟩ := h
  obtain ⟨_, descriptor', hentry', htiming', hvalues'⟩ := h'
  cases hpath
  have hsame : descriptor' = descriptor := Except.ok.inj (hentry'.symm.trans hentry)
  subst hsame
  cases htiming
  cases htiming'
  by_cases hcredential : descriptor'.credentialReference = true
  · rw [if_pos hcredential] at hvalues hvalues'
    obtain ⟨hold, hnew, hbinding⟩ := hvalues
    obtain ⟨hold', hnew', hbinding'⟩ := hvalues'
    dsimp only at hold hnew hbinding hold' hnew' hbinding'
    rw [hold, hnew, hbinding, hold', hnew', hbinding', hbefore.get_bound, hafter.get_bound]
  · rw [if_neg hcredential] at hvalues hvalues'
    rw [Bool.not_eq_true] at hcredential
    obtain ⟨hold, hnew, hbinding⟩ := hvalues
    obtain ⟨hold', hnew', hbinding'⟩ := hvalues'
    dsimp only at hold hnew hbinding hold' hnew' hbinding'
    rw [hold, hnew, hbinding, hold', hnew', hbinding', hbefore.get_shown hentry hcredential, hafter.get_shown hentry hcredential]

/-- The change of a field that is no reference is one between alike documents too. -/
theorem Reports.field (h : change.Reports before after) (hbefore : Alike before before') (hafter : Alike after after')
    (hbinding : change.credentialBinding = none) : change.Reports before' after' := by
  obtain ⟨hchanged, descriptor, hentry, htiming, hvalues⟩ := h
  by_cases hcredential : descriptor.credentialReference = true
  · rw [if_pos hcredential] at hvalues
    rw [hbinding] at hvalues
    cases hvalues.2.2
  · have hshown : descriptor.credentialReference = false := by simpa using hcredential
    refine ⟨?_, descriptor, hentry, htiming, ?_⟩
    · rw [hbefore.get_shown hentry hshown, hafter.get_shown hentry hshown]
      exact hchanged
    · rw [if_neg hcredential] at hvalues ⊢
      rw [hbefore.get_shown hentry hshown, hafter.get_shown hentry hshown]
      exact hvalues

theorem diffDocuments_alike (hbefore : Alike before before') (hafter : Alike after after')
    (h : diffDocuments before after = .ok changes) (h' : diffDocuments before' after' = .ok changes') :
    AlikeChanges changes changes' := by
  obtain ⟨hordered, hreal⟩ := diffDocuments_real h
  obtain ⟨hordered', hreal'⟩ := diffDocuments_real h'
  rw [List.pairwise_map] at hordered hordered'
  refine ⟨?_, ?_, ?_⟩
  · refine OrdMap.pairwise_ext (r := fun a b => a.path < b.path) (fun _ => lt_irrefl _) (fun _ _ => lt_asymm)
      (hordered'.filter _) (hordered.filter _) fun change => ?_
    rw [List.mem_filter, List.mem_filter, hreal, hreal', Option.isNone_iff_eq_none]
    constructor
    · intro hmem
      exact ⟨Reports.field hmem.1 hbefore.symm hafter.symm hmem.2, hmem.2⟩
    · intro hmem
      exact ⟨Reports.field hmem.1 hbefore hafter hmem.2, hmem.2⟩
  · intro change hmem hbinding
    rcases List.mem_append.mp hmem with hmem | hmem
    · exact Reports.hidden ((hreal _).mp hmem) hbinding
    · exact Reports.hidden ((hreal' _).mp hmem) hbinding
  · intro change hmem change' hmem' hpath
    exact Reports.same ((hreal _).mp hmem) ((hreal' _).mp hmem') hbefore hafter hpath

end Changes

end Reads

/-! ## Drafts and commits -/

section Drafts

variable {lib : RuntimeLibrary} {files files' : ConfigFiles} {runtime runtime' : ConfigRuntime} {draft draft' : ConfigDraft}

/-- A draft of the revision that the runtime has read. -/
def Fresh (runtime : ConfigRuntime) (draft : ConfigDraft) : Prop :=
  ∀ state layer, runtime.state draft.scope = .ok state → state.current = some layer → layer.revision = draft.baseRevision

theorem AlikeDraft.documents (h : AlikeDraft draft draft') {other other' : ConfigDocument} (hother : AlikeLayer other other')
    (hlayer : draft.document.ValidLayer) (hlayer' : draft'.document.ValidLayer) :
    AlikeLayer (ConfigRuntime.draftDocuments draft other).1 (ConfigRuntime.draftDocuments draft' other').1 ∧
      AlikeLayer (ConfigRuntime.draftDocuments draft other).2 (ConfigRuntime.draftDocuments draft' other').2 := by
  unfold ConfigRuntime.draftDocuments
  rw [h.scope]
  by_cases hscope : draft.scope = .project
  · rw [if_pos hscope, if_pos hscope]
    exact ⟨hother, h.document, hlayer, hlayer'⟩
  · rw [if_neg hscope, if_neg hscope]
    exact ⟨⟨h.document, hlayer, hlayer'⟩, hother⟩

theorem resolve_alike {builtIn builtIn' user user' project project' cli cli' : ConfigDocument} (hbuiltIn : AlikeLayer builtIn builtIn')
    (huser : AlikeLayer user user') (hproject : AlikeLayer project project') (hcli : AlikeLayer cli cli') :
    Both (AlikeResolved lib.toConfigLibrary) (resolveDocuments lib.toConfigLibrary builtIn user project cli)
      (resolveDocuments lib.toConfigLibrary builtIn' user' project' cli') := by
  have hboth := Both.of_map (@resolveDocuments_alike lib.toConfigLibrary _ _ _ _ _ _ _ _ hbuiltIn.alike huser.alike hproject.alike
    hcli.alike ⟨hbuiltIn.layer, huser.layer, hproject.layer, hcli.layer⟩ ⟨hbuiltIn.layer', huser.layer', hproject.layer', hcli.layer'⟩)
  generalize hresult : resolveDocuments lib.toConfigLibrary builtIn user project cli = result at hboth
  generalize hresult' : resolveDocuments lib.toConfigLibrary builtIn' user' project' cli' = result' at hboth
  cases hboth with
  | error e => exact .error e
  | ok _ => exact .ok ⟨_, _, _, _, _, _, _, _, hbuiltIn, huser, hproject, hcli, hresult, hresult'⟩

/-- Fresh drafts whose references are ids are checked alike. -/
theorem resolveDraft_alike (h : AlikeRuntime lib.toConfigLibrary runtime runtime') (hdraft : AlikeDraft draft draft')
    (hfresh : Fresh runtime draft) (hfresh' : Fresh runtime' draft') (href : References draft.document)
    (href' : References draft'.document) :
    Both (fun _ _ => draft.document.ValidLayer ∧ draft'.document.ValidLayer) (runtime.resolveDraft lib.toConfigLibrary draft)
      (runtime'.resolveDraft lib.toConfigLibrary draft') := by
  have hlayer := validateLayer_alike hdraft.document href href'
  unfold ConfigRuntime.resolveDraft
  unfold Fresh at hfresh hfresh'
  rw [hdraft.scope] at hfresh' ⊢
  rw [repairRequired_alike h]
  refine (state_alike h draft.scope).bind fun state state' hstate hstate' hstates => ?_
  refine (layer_alike hstates _).bind fun layer layer' hcurrent hcurrent' _ => ?_
  rw [require_bind (hfresh state layer hstate (okOr_ok.mp hcurrent)),
    require_bind (hfresh' state' layer' hstate' (okOr_ok.mp hcurrent'))]
  rw [← hlayer]
  refine (Both.refl (r := Eq) (fun _ => rfl) draft.document.validateLayer).bind fun _ _ hvalid _ _ => ?_
  have hdocument := ConfigDocument.validateLayer_ok.mp hvalid
  have hdocument' := ConfigDocument.validateLayer_ok.mp (hlayer ▸ hvalid)
  have hother : AlikeState (if draft.scope = .project then runtime.user else runtime.project)
      (if draft.scope = .project then runtime'.user else runtime'.project) := by
    split
    · exact h.user
    · exact h.project
  refine (layer_alike hother _).bind fun other other' _ _ hlayers => ?_
  obtain ⟨huser, hproject⟩ := hdraft.documents hlayers hdocument hdocument'
  exact (resolve_alike h.builtIn huser hproject h.cli).imp fun _ _ _ => ⟨hdocument, hdocument'⟩

theorem validateDraft_alike (h : AlikeRuntime lib.toConfigLibrary runtime runtime') (hdraft : AlikeDraft draft draft')
    (hfresh : Fresh runtime draft) (hfresh' : Fresh runtime' draft') (href : References draft.document)
    (href' : References draft'.document) :
    Both AlikeChanges (runtime.validateDraft lib.toConfigLibrary draft) (runtime'.validateDraft lib.toConfigLibrary draft') := by
  unfold ConfigRuntime.validateDraft
  refine (resolveDraft_alike h hdraft hfresh hfresh' href href').bind fun _ _ _ _ hvalid => ?_
  rw [repairRequired_alike h, hdraft.scope]
  refine (state_alike h draft.scope).bind fun state state' _ _ hstates => ?_
  refine (layer_alike hstates _).bind fun layer layer' _ _ hlayers => ?_
  obtain ⟨changes, hchanges⟩ := diffDocuments_isOk hlayers.layer hvalid.1
  obtain ⟨changes', hchanges'⟩ := diffDocuments_isOk hlayers.layer' hvalid.2
  rw [hchanges, hchanges']
  exact .ok (diffDocuments_alike hlayers.alike hdraft.document hchanges hchanges')

/-- Whatever the drafts are, two lists of changes are alike. -/
theorem validated_alike (h : AlikeRuntime lib.toConfigLibrary runtime runtime') (hdraft : AlikeDraft draft draft')
    {changes changes' : List ConfigChange} (hvalid : runtime.validateDraft lib.toConfigLibrary draft = .ok changes)
    (hvalid' : runtime'.validateDraft lib.toConfigLibrary draft' = .ok changes') : AlikeChanges changes changes' := by
  simp only [ConfigRuntime.validateDraft, bind_ok] at hvalid hvalid'
  rw [hdraft.scope] at hvalid'
  obtain ⟨_, _, state, hstate, layer, hlayer, hchanges⟩ := hvalid
  obtain ⟨_, _, state', hstate', layer', hlayer', hchanges'⟩ := hvalid'
  have hstates := (state_alike h draft.scope).values hstate hstate'
  have hlayers := (layer_alike hstates runtime.repairRequired).values hlayer (repairRequired_alike h ▸ hlayer')
  exact diffDocuments_alike hlayers.alike hdraft.document hchanges hchanges'

theorem readLayer_alike (h : AlikeFiles lib files files') {scope : ConfigScope} {layer layer' : LoadedLayer}
    (hread : readLayer lib (files.layer scope) = .ok layer) (hread' : readLayer lib (files'.layer scope) = .ok layer') :
    Alike layer.document layer'.document := by
  have hboth := h.read scope
  rw [hread, hread'] at hboth
  exact hboth.values rfl rfl

theorem committed_alike (hfiles : AlikeFiles lib files files') (hdraft : AlikeDraft draft draft')
    {environment environment' : Environment} {dryRun dryRun' : Bool} {committed committed' : ConfigCommit}
    {after after' : ConfigRuntime} {left left' : ConfigFiles}
    (h : runtime.commit lib environment files draft dryRun = (.ok committed, after, left))
    (h' : runtime'.commit lib environment' files' draft' dryRun' = (.ok committed', after', left')) :
    AlikeChanges committed.changes committed'.changes := by
  obtain ⟨_, current, _, hprepare, _⟩ := commit_prepared h
  obtain ⟨_, current', _, hprepare', _⟩ := commit_prepared h'
  obtain ⟨hread, _, _, _, hchanges, _⟩ := prepareCommit_ok.mp hprepare
  obtain ⟨hread', _, _, _, hchanges', _⟩ := prepareCommit_ok.mp hprepare'
  rw [hdraft.scope] at hread'
  exact diffDocuments_alike (readLayer_alike hfiles hread hread') hdraft.document hchanges hchanges'

/-! ## Opening -/

theorem loadLayerState_alike (h : AlikeFiles lib files files') (scope : ConfigScope) :
    AlikeState (loadLayerState lib files scope) (loadLayerState lib files' scope) := by
  have hboth := h.read scope
  unfold loadLayerState
  cases hread : readLayer lib (files.layer scope) with
  | ok layer =>
    cases hread' : readLayer lib (files'.layer scope) with
    | ok layer' =>
      exact ⟨.some ⟨readLayer_alike h hread hread', (readLayer_document hread).1, (readLayer_document hread').1⟩, rfl⟩
    | error e' =>
      rw [hread, hread'] at hboth
      cases hboth
  | error e =>
    cases hread' : readLayer lib (files'.layer scope) with
    | ok layer' =>
      rw [hread, hread'] at hboth
      cases hboth
    | error e' =>
      rw [hread, hread'] at hboth
      have hcategory : e.category = e'.category := by
        generalize hleft : (Except.error e : Except ConfigRuntimeError LoadedLayer).mapError (·.category) = left at hboth
        generalize hright : (Except.error e' : Except ConfigRuntimeError LoadedLayer).mapError (·.category) = right at hboth
        cases hboth with
        | ok _ => cases hleft
        | error category => exact (Except.error.inj hleft).trans (Except.error.inj hright).symm
      refine ⟨.none, ?_⟩
      dsimp only
      rw [hcategory, h.backups]

theorem resolveIfValid_alike (h : AlikeFiles lib files files') {builtIn builtIn' cli cli' : ConfigDocument}
    {user user' project project' : LayerState} (hbuiltIn : AlikeLayer builtIn builtIn') (hcli : AlikeLayer cli cli')
    (huser : AlikeState user user') (hproject : AlikeState project project') :
    Option.Rel (AlikeResolved lib.toConfigLibrary) (resolveIfValid lib files builtIn cli user project).1
        (resolveIfValid lib files' builtIn' cli' user' project').1 ∧
      AlikeState (resolveIfValid lib files builtIn cli user project).2.1 (resolveIfValid lib files' builtIn' cli' user' project').2.1 ∧
      AlikeState (resolveIfValid lib files builtIn cli user project).2.2 (resolveIfValid lib files' builtIn' cli' user' project').2.2 := by
  obtain ⟨current, issue⟩ := user
  obtain ⟨current', issue'⟩ := user'
  obtain ⟨other, reason⟩ := project
  obtain ⟨other', reason'⟩ := project'
  obtain ⟨hcurrent, hissue⟩ := huser
  obtain ⟨hother, hreason⟩ := hproject
  dsimp only at hcurrent hissue hother hreason
  subst hissue hreason
  have hempty : AlikeLayer .empty .empty := ⟨.refl _, empty_validLayer, empty_validLayer⟩
  cases hcurrent with
  | none => exact ⟨.none, ⟨.none, rfl⟩, ⟨hother, rfl⟩⟩
  | @some layer layer' hlayer =>
    cases hother with
    | none => exact ⟨.none, ⟨.some hlayer, rfl⟩, ⟨.none, rfl⟩⟩
    | @some rest rest' hrest =>
      have hall := @resolve_alike lib _ _ _ _ _ _ _ _ hbuiltIn hlayer hrest hcli
      have hfirst := @resolve_alike lib _ _ _ _ _ _ _ _ hbuiltIn hlayer hempty hcli
      unfold resolveIfValid
      dsimp only
      generalize resolveDocuments lib.toConfigLibrary builtIn layer.document rest.document cli = result at hall
      generalize resolveDocuments lib.toConfigLibrary builtIn' layer'.document rest'.document cli' = result' at hall
      generalize resolveDocuments lib.toConfigLibrary builtIn layer.document .empty cli = first at hfirst
      generalize resolveDocuments lib.toConfigLibrary builtIn' layer'.document .empty cli' = first' at hfirst
      cases hall with
      | ok hresolved => exact ⟨.some hresolved, ⟨.some hlayer, rfl⟩, ⟨.some hrest, rfl⟩⟩
      | error e =>
        cases hfirst with
        | error _ => exact ⟨.none, ⟨.some hlayer, by dsimp only; rw [h.backups]⟩, ⟨.some hrest, rfl⟩⟩
        | ok _ => exact ⟨.none, ⟨.some hlayer, rfl⟩, ⟨.some hrest, by dsimp only; rw [h.backups]⟩⟩

theorem openFiles_alike (h : AlikeFiles lib files files') {cli cli' : ConfigDocument} (hcli : AlikeLayer cli cli') :
    Both (AlikeRuntime lib.toConfigLibrary) (ConfigRuntime.openFiles lib files cli) (ConfigRuntime.openFiles lib files' cli') := by
  have hbuiltIn : AlikeLayer .builtIn .builtIn := ⟨.refl _, builtIn_validLayer, builtIn_validLayer⟩
  unfold ConfigRuntime.openFiles
  rw [ConfigDocument.validateLayer_ok.mpr hcli.layer, ConfigDocument.validateLayer_ok.mpr hcli.layer']
  rw [ConfigDocument.validateLayer_ok.mpr builtIn_validLayer, ok_bind, ok_bind, ok_bind, ok_bind]
  obtain ⟨hvalid, huser, hproject⟩ := resolveIfValid_alike h hbuiltIn hcli (loadLayerState_alike h .user)
    (loadLayerState_alike h .project)
  exact .ok ⟨hbuiltIn, hcli, huser, hproject, hvalid⟩

end Drafts

/-- What is seen of two runtimes and two drafts tells the values of no reference. -/
structure HiddenReferences (lib : RuntimeLibrary) (runtime runtime' : ConfigRuntime) (draft draft' : ConfigDraft) : Prop where
  views : SameViews runtime runtime' draft draft'
  validated : ∀ changes changes', runtime.validateDraft lib.toConfigLibrary draft = .ok changes →
    runtime'.validateDraft lib.toConfigLibrary draft' = .ok changes' → AlikeChanges changes changes'
  validation : Fresh runtime draft → Fresh runtime' draft' → References draft.document → References draft'.document →
    Both AlikeChanges (runtime.validateDraft lib.toConfigLibrary draft) (runtime'.validateDraft lib.toConfigLibrary draft')
  committed : ∀ files files', AlikeFiles lib files files' →
    ∀ environment environment' dryRun dryRun' committed committed' after after' left left',
      runtime.commit lib environment files draft dryRun = (.ok committed, after, left) →
      runtime'.commit lib environment' files' draft' dryRun' = (.ok committed', after', left') →
      AlikeChanges committed.changes committed'.changes

/-- Configurations that differ in the values of credential references open as runtimes that are alike, and no view of these
    or of drafts that are alike tells them apart; the changes of a draft differ in which references they list. -/
theorem credential_references_hidden (lib : RuntimeLibrary) :
    (∀ files files' cli cli', AlikeFiles lib files files' → AlikeLayer cli cli' →
      Both (AlikeRuntime lib.toConfigLibrary) (ConfigRuntime.openFiles lib files cli) (ConfigRuntime.openFiles lib files' cli')) ∧
      ∀ runtime runtime' draft draft', AlikeRuntime lib.toConfigLibrary runtime runtime' → AlikeDraft draft draft' →
        HiddenReferences lib runtime runtime' draft draft' := by
  constructor
  · intro files files' cli cli' hfiles hcli
    exact openFiles_alike hfiles hcli
  · intro runtime runtime' draft draft' hruntime hdraft
    refine ⟨sameViews hruntime hdraft, ?_, validateDraft_alike hruntime hdraft, ?_⟩
    · intro changes changes' hvalid hvalid'
      exact validated_alike hruntime hdraft hvalid hvalid'
    · intro files files' hfiles _ _ _ _ committed committed' _ _ _ _ hcommit hcommit'
      exact committed_alike hfiles hdraft hcommit hcommit'

section Examples

/-- A bundled profile with a reference. -/
def boundDocument (reference : String) : ConfigDocument :=
  { ConfigDocument.empty with
    providers := OrdMap.empty.insert "work" { templateProfile "deepseek" with credential := some reference } }

def boundLibrary : RuntimeLibrary := documentLibrary (boundDocument "team-key")

theorem boundDocument_alike (reference reference' : String) : Alike (boundDocument reference) (boundDocument reference') := by
  refine ⟨rfl, fun id => ?_⟩
  unfold boundDocument
  rw [OrdMap.get_insert, OrdMap.get_insert]
  by_cases hid : "work" = id
  · rw [if_pos hid, if_pos hid]
    exact .some ⟨rfl, rfl⟩
  · rw [if_neg hid, if_neg hid]
    exact .none

theorem noFiles_alike : AlikeFiles boundLibrary noFiles noFiles where
  read := fun _ => .refl (fun _ => .refl _) _
  backups := fun _ => rfl

theorem credential_references_hidden_bound : ∃ runtime runtime',
    ConfigRuntime.openFiles boundLibrary noFiles (boundDocument "team-key") = .ok runtime ∧
      ConfigRuntime.openFiles boundLibrary noFiles (boundDocument "own-key") = .ok runtime' ∧
      SameViews runtime runtime' (userDraft (boundDocument "team-key")) (userDraft (boundDocument "own-key")) := by
  have hcli : AlikeLayer (boundDocument "team-key") (boundDocument "own-key") :=
    ⟨boundDocument_alike _ _, ConfigDocument.validateLayer_ok.mp (by decide +kernel),
      ConfigDocument.validateLayer_ok.mp (by decide +kernel)⟩
  have hopened : okAnd (ConfigRuntime.openFiles boundLibrary noFiles (boundDocument "team-key")) (fun _ => true) = true := by
    decide +kernel
  obtain ⟨runtime, hruntime, _⟩ := okAnd_iff.mp hopened
  have hboth := (credential_references_hidden boundLibrary).1 noFiles noFiles _ _ noFiles_alike hcli
  rw [hruntime] at hboth
  generalize hresult : ConfigRuntime.openFiles boundLibrary noFiles (boundDocument "own-key") = result at hboth
  cases hboth with
  | @ok _ runtime' halike =>
    have hhidden := (credential_references_hidden boundLibrary).2 runtime runtime' (userDraft (boundDocument "team-key"))
      (userDraft (boundDocument "own-key")) halike ⟨rfl, boundDocument_alike _ _⟩
    exact ⟨runtime, runtime', hruntime, rfl, hhidden.views⟩

end Examples

end GreenTyper.Config
