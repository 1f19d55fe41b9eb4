/-
  GreenTyper.Config.Alike — configurations that differ in the values of credential
  references only.

  Documents that are alike have the same fields but for those values (`Alike.flatten`),
  and merge to documents that are alike. A profile is checked for whether a reference is
  bound, so layers that are alike resolve alike (`resolveDocuments_alike`).
-/

import GreenTyper.Config.Changes

namespace GreenTyper.Config

open Lib Provider Usage

/-- Both bound or both not, and nothing else differs. -/
structure AlikeProfile (profile profile' : ProviderProfileLayer) : Prop where
  rest : profile' = { profile with credential := profile'.credential }
  bound : profile'.credential.isSome = profile.credential.isSome

/-- The same profiles are bound, and nothing but the values of their references differs. -/
structure Alike (document document' : ConfigDocument) : Prop where
  rest : document' = { document with providers := document'.providers }
  profiles : ∀ id, Option.Rel AlikeProfile (document.providers.get id) (document'.providers.get id)

/-- What is bound has the property; a credential reference is an id. -/
def Bound (p : String → Prop) (document : ConfigDocument) : Prop :=
  ∀ id profile, document.providers.get id = some profile → ∀ reference, profile.credential = some reference → p reference

abbrev References : ConfigDocument → Prop := Bound IdText

/-! ## Merging -/

section Merging

theorem AlikeProfile.refl (profile : ProviderProfileLayer) : AlikeProfile profile profile := ⟨rfl, rfl⟩

theorem Alike.refl (document : ConfigDocument) : Alike document document := by
  refine ⟨rfl, fun id => ?_⟩
  cases document.providers.get id with
  | none => exact .none
  | some profile => exact .some (.refl profile)

theorem AlikeProfile.mergeFrom {base base' overlay overlay' : ProviderProfileLayer} (h : AlikeProfile base base')
    (h' : AlikeProfile overlay overlay') : AlikeProfile (base.mergeFrom overlay) (base'.mergeFrom overlay') where
  rest := by rw [h.rest, h'.rest]; rfl
  bound := by
    show (mergeOption base'.credential overlay'.credential).isSome = (mergeOption base.credential overlay.credential).isSome
    rw [mergeOption, mergeOption, Option.isSome_or, Option.isSome_or, h.bound, h'.bound]

theorem Alike.mergeFrom {base base' overlay overlay' : ConfigDocument} (h : Alike base base') (h' : Alike overlay overlay') :
    Alike (base.mergeFrom overlay) (base'.mergeFrom overlay') where
  rest := by rw [h.rest, h'.rest]; rfl
  profiles := OrdMap.rel_mergeWith (.refl _) (fun hbase hover => hbase.mergeFrom hover) h.profiles h'.profiles

variable {builtIn builtIn' user user' project project' cli cli' : ConfigDocument}

theorem Alike.merge (hbuiltIn : Alike builtIn builtIn') (huser : Alike user user') (hproject : Alike project project')
    (hcli : Alike cli cli') : Alike (mergeDocuments builtIn user project cli) (mergeDocuments builtIn' user' project' cli') :=
  ((hbuiltIn.mergeFrom huser).mergeFrom hproject).mergeFrom hcli

end Merging

/-! ## Fields -/

section Fields

variable {document document' : ConfigDocument} {p : String → Prop}

def credentialField (id : String) : String := dotted "providers" (dotted id "credential")

/-- The same value, or two references of one profile with the property. -/
def SameValue (p : String → Prop) (path : String) (value value' : ConfigValue) : Prop :=
  value = value' ∨ (∃ id, path = credentialField id) ∧
    ∃ reference reference', value = .string reference ∧ value' = .string reference' ∧ p reference ∧ p reference'

theorem credentialField_segments (id : String) : segments (credentialField id) = "providers" :: (segments id ++ ["credential"]) := by
  obtain ⟨hne, hnames, hjoined⟩ := segments_spec id
  have hjoin : credentialField id = joined ("providers" :: (segments id ++ ["credential"])) := by
    rw [joined_cons _ (by simp), joined_append hne (by simp), hjoined]
    rfl
  rw [hjoin]
  refine segments_joined (by simp) fun name hname => ?_
  rcases List.mem_cons.mp hname with rfl | hname
  · decide
  · rcases List.mem_append.mp hname with hname | hname
    · exact hnames name hname
    · rw [List.mem_singleton.mp hname]
      decide

/-- A path of that form that is in the schema is a credential's. -/
theorem credentialField_entry {path : String} (hpath : ∃ id, path = credentialField id) {descriptor : ConfigSchemaEntry}
    (h : requireSchemaEntry path = .ok descriptor) : descriptor.credentialReference = true := by
  obtain ⟨id, rfl⟩ := hpath
  obtain ⟨hmem, hmatch, _⟩ := requireSchemaEntry_ok h
  -- The last name of the pattern is that of the path.
  have hschema : ∀ entry ∈ configSchema, ∀ name rest, entry.pathPattern.reverse = name :: rest →
      name = "<id>" ∨ name = "credential" → entry.credentialReference = true := by
    simp only [configSchema, List.forall_mem_cons, List.not_mem_nil, false_implies, implies_true, and_true]
    simp
  rw [pathMatches_iff, credentialField_segments, ← List.forall₂_reverse_iff] at hmatch
  simp only [List.reverse_cons, List.reverse_append, List.reverse_nil, List.nil_append, List.cons_append,
    List.forall₂_cons_right_iff] at hmatch
  obtain ⟨name, rest, hname, _, hpattern⟩ := hmatch
  exact hschema descriptor hmem name rest hpattern hname

/-- A profile that is alike has related values of its fields. -/
theorem AlikeProfile.present {profile profile' : ProviderProfileLayer} (h : AlikeProfile profile profile')
    (hp : ∀ reference, profile.credential = some reference → p reference)
    (hp' : ∀ reference, profile'.credential = some reference → p reference) (id : String) :
    List.Forall₂ (fun f f' => f.1 = f'.1 ∧ SameValue p (dotted "providers" (dotted id f.1)) f.2 f'.2)
      (present ProviderProfileLayer.fields profile) (present ProviderProfileLayer.fields profile') := by
  obtain ⟨hrest, hbound⟩ := h
  generalize profile'.credential = credential at hrest hbound hp'
  subst hrest
  have hsame : ∀ (path : String) (value : Option ConfigValue), Option.Rel (SameValue p path) value value := by
    intro path value
    cases value with
    | none => exact .none
    | some value => exact .some (Or.inl rfl)
  refine @rel_present _ _ (fun name => SameValue p (dotted "providers" (dotted id name))) _ _ _ ?_
  simp only [ProviderProfileLayer.fields, List.forall_mem_cons, List.not_mem_nil, false_implies, implies_true, and_true]
  refine ⟨hsame _ _, ?_, hsame _ _, hsame _ _, hsame _ _, hsame _ _, hsame _ _, hsame _ _, hsame _ _, hsame _ _, hsame _ _⟩
  show Option.Rel _ (profile.credential.map ConfigValue.string) (credential.map ConfigValue.string)
  cases credential with
  | none =>
    rw [Option.isSome_none, eq_comm, Option.isSome_eq_false_iff, Option.isNone_iff_eq_none] at hbound
    rw [hbound]
    exact .none
  | some reference' =>
    rw [Option.isSome_some, eq_comm, Option.isSome_iff_exists] at hbound
    obtain ⟨reference, hreference⟩ := hbound
    rw [hreference]
    exact .some (Or.inr ⟨⟨id, rfl⟩, reference, reference', rfl, rfl, hp reference hreference, hp' reference' rfl⟩)

theorem bound_rel (h : Alike document document') (hp : Bound p document) (hp' : Bound p document') (id : String) :
    Option.Rel (fun profile profile' => AlikeProfile profile profile' ∧
      (∀ reference, profile.credential = some reference → p reference) ∧
      ∀ reference, profile'.credential = some reference → p reference) (document.providers.get id) (document'.providers.get id) := by
  have hrel := h.profiles id
  have hleft := hp id
  have hright := hp' id
  generalize document.providers.get id = found at hrel hleft ⊢
  generalize document'.providers.get id = found' at hrel hright ⊢
  cases hrel with
  | none => exact .none
  | some hprofile => exact .some ⟨hprofile, hleft _ rfl, hright _ rfl⟩

theorem Alike.fields (h : Alike document document') (hp : Bound p document) (hp' : Bound p document') :
    List.Forall₂ (fun f f' => f.1 = f'.1 ∧ SameValue p f.1 f.2 f'.2) document.fields document'.fields := by
  have hsame : ∀ (fields : List (String × ConfigValue)) (group : String),
      List.Forall₂ (fun f f' => f.1 = f'.1 ∧ SameValue p (dotted group f.1) f.2 f'.2) fields fields := by
    intro fields group
    exact List.forall₂_same.mpr fun f _ => ⟨rfl, Or.inl rfl⟩
  have hentries := OrdMap.entries_relAt fun id => bound_rel h hp hp' id
  have hrest := h.rest
  generalize document'.providers = providers at hrest hentries
  subst hrest
  unfold ConfigDocument.fields
  refine rel_nest ?_
  unfold ConfigDocument.groups
  refine .cons ⟨rfl, hsame _ _⟩ (.cons ⟨rfl, hsame _ _⟩ (.cons ⟨rfl, hsame _ _⟩ (.cons ⟨rfl, ?_⟩ (.cons ⟨rfl, hsame _ _⟩
    (.cons ⟨rfl, hsame _ _⟩ (.cons ⟨rfl, hsame _ _⟩ (.cons ⟨rfl, hsame _ _⟩ .nil)))))))
  refine @rel_nest _ (fun path => SameValue p (dotted "providers" path)) _ _ ?_
  unfold objectFields
  rw [List.forall₂_map_left_iff, List.forall₂_map_right_iff]
  refine hentries.imp fun entry entry' hentry => ?_
  obtain ⟨hid, hprofile, hbound, hbound'⟩ := hentry
  rw [← hid]
  exact ⟨rfl, hprofile.present hbound hbound' entry.1⟩

/-- Documents that are alike have related values under the same paths. -/
theorem Alike.flatten (h : Alike document document') (hp : Bound p document) (hp' : Bound p document') (path : String) :
    Option.Rel (SameValue p path) (document.flatten.get path) (document'.flatten.get path) :=
  rel_ofList (h.fields hp hp') path

end Fields

/-! ## Acceptance -/

section Acceptance

variable {lib : ConfigLibrary} {document document' : ConfigDocument}

theorem contains_alike (h : Alike document document') (id : String) :
    document.providers.contains id = document'.providers.contains id := by
  have hrel := h.profiles id
  rw [OrdMap.contains, OrdMap.contains]
  generalize document.providers.get id = found at hrel
  generalize document'.providers.get id = found' at hrel
  cases hrel <;> rfl

theorem validateProfile_alike {profile profile' : ProviderProfileLayer} (h : AlikeProfile profile profile') (id : String) :
    validateProfile lib id profile = validateProfile lib id profile' := by
  obtain ⟨hrest, hbound⟩ := h
  generalize profile'.credential = credential at hrest hbound
  subst hrest
  unfold validateProfile
  simp only [hbound]
  rfl

/-- A reference that is an id is not looked at. -/
theorem fromParts_credential {url : UrlLibrary} {profile template : String} {credential : Option String}
    (h : ∀ reference, credential = some reference → IdText reference) (baseUrl responses chatCompletions messages models : Option String)
    (dialects : List ProviderDialect) (pricing : Option ProviderPricingSource) (allow : Bool) :
    ProviderProfileSnapshot.fromParts url profile template credential baseUrl responses chatCompletions messages models dialects
      pricing allow = (fun snapshot => { snapshot with credentialReference := credential }) <$>
        ProviderProfileSnapshot.fromParts url profile template none baseUrl responses chatCompletions messages models dialects
          pricing allow := by
  have hcheck : credential.forM (validateSnapshotValue "provider credential reference") = .ok () :=
    option_forM_ok.mpr fun reference hreference => require_ok.mpr (h reference hreference).providerText
  have hnone : (none : Option String).forM (validateSnapshotValue "provider credential reference") = .ok () := rfl
  unfold ProviderProfileSnapshot.fromParts
  rw [hcheck, hnone]
  simp only [map_bind, map_pure, ok_bind]

theorem snapshot_alike (h : Alike document document') (href : References document) (href' : References document') (id : String) :
    (·.pricingSource) <$> providerProfileSnapshot lib document id = (·.pricingSource) <$> providerProfileSnapshot lib document' id := by
  have hrel := bound_rel h href href' id
  unfold providerProfileSnapshot
  generalize document.providers.get id = found at hrel
  generalize document'.providers.get id = found' at hrel
  cases hrel with
  | none => rfl
  | @some profile profile' hprofile =>
    obtain ⟨⟨hrest, hbound⟩, hplain, hplain'⟩ := hprofile
    generalize profile'.credential = credential at hrest hplain'
    subst hrest
    simp only [okOr_some, ok_bind, map_bind]
    refine bind_congr fun template => bind_congr fun pricing => ?_
    show _ <$> Except.mapError _ (ProviderProfileSnapshot.fromParts lib.url id template profile.credential _ _ _ _ _ _ _ _) =
      _ <$> Except.mapError _ (ProviderProfileSnapshot.fromParts lib.url id template credential _ _ _ _ _
        profile.effectiveDialects _ _)
    rw [fromParts_credential hplain, fromParts_credential hplain']
    cases ProviderProfileSnapshot.fromParts lib.url id template none _ _ _ _ _ _ _ _ <;> rfl

theorem resolvePriceSchedule_alike (h : Alike document document') (href : References document) (href' : References document')
    (id : String) (layer : PriceScheduleLayer) :
    resolvePriceSchedule lib document id layer = resolvePriceSchedule lib document' id layer := by
  unfold resolvePriceSchedule
  dsimp only
  refine bind_congr fun provider => bind_congr fun _ => ?_
  have hrel := h.profiles provider
  have hsnapshot := @snapshot_alike lib _ _ h href href' provider
  generalize document.providers.get provider = found at hrel
  generalize document'.providers.get provider = found' at hrel
  cases hrel with
  | none => rfl
  | @some profile profile' hprofile =>
    rw [okOr_some, okOr_some, ok_bind, ok_bind, hprofile.rest]
    refine bind_congr fun source => bind_congr fun _ => bind_of_map hsnapshot fun snapshot snapshot' hpricing => ?_
    rw [hpricing]

theorem manualSchedules_alike (h : Alike document document') (href : References document) (href' : References document') :
    (document.priceSchedules.entries.mapM fun (id, layer) => resolvePriceSchedule lib document id layer) =
      document.priceSchedules.entries.mapM fun (id, layer) => resolvePriceSchedule lib document' id layer :=
  mapM_congr (List.forall₂_same.mpr fun entry _ => resolvePriceSchedule_alike h href href' entry.1 entry.2)

theorem releaseSchedules_alike (h : Alike document document') :
    (document.providers.entries.mapM fun (profile, definition) => profilePriceSchedules profile definition) =
      document'.providers.entries.mapM fun (profile, definition) => profilePriceSchedules profile definition := by
  refine mapM_congr ((OrdMap.entries_rel h.profiles).imp fun entry entry' hentry => ?_)
  obtain ⟨hid, hprofile⟩ := hentry
  show profilePriceSchedules entry.1 entry.2 = profilePriceSchedules entry'.1 entry'.2
  rw [hid, hprofile.rest]
  rfl

theorem resolvePriceScheduleBook_alike (h : Alike document document') (href : References document) (href' : References document') :
    resolvePriceScheduleBook lib document = resolvePriceScheduleBook lib document' := by
  have hschedules : document'.priceSchedules = document.priceSchedules := by rw [h.rest]
  unfold resolvePriceScheduleBook
  rw [hschedules, manualSchedules_alike h href href', releaseSchedules_alike h]

theorem validatePreset_alike (h : Alike document document') (id : String) (preset : ModelPresetLayer) :
    validatePreset document id preset = validatePreset document' id preset := by
  have hpresets : document'.modelPresets = document.modelPresets := by rw [h.rest]
  have hstarter : validateStarter document id = validateStarter document' id := by
    funext starter
    unfold validateStarter
    refine bind_congr fun provenance => bind_congr fun accepted => ?_
    have hrel := h.profiles provenance.provider
    generalize document.providers.get provenance.provider = found at hrel
    generalize document'.providers.get provenance.provider = found' at hrel
    cases hrel with
    | none => rfl
    | some hprofile =>
      rw [okOr_some, okOr_some, ok_bind, ok_bind, hprofile.rest]
  unfold validatePreset
  simp only [contains_alike h, hstarter]
  unfold validateFallback
  rw [hpresets]

theorem validateProfiles_alike (h : Alike document document') :
    (document.providers.entries.forM fun (id, profile) => validateProfile lib id profile) =
      document'.providers.entries.forM fun (id, profile) => validateProfile lib id profile := by
  refine forM_congr ((OrdMap.entries_rel h.profiles).imp fun entry entry' hentry => ?_)
  obtain ⟨hid, hprofile⟩ := hentry
  show validateProfile lib entry.1 entry.2 = validateProfile lib entry'.1 entry'.2
  rw [hid]
  exact validateProfile_alike hprofile _

/-- Of documents that are alike the same is checked. -/
theorem validateEffective_alike (h : Alike document document') (href : References document) (href' : References document')
    (hlayer : document.validateLayer = document'.validateLayer) : validateEffective lib document = validateEffective lib document' := by
  have hpresets : document'.modelPresets = document.modelPresets := by rw [h.rest]
  unfold validateEffective
  simp only [hlayer, validateProfiles_alike h, contains_alike h, resolvePriceScheduleBook_alike h href href', validatePreset_alike h,
    ← validateFallbackCycles_presets hpresets]
  rw [h.rest]
  rfl

/-- A field with a reference that is an id passes its checks wherever another does. -/
theorem validateField_alike {path : String} {value value' : ConfigValue} (h : SameValue IdText path value value') :
    validateField (path, value) = validateField (path, value') := by
  rcases h with rfl | ⟨hpath, reference, reference', rfl, rfl, hid, hid'⟩
  · rfl
  · have hvalid : ∀ id, IdText id → validateValue path (.string id) = .ok () ∧ validateId path id = .ok () := by
      intro id hid
      obtain ⟨owner, rfl⟩ := hpath
      have hother : ∀ field, pathMatches ["model_presets", "<id>", field] (segments (credentialField owner)) = false := by
        intro field
        rw [credentialField_segments]
        simp [pathMatches]
      refine ⟨?_, validateId_ok.mpr hid⟩
      unfold validateValue
      simp only [seq_ok, require_ok, hother, Bool.false_eq_true, false_implies, and_true]
      exact validateString_ok.mpr hid.providerText
    unfold validateField
    cases hentry : requireSchemaEntry path with
    | error e => rfl
    | ok descriptor =>
      simp only [ok_bind, credentialField_entry hpath hentry, if_true, (hvalid _ hid).1, (hvalid _ hid').1, (hvalid _ hid).2,
        (hvalid _ hid').2]
      rfl

theorem validateLayer_alike (h : Alike document document') (href : References document) (href' : References document') :
    document.validateLayer = document'.validateLayer := by
  have hfields : document.flatten.entries.forM validateField = document'.flatten.entries.forM validateField := by
    refine forM_congr ((OrdMap.entries_relAt (h.flatten href href')).imp fun field field' hfield => ?_)
    obtain ⟨hpath, hvalue⟩ := hfield
    rw [show field' = (field.1, field'.2) from Prod.ext hpath.symm rfl]
    exact validateField_alike hvalue
  have hkeys : document.providers.keys = document'.providers.keys := by
    have hentries := OrdMap.entries_rel h.profiles
    rw [OrdMap.keys, OrdMap.keys, ← List.forall₂_eq_eq_eq, List.forall₂_map_left_iff, List.forall₂_map_right_iff]
    exact hentries.imp fun _ _ hentry => hentry.1
  unfold ConfigDocument.validateLayer
  rw [hfields, hkeys, h.rest]
  rfl

theorem ConfigDocument.ValidLayer.references (h : document.ValidLayer) : References document := by
  intro id profile hget reference hreference
  have hname : ("credential", text (·.credential)) ∈ ProviderProfileLayer.fields := by simp [ProviderProfileLayer.fields]
  have hfield := h.fields _ (ConfigDocument.profile_field hget hname (by rw [text, hreference]; rfl))
  unfold validateField at hfield
  simp only [bind_ok, exists_unit] at hfield
  obtain ⟨descriptor, hentry, _, _, hid⟩ := hfield
  rw [if_pos (credentialField_entry ⟨id, rfl⟩ hentry)] at hid
  exact validateId_ok.mp hid

variable {builtIn builtIn' user user' project project' cli cli' : ConfigDocument}

/-- Valid layers that are alike resolve both or fail both, with one error. -/
theorem resolveDocuments_alike (hbuiltIn : Alike builtIn builtIn') (huser : Alike user user') (hproject : Alike project project')
    (hcli : Alike cli cli') (layers : builtIn.ValidLayer ∧ user.ValidLayer ∧ project.ValidLayer ∧ cli.ValidLayer)
    (layers' : builtIn'.ValidLayer ∧ user'.ValidLayer ∧ project'.ValidLayer ∧ cli'.ValidLayer) :
    (fun _ => ()) <$> resolveDocuments lib builtIn user project cli =
      (fun _ => ()) <$> resolveDocuments lib builtIn' user' project' cli' := by
  obtain ⟨hb, hu, hp, hc⟩ := layers
  obtain ⟨hb', hu', hp', hc'⟩ := layers'
  have hmerged : (mergeDocuments builtIn user project cli).ValidLayer := ((hb.mergeFrom hu).mergeFrom hp).mergeFrom hc
  have hmerged' : (mergeDocuments builtIn' user' project' cli').ValidLayer := ((hb'.mergeFrom hu').mergeFrom hp').mergeFrom hc'
  have heffective := @validateEffective_alike lib _ _ (.merge hbuiltIn huser hproject hcli) hmerged.references hmerged'.references
    ((ConfigDocument.validateLayer_ok.mpr hmerged).trans (ConfigDocument.validateLayer_ok.mpr hmerged').symm)
  unfold resolveDocuments
  rw [ConfigDocument.validateLayer_ok.mpr hb, ConfigDocument.validateLayer_ok.mpr hu, ConfigDocument.validateLayer_ok.mpr hp,
    ConfigDocument.validateLayer_ok.mpr hc, ConfigDocument.validateLayer_ok.mpr hb', ConfigDocument.validateLayer_ok.mpr hu',
    ConfigDocument.validateLayer_ok.mpr hp', ConfigDocument.validateLayer_ok.mpr hc']
  simp only [ok_bind, heffective, map_bind, map_pure]
  rw [hbuiltIn.rest, huser.rest, hproject.rest, hcli.rest]
  rfl

end Acceptance

/-! ## Effective entries -/

section Entries

/-- The same path and the same source, and the same value but for a reference. -/
structure AlikeEntry (entry entry' : EffectiveConfigEntry) : Prop where
  path : entry'.path = entry.path
  source : entry'.source = entry.source
  value : SameValue (fun _ => True) entry.path entry.value entry'.value

variable {builtIn builtIn' user user' project project' cli cli' : ConfigDocument}

theorem layerEntries_alike (scope : ConfigScope) (h : Alike document document') :
    List.Forall₂ (fun e e' => e.1 = e'.1 ∧ AlikeEntry e.2 e'.2)
      (document.flatten.entries.map fun (path, value) => (path, EffectiveConfigEntry.mk path value scope))
      (document'.flatten.entries.map fun (path, value) => (path, EffectiveConfigEntry.mk path value scope)) := by
  rw [List.forall₂_map_left_iff, List.forall₂_map_right_iff]
  have hany : ∀ document : ConfigDocument, Bound (fun _ => True) document := fun _ _ _ _ _ _ => trivial
  refine (OrdMap.entries_relAt (h.flatten (hany _) (hany _))).imp fun field field' hfield => ?_
  obtain ⟨hpath, hvalue⟩ := hfield
  exact ⟨hpath, ⟨hpath.symm, rfl, hvalue⟩⟩

theorem effectiveEntries_alike (hbuiltIn : Alike builtIn builtIn') (huser : Alike user user') (hproject : Alike project project')
    (hcli : Alike cli cli') :
    List.Forall₂ AlikeEntry (effectiveEntries builtIn user project cli) (effectiveEntries builtIn' user' project' cli') := by
  unfold effectiveEntries
  rw [OrdMap.values, OrdMap.values, List.forall₂_map_left_iff, List.forall₂_map_right_iff]
  refine (OrdMap.entries_rel (r := AlikeEntry) (OrdMap.rel_foldl_insert (r := fun _ => AlikeEntry) ?_ fun _ => .none)).imp
    fun _ _ hentry => hentry.2
  simp only [List.flatMap_cons, List.flatMap_nil]
  exact List.rel_append (layerEntries_alike _ hbuiltIn) (List.rel_append (layerEntries_alike _ huser)
    (List.rel_append (layerEntries_alike _ hproject) (List.rel_append (layerEntries_alike _ hcli) .nil)))

end Entries

end GreenTyper.Config
