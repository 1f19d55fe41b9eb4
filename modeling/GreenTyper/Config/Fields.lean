/-
  GreenTyper.Config.Fields — what the checks of a layer amount to, and that merging keeps it.

  Where no id has a dot no two fields share a path (`fields_functional`), so the flattened
  map has every field (`get_flatten`), and a layer that passes has each of its fields
  checked (`validateLayer_ok`). A layer merged over another has no field that neither has
  (`fields_mergeFrom`), so valid layers merge to a valid one (`ValidLayer.mergeFrom`).
-/

import GreenTyper.Config.Validate

namespace GreenTyper.Config

open Lib Provider Usage

/-! ## Fields by path -/

theorem IdText.noDot {id : String} (h : IdText id) : NoDot id := by
  intro hdot
  rcases isIdText_char h.2.2 hdot with hlow | hdigit | hhyphen
  · exact absurd hlow (by decide)
  · exact absurd hdigit (by decide)
  · exact absurd hhyphen (by decide)

theorem objectFields_functional {α : Type} {objects : List (String × α)} (h : Functional objects)
    (table : Table α ConfigValue) : Functional (objectFields table objects) := by
  intro id fs fs' hfs hfs'
  simp only [objectFields, List.mem_map, Prod.mk.injEq, Prod.exists] at hfs hfs'
  obtain ⟨_, object, hmem, rfl, rfl⟩ := hfs
  obtain ⟨_, object', hmem', rfl, rfl⟩ := hfs'
  rw [h _ _ _ hmem hmem']

/-- A field of one of the objects. -/
theorem mem_objects {α : Type} {table : Table α ConfigValue} {objects : List (String × α)} {path : String} {value : ConfigValue} :
    (path, value) ∈ nest (objectFields table objects) ↔
      ∃ id object rest, (id, object) ∈ objects ∧ (rest, value) ∈ present table object ∧ path = dotted id rest := by
  simp only [mem_nest, objectFields, List.mem_map, Prod.mk.injEq, Prod.exists]
  constructor
  · rintro ⟨_, _, rest, ⟨id, object, hmem, rfl, rfl⟩, hrest, rfl⟩
    exact ⟨id, object, rest, hmem, hrest, rfl⟩
  · rintro ⟨id, object, rest, hmem, hrest, rfl⟩
    exact ⟨id, _, rest, ⟨id, object, hmem, rfl, rfl⟩, hrest, rfl⟩

theorem objects_functional {α : Type} {table : Table α ConfigValue} {objects : List (String × α)} (h : Functional objects)
    (hids : ∀ object ∈ objects, NoDot object.1) (hnames : (table.map (·.1)).Nodup) :
    Functional (nest (objectFields table objects)) := by
  refine (objectFields_functional h table).nest ?_ ?_
  · intro group hgroup
    obtain ⟨object, hmem, rfl⟩ := List.mem_map.mp hgroup
    exact hids object hmem
  · intro group hgroup
    obtain ⟨object, _, rfl⟩ := List.mem_map.mp hgroup
    exact present_functional hnames object.2

/-- No id of a document has a dot, and no two windows share one. -/
structure ConfigDocument.PlainIds (document : ConfigDocument) : Prop where
  providers : ∀ id ∈ document.providers.keys, NoDot id
  modelPresets : ∀ id ∈ document.modelPresets.keys, NoDot id
  priceSchedules : ∀ id ∈ document.priceSchedules.keys, NoDot id
  windows : ∀ window ∈ document.windows, NoDot window.id
  distinct : (document.windows.map (·.id)).Nodup

namespace ConfigDocument

variable {document : ConfigDocument}

theorem fields_functional (h : document.PlainIds) : Functional document.fields := by
  have hmap : ∀ {α : Type} {m : OrdMap String α}, (∀ id ∈ m.keys, NoDot id) → ∀ object ∈ m.entries, NoDot object.1 :=
    fun hkeys object hmem => hkeys _ (List.mem_map_of_mem hmem)
  have hwindows : Functional document.windowObjects := by
    refine Functional.of_nodup ?_
    rw [windowObjects, List.map_map]
    exact h.distinct
  refine Functional.nest (Functional.of_nodup ?_) ?_ ?_
  · show ["provider", "runtime", "agent", "providers", "model_presets", "price_schedules", "ui", "stats"].Nodup
    decide
  · simp only [groups, List.forall_mem_cons, List.not_mem_nil, false_implies, implies_true, and_true]
    decide
  · simp only [groups, List.forall_mem_cons, List.not_mem_nil, false_implies, implies_true, and_true]
    refine ⟨present_functional (by decide) _, present_functional (by decide) _, present_functional (by decide) _,
      objects_functional document.providers.functional (hmap h.providers) (by decide),
      objects_functional document.modelPresets.functional (hmap h.modelPresets) (by decide),
      objects_functional document.priceSchedules.functional (hmap h.priceSchedules) (by decide),
      present_functional (by decide) _, ?_⟩
    refine Functional.nest (Functional.of_nodup (by simp)) (by simp only [List.forall_mem_singleton]; decide) ?_
    rw [List.forall_mem_singleton]
    refine objects_functional hwindows ?_ (by decide)
    intro object hmem
    obtain ⟨window, hwindow, rfl⟩ := List.mem_map.mp hmem
    exact h.windows window hwindow

theorem get_flatten (h : document.PlainIds) {path : String} {value : ConfigValue} :
    document.flatten.get path = some value ↔ (path, value) ∈ document.fields :=
  get_ofList (fields_functional h)

end ConfigDocument

/-! ## Valid layers -/

structure ConfigDocument.ValidLayer (document : ConfigDocument) : Prop where
  schema : document.schemaVersion = configFileSchemaVersion
  fields : ∀ field ∈ document.fields, validateField field = .ok ()
  providers : ∀ id ∈ document.providers.keys, IdText id
  modelPresets : ∀ id ∈ document.modelPresets.keys, IdText id
  starters : ∀ id preset, document.modelPresets.get id = some preset → ∀ starter, preset.starter = some starter →
    ∃ provenance, starter.provenance id = .ok provenance
  default : ∀ id, document.agent.defaultModelPreset = some id → IdText id
  priceSchedules : ∀ id ∈ document.priceSchedules.keys, IdText id
  windows : ∀ window ∈ document.windows, IdText window.id
  distinct : (document.windows.map (·.id)).Nodup

theorem ConfigDocument.ValidLayer.plainIds {document : ConfigDocument} (h : document.ValidLayer) : document.PlainIds where
  providers := fun id hid => (h.providers id hid).noDot
  modelPresets := fun id hid => (h.modelPresets id hid).noDot
  priceSchedules := fun id hid => (h.priceSchedules id hid).noDot
  windows := fun window hwindow => (h.windows window hwindow).noDot
  distinct := h.distinct

theorem validateId_ok {path id : String} : validateId path id = .ok () ↔ IdText id := require_ok

theorem validateString_ok {path value : String} : validateString path value = .ok () ↔ ProviderText maxConfigStringBytes value := by
  simp only [validateString, ProviderText, seq_ok, require_ok]

theorem validateWindowIds_ok {windows : List UsageWindowLayer} : ∀ {seen : List String}, validateWindowIds seen windows = .ok () ↔
    (∀ window ∈ windows, IdText window.id ∧ window.id ∉ seen) ∧ (windows.map (·.id)).Nodup := by
  induction windows with
  | nil => simp [validateWindowIds]
  | cons window windows ih =>
    intro seen
    simp only [validateWindowIds, seq_ok, validateId_ok, require_ok, ih, List.forall_mem_cons, List.map_cons, List.nodup_cons]
    constructor
    · rintro ⟨hid, hseen, hall, hnodup⟩
      refine ⟨⟨⟨hid, hseen⟩, fun w hw => ⟨(hall w hw).1, fun hm => (hall w hw).2 (List.mem_cons_of_mem _ hm)⟩⟩, ?_, hnodup⟩
      intro hmem
      obtain ⟨w, hw, hwid⟩ := List.mem_map.mp hmem
      exact (hall w hw).2 (hwid ▸ List.mem_cons_self)
    · rintro ⟨⟨⟨hid, hseen⟩, hall⟩, hnot, hnodup⟩
      refine ⟨hid, hseen, fun w hw => ⟨(hall w hw).1, fun hm => ?_⟩, hnodup⟩
      rcases List.mem_cons.mp hm with heq | hm
      · exact hnot (heq ▸ List.mem_map_of_mem hw)
      · exact (hall w hw).2 hm

namespace ConfigDocument

theorem validatePresets_ok {document : ConfigDocument} : (document.modelPresets.entries.forM fun (id, preset) => do
      validateId "model_presets.<id>" id
      preset.starter.forM fun starter => do
        let _ ← starter.provenance id) = .ok () ↔ (∀ id ∈ document.modelPresets.keys, IdText id) ∧
    ∀ id preset, document.modelPresets.get id = some preset → ∀ starter, preset.starter = some starter →
      ∃ provenance, starter.provenance id = .ok provenance := by
  simp only [forM_ok, seq_ok, validateId_ok, option_forM_ok, Prod.forall, OrdMap.mem_entries, OrdMap.mem_keys]
  simp only [bind_ok, pure, Except.pure, and_true]
  constructor
  · intro h
    refine ⟨fun id hid => ?_, fun id preset hget => (h id preset hget).2⟩
    obtain ⟨preset, hget⟩ := hid
    exact (h id preset hget).1
  · intro h id preset hget
    exact ⟨h.1 id ⟨preset, hget⟩, h.2 id preset hget⟩

theorem validateLayer_ok {document : ConfigDocument} : document.validateLayer = .ok () ↔ document.ValidLayer := by
  have hkeys : ∀ {α : Type} {m : OrdMap String α} {path : String},
      m.keys.forM (validateId path) = .ok () ↔ ∀ id ∈ m.keys, IdText id := by
    intro α m path
    simp only [forM_ok, validateId_ok]
  simp only [validateLayer, seq_ok, require_ok, hkeys, validatePresets_ok, option_forM_ok, validateId_ok, validateWindowIds_ok,
    List.not_mem_nil, not_false_eq_true, and_true]
  -- The walk over the flattened map sees every field, for the ids that pass have no dots.
  constructor
  · rintro ⟨hschema, hfields, hproviders, ⟨hpreset, hstarters⟩, hdefault, hschedules, hwindows, hdistinct⟩
    have hplain : document.PlainIds := ⟨fun id hid => (hproviders id hid).noDot, fun id hid => (hpreset id hid).noDot,
      fun id hid => (hschedules id hid).noDot, fun w hw => (hwindows w hw).noDot, hdistinct⟩
    refine ⟨hschema, fun field hmem => ?_, hproviders, hpreset, hstarters, hdefault, hschedules, hwindows, hdistinct⟩
    exact forM_ok.mp hfields field (OrdMap.mem_entries.mpr ((get_flatten hplain).mpr hmem))
  · intro h
    refine ⟨h.schema, forM_ok.mpr fun field hmem => ?_, h.providers, ⟨h.modelPresets, h.starters⟩, h.default, h.priceSchedules,
      h.windows, h.distinct⟩
    exact h.fields field (mem_of_get_ofList (OrdMap.mem_entries.mp hmem))

end ConfigDocument

/-! ## Merged layers -/

/-- Every field of the first list is a field of one of the others. -/
def Covered (fields base overlay : List (String × ConfigValue)) : Prop := ∀ field ∈ fields, field ∈ base ∨ field ∈ overlay

/-- Each cell of a merged record is that of one of the two. -/
def Cells {α : Type} (table : Table α ConfigValue) (merge : α → α → α) : Prop :=
  ∀ field ∈ table, ∀ base overlay, field.2 (merge base overlay) = field.2 base ∨ field.2 (merge base overlay) = field.2 overlay

theorem Cells.covered {α : Type} {table : Table α ConfigValue} {merge : α → α → α} (h : Cells table merge) (base overlay : α) :
    Covered (present table (merge base overlay)) (present table base) (present table overlay) := by
  intro field hfield
  obtain ⟨read, hmem, hread⟩ := mem_present.mp hfield
  rcases h _ hmem base overlay with heq | heq
  · exact Or.inl (mem_present.mpr ⟨read, hmem, heq.symm.trans hread⟩)
  · exact Or.inr (mem_present.mpr ⟨read, hmem, heq.symm.trans hread⟩)

theorem Covered.nest_cons {name : String} {fields base overlay : List (String × ConfigValue)}
    {groups baseGroups overlayGroups : List (String × List (String × ConfigValue))} (h : Covered fields base overlay)
    (hrest : Covered (nest groups) (nest baseGroups) (nest overlayGroups)) :
    Covered (nest ((name, fields) :: groups)) (nest ((name, base) :: baseGroups)) (nest ((name, overlay) :: overlayGroups)) := by
  intro field hfield
  simp only [nest, List.flatMap_cons, List.mem_append, List.mem_map] at hfield ⊢
  rcases hfield with ⟨cell, hcell, rfl⟩ | hfield
  · exact (h cell hcell).imp (fun hm => Or.inl ⟨cell, hm, rfl⟩) (fun hm => Or.inl ⟨cell, hm, rfl⟩)
  · exact (hrest field hfield).imp Or.inr Or.inr

theorem Covered.nil {base overlay : List (String × ConfigValue)} : Covered (nest []) base overlay := by
  intro field hfield
  simp [nest] at hfield

/-- A map of objects merged by id. -/
theorem Covered.mergeWith {α : Type} {table : Table α ConfigValue} {merge : α → α → α} {default : α} (h : Cells table merge)
    (hdefault : present table default = []) (base overlay : OrdMap String α) :
    Covered (nest (objectFields table (base.mergeWith default merge overlay).entries))
      (nest (objectFields table base.entries)) (nest (objectFields table overlay.entries)) := by
  intro field hfield
  obtain ⟨id, object, rest, hmem, hrest, hpath⟩ := mem_objects.mp hfield
  have hget := OrdMap.mem_entries.mp hmem
  rw [OrdMap.get_mergeWith] at hget
  have hobject : ∀ {m : OrdMap String α} {o : α}, m.get id = some o → (rest, field.2) ∈ present table o →
      field ∈ nest (objectFields table m.entries) :=
    fun ho hr => mem_objects.mpr ⟨id, _, rest, OrdMap.mem_entries.mpr ho, hr, hpath⟩
  cases hoverlay : overlay.get id with
  | none =>
    rw [hoverlay] at hget
    exact Or.inl (hobject hget hrest)
  | some above =>
    rw [hoverlay] at hget
    cases hget
    rcases h.covered _ _ _ hrest with hbelow | habove
    · cases hbase : base.get id with
      | none =>
        rw [hbase, Option.getD_none, hdefault] at hbelow
        cases hbelow
      | some below =>
        rw [hbase, Option.getD_some] at hbelow
        exact Or.inl (hobject hbase hbelow)
    · exact Or.inr (hobject hoverlay habove)

section Records

theorem map_or_cases {α β : Type} (f : α → β) (above below : Option α) :
    (above.or below).map f = below.map f ∨ (above.or below).map f = above.map f := by
  cases above <;> simp

theorem bind_or_cases {α β : Type} (f : α → Option β) (above below : Option α) :
    (above.or below).bind f = below.bind f ∨ (above.or below).bind f = above.bind f := by
  cases above <;> simp

theorem bootstrap_cells : Cells BootstrapProviderLayer.fields fun base overlay =>
    ⟨mergeOption base.profile overlay.profile, mergeOption base.model overlay.model⟩ := by
  simp only [Cells, BootstrapProviderLayer.fields, List.forall_mem_cons, text, mergeOption]
  exact ⟨fun _ _ => map_or_cases _ _ _, fun _ _ => map_or_cases _ _ _, by simp⟩

theorem runtime_cells : Cells RuntimeLayer.fields fun base overlay => ⟨mergeOption base.maxOutputBytes overlay.maxOutputBytes⟩ := by
  simp only [Cells, RuntimeLayer.fields, List.forall_mem_cons, positive, mergeOption]
  exact ⟨fun _ _ => map_or_cases _ _ _, by simp⟩

theorem agent_cells : Cells AgentLayer.fields fun base overlay =>
    ⟨mergeOption base.defaultModelPreset overlay.defaultModelPreset⟩ := by
  simp only [Cells, AgentLayer.fields, List.forall_mem_cons, text, mergeOption]
  exact ⟨fun _ _ => map_or_cases _ _ _, by simp⟩

theorem ProviderProfileLayer.cells : Cells ProviderProfileLayer.fields ProviderProfileLayer.mergeFrom := by
  simp only [Cells, ProviderProfileLayer.fields, List.forall_mem_cons, text, texts, boolean, Option.map_map,
    ProviderProfileLayer.mergeFrom, ProviderRoutesLayer.mergeFrom, mergeOption]
  refine ⟨?_, ?_, ?_, ?_, ?_, ?_, ?_, ?_, ?_, ?_, ?_, by simp⟩ <;> exact fun _ _ => map_or_cases _ _ _

theorem ModelPresetLayer.cells : Cells ModelPresetLayer.fields ModelPresetLayer.mergeFrom := by
  simp only [Cells, ModelPresetLayer.fields, List.forall_mem_cons, text, texts, boolean, positive, dialectText,
    Option.map_bind, ModelPresetLayer.mergeFrom, mergeOption]
  refine ⟨?_, ?_, ?_, ?_, ?_, ?_, ?_, ?_, ?_, ?_, ?_, ?_, ?_, ?_, by simp⟩ <;>
    first | exact fun _ _ => map_or_cases _ _ _ | exact fun _ _ => bind_or_cases _ _ _

theorem PriceScheduleLayer.cells : Cells PriceScheduleLayer.fields PriceScheduleLayer.mergeFrom := by
  simp only [Cells, PriceScheduleLayer.fields, List.forall_mem_cons, text, natural, dialectText, Option.map_map,
    PriceScheduleLayer.mergeFrom, PriceRatesLayer.mergeFrom, mergeOption]
  refine ⟨?_, ?_, ?_, ?_, ?_, ?_, ?_, ?_, ?_, ?_, ?_, ?_, ?_, ?_, ?_, ?_, ?_, by simp⟩ <;> exact fun _ _ => map_or_cases _ _ _

theorem UiLayer.cells : Cells UiLayer.fields UiLayer.mergeFrom := by
  simp only [Cells, UiLayer.fields, List.forall_mem_cons, text, texts, Option.map_map, UiLayer.mergeFrom, mergeOption]
  refine ⟨?_, ?_, ?_, ?_, ?_, by simp⟩ <;> exact fun _ _ => map_or_cases _ _ _

theorem UsageWindowLayer.cells : Cells UsageWindowLayer.fields UsageWindowLayer.mergeFrom := by
  simp only [Cells, UsageWindowLayer.fields, List.forall_mem_cons, text, texts, Option.map_map,
    UsageWindowLayer.mergeFrom, mergeOption]
  refine ⟨?_, ?_, ?_, ?_, by simp⟩ <;> exact fun _ _ => map_or_cases _ _ _

end Records

section Windows

theorem mem_mergeWindow {window overlay : UsageWindowLayer} : ∀ {windows : List UsageWindowLayer},
    window ∈ mergeWindow windows overlay →
      window ∈ windows ∨ window = overlay ∨ ∃ below ∈ windows, below.id = overlay.id ∧ window = below.mergeFrom overlay := by
  intro windows
  induction windows with
  | nil => simp [mergeWindow]
  | cons below windows ih =>
    intro h
    unfold mergeWindow at h
    split at h
    · rename_i hid
      rcases List.mem_cons.mp h with rfl | h
      · exact Or.inr (Or.inr ⟨below, List.mem_cons_self, hid, rfl⟩)
      · exact Or.inl (List.mem_cons_of_mem _ h)
    · rcases List.mem_cons.mp h with rfl | h
      · exact Or.inl List.mem_cons_self
      · rcases ih h with h | h | ⟨below', hmem, hid, rfl⟩
        · exact Or.inl (List.mem_cons_of_mem _ h)
        · exact Or.inr (Or.inl h)
        · exact Or.inr (Or.inr ⟨below', List.mem_cons_of_mem _ hmem, hid, rfl⟩)

theorem mergeWindow_ids (overlay : UsageWindowLayer) : ∀ windows : List UsageWindowLayer,
    (mergeWindow windows overlay).map (·.id) =
      if overlay.id ∈ windows.map (·.id) then windows.map (·.id) else windows.map (·.id) ++ [overlay.id] := by
  intro windows
  induction windows with
  | nil => simp [mergeWindow]
  | cons below windows ih =>
    unfold mergeWindow
    split
    · rename_i hid
      simp [hid, UsageWindowLayer.mergeFrom]
    · rename_i hid
      have hne : overlay.id ≠ below.id := fun h => hid h.symm
      rw [List.map_cons, ih, List.map_cons]
      by_cases hmem : overlay.id ∈ windows.map (·.id)
      · rw [if_pos hmem, if_pos (List.mem_cons_of_mem _ hmem)]
      · rw [if_neg hmem, if_neg (by simpa [hne] using hmem), List.cons_append]

variable {windows overlays : List UsageWindowLayer}

/-- A cell of a merged window is that of a window with its id in one of the lists. -/
theorem mergeWindows_cell : ∀ {windows : List UsageWindowLayer} {window : UsageWindowLayer} {cell : String × ConfigValue},
    window ∈ overlays.foldl mergeWindow windows → cell ∈ present UsageWindowLayer.fields window →
      ∃ window', (window' ∈ windows ∨ window' ∈ overlays) ∧ window'.id = window.id ∧
        cell ∈ present UsageWindowLayer.fields window' := by
  induction overlays with
  | nil => exact fun hmem hcell => ⟨_, Or.inl hmem, rfl, hcell⟩
  | cons overlay overlays ih =>
    intro windows window cell hmem hcell
    obtain ⟨window', hfrom, hid, hcell'⟩ := ih hmem hcell
    rcases hfrom with hfrom | hfrom
    · rcases mem_mergeWindow hfrom with h | rfl | ⟨below, hbelow, hbid, rfl⟩
      · exact ⟨window', Or.inl h, hid, hcell'⟩
      · exact ⟨window', Or.inr List.mem_cons_self, hid, hcell'⟩
      · rcases UsageWindowLayer.cells.covered below overlay cell hcell' with h | h
        · exact ⟨below, Or.inl hbelow, hid, h⟩
        · exact ⟨overlay, Or.inr List.mem_cons_self, hbid.symm.trans hid, h⟩
    · exact ⟨window', Or.inr (List.mem_cons_of_mem _ hfrom), hid, hcell'⟩

theorem mergeWindows_ids : ∀ {windows : List UsageWindowLayer}, (windows.map (·.id)).Nodup →
    ((overlays.foldl mergeWindow windows).map (·.id)).Nodup ∧
      ∀ id ∈ (overlays.foldl mergeWindow windows).map (·.id), id ∈ windows.map (·.id) ∨ id ∈ overlays.map (·.id) := by
  induction overlays with
  | nil => exact fun hnodup => ⟨hnodup, fun id hid => Or.inl hid⟩
  | cons overlay overlays ih =>
    intro windows hnodup
    have hids := mergeWindow_ids overlay windows
    have hstep : ((mergeWindow windows overlay).map (·.id)).Nodup := by
      rw [hids]
      split
      · exact hnodup
      · rename_i hnot
        exact List.nodup_append.mpr ⟨hnodup, List.nodup_singleton _, fun a ha b hb heq =>
          hnot ((List.mem_singleton.mp hb) ▸ heq ▸ ha)⟩
    obtain ⟨hdone, hfrom⟩ := ih hstep
    refine ⟨hdone, fun id hid => ?_⟩
    rcases hfrom id hid with h | h
    · rw [hids] at h
      split at h
      · exact Or.inl h
      · rcases List.mem_append.mp h with h | h
        · exact Or.inl h
        · exact Or.inr (List.mem_singleton.mp h ▸ List.mem_cons_self)
    · exact Or.inr (List.mem_cons_of_mem _ h)

end Windows

namespace ConfigDocument

theorem windows_mergeFrom (document overlay : ConfigDocument) :
    (document.mergeFrom overlay).windows = overlay.windows.foldl mergeWindow document.windows := by
  unfold windows mergeFrom StatsLayer.mergeFrom
  cases overlay.stats.windows <;> rfl

theorem fields_mergeFrom (document overlay : ConfigDocument) :
    Covered (document.mergeFrom overlay).fields document.fields overlay.fields := by
  have hwindows : Covered (nest (objectFields UsageWindowLayer.fields (document.mergeFrom overlay).windowObjects))
      (nest (objectFields UsageWindowLayer.fields document.windowObjects))
      (nest (objectFields UsageWindowLayer.fields overlay.windowObjects)) := by
    intro field hfield
    obtain ⟨id, window, rest, hmem, hrest, hpath⟩ := mem_objects.mp hfield
    obtain ⟨window, hwindow, heq⟩ := List.mem_map.mp hmem
    cases heq
    rw [windows_mergeFrom] at hwindow
    obtain ⟨window', hfrom, hid, hcell⟩ := mergeWindows_cell hwindow hrest
    have hobject : ∀ {d : ConfigDocument}, window' ∈ d.windows → field ∈ nest (objectFields UsageWindowLayer.fields d.windowObjects) :=
      fun hm => mem_objects.mpr ⟨window.id, window', rest, hid ▸ List.mem_map_of_mem hm, hcell, hpath⟩
    exact hfrom.imp hobject hobject
  refine .nest_cons (bootstrap_cells.covered _ _) (.nest_cons (runtime_cells.covered _ _) (.nest_cons (agent_cells.covered _ _)
    (.nest_cons (.mergeWith ProviderProfileLayer.cells (by decide) _ _) (.nest_cons (.mergeWith ModelPresetLayer.cells (by decide) _ _)
    (.nest_cons (.mergeWith PriceScheduleLayer.cells (by decide) _ _) (.nest_cons (UiLayer.cells.covered _ _)
    (.nest_cons (.nest_cons hwindows .nil) .nil)))))))

theorem mem_keys_mergeWith {α : Type} {base overlay : OrdMap String α} {default : α} {merge : α → α → α} {id : String}
    (h : id ∈ (base.mergeWith default merge overlay).keys) : id ∈ base.keys ∨ id ∈ overlay.keys := by
  obtain ⟨object, hget⟩ := OrdMap.mem_keys.mp h
  rw [OrdMap.get_mergeWith] at hget
  cases hoverlay : overlay.get id with
  | none =>
    rw [hoverlay] at hget
    exact Or.inl (OrdMap.mem_keys.mpr ⟨object, hget⟩)
  | some above => exact Or.inr (OrdMap.mem_keys.mpr ⟨above, hoverlay⟩)

theorem ValidLayer.mergeFrom {document overlay : ConfigDocument} (h : document.ValidLayer) (h' : overlay.ValidLayer) :
    (document.mergeFrom overlay).ValidLayer where
  schema := h.schema
  fields := fun field hmem => (fields_mergeFrom document overlay field hmem).elim (h.fields field) (h'.fields field)
  providers := fun id hid => (mem_keys_mergeWith hid).elim (h.providers id) (h'.providers id)
  modelPresets := fun id hid => (mem_keys_mergeWith hid).elim (h.modelPresets id) (h'.modelPresets id)
  starters := by
    intro id preset hget starter hstarter
    have hget : (document.modelPresets.mergeWith .default .mergeFrom overlay.modelPresets).get id = some preset := hget
    rw [OrdMap.get_mergeWith] at hget
    cases hoverlay : overlay.modelPresets.get id with
    | none =>
      rw [hoverlay] at hget
      exact h.starters id preset hget starter hstarter
    | some above =>
      rw [hoverlay] at hget
      cases hget
      have hor : above.starter.or ((document.modelPresets.get id).getD .default).starter = some starter := hstarter
      rcases Option.or_eq_some_iff.mp hor with habove | ⟨_, hbelow⟩
      · exact h'.starters id above hoverlay starter habove
      · cases hbase : document.modelPresets.get id with
        | none =>
          rw [hbase] at hbelow
          cases hbelow
        | some below =>
          rw [hbase] at hbelow
          exact h.starters id below hbase starter hbelow
  default := by
    intro id hid
    have hor : overlay.agent.defaultModelPreset.or document.agent.defaultModelPreset = some id := hid
    rcases Option.or_eq_some_iff.mp hor with hid | ⟨_, hid⟩
    · exact h'.default id hid
    · exact h.default id hid
  priceSchedules := fun id hid => (mem_keys_mergeWith hid).elim (h.priceSchedules id) (h'.priceSchedules id)
  windows := by
    intro window hwindow
    rw [windows_mergeFrom] at hwindow
    rcases (mergeWindows_ids h.distinct).2 window.id (List.mem_map_of_mem hwindow) with hid | hid
    · obtain ⟨w, hw, heq⟩ := List.mem_map.mp hid
      exact heq ▸ h.windows w hw
    · obtain ⟨w, hw, heq⟩ := List.mem_map.mp hid
      exact heq ▸ h'.windows w hw
  distinct := by
    rw [windows_mergeFrom]
    exact (mergeWindows_ids h.distinct).1

end ConfigDocument

end GreenTyper.Config
