/-
  GreenTyper.Config.Places — the records of a document, each at a place of its own.

  What is put at a place is found there, and every other place is as before (`find_put`,
  `find_put_other`). The fields of a document are those of its records under the paths of
  their places (`get_flatten_iff`), so a record that is put at a place changes no path but
  those of its own fields (`flatten_put_other`). A layer stays valid when a record whose
  fields are valid is put at a place (`valid_put`), and when its empty objects are pruned.
-/

import GreenTyper.Config.Wiring

namespace GreenTyper.Config

open Lib Provider Usage

namespace Location

/-- The path to the record. -/
def stem : Location → String
  | .provider => "provider"
  | .runtime => "runtime"
  | .agent => "agent"
  | .profile id => dotted "providers" id
  | .preset id => dotted "model_presets" id
  | .schedule id => dotted "price_schedules" id
  | .ui => "ui"
  | .window id => dotted "stats" (dotted "windows" id)

/-- The id of an object, if the place is one of an object. -/
def id? : Location → Option String
  | .profile id | .preset id | .schedule id | .window id => some id
  | _ => none

/-- A window carries the id of its place. -/
def Own : (location : Location) → location.Record → Prop
  | .window id, w => w.id = id
  | _, _ => True

/-- What a valid layer asks of a record beside its fields. -/
def Sound : (location : Location) → location.Record → Prop
  | .agent, a => ∀ id, a.defaultModelPreset = some id → IdText id
  | .preset id, p => ∀ starter, p.starter = some starter → ∃ provenance, starter.provenance id = .ok provenance
  | _, _ => True

theorem checkId_ok {location : Location} : location.checkId = .ok () ↔ ∀ id, location.id? = some id → IdText id := by
  cases location <;> simp [checkId, id?, validateId_ok]

/-! ## Windows -/

section Windows

variable {window : UsageWindowLayer} {windows : List UsageWindowLayer}

theorem find_putWindow (id : String) : (putWindow window windows).find? (fun w => w.id = id) =
    if window.id = id then some window else windows.find? fun w => w.id = id := by
  induction windows with
  | nil =>
    rw [putWindow, List.find?_cons]
    by_cases h : window.id = id <;> simp [h]
  | cons head windows ih =>
    rw [putWindow]
    by_cases hhead : head.id = window.id
    · rw [if_pos hhead, List.find?_cons, List.find?_cons, hhead]
      by_cases h : window.id = id <;> simp [h]
    · rw [if_neg hhead, List.find?_cons, List.find?_cons, ih]
      by_cases h : head.id = id
      · have hne : window.id ≠ id := fun hw => hhead (h.trans hw.symm)
        simp [h, hne]
      · simp [h]

theorem putWindow_found (h : windows.find? (fun w => w.id = window.id) = some window) : putWindow window windows = windows := by
  induction windows with
  | nil => cases h
  | cons head windows ih =>
    rw [List.find?_cons] at h
    rw [putWindow]
    by_cases hhead : head.id = window.id
    · simp only [hhead, decide_true, Option.some.injEq] at h
      rw [if_pos hhead, h]
    · simp only [hhead, decide_false] at h
      rw [if_neg hhead, ih h]

theorem putWindow_again {window' : UsageWindowLayer} (h : window.id = window'.id) :
    putWindow window' (putWindow window windows) = putWindow window' windows := by
  induction windows with
  | nil => simp [putWindow, h]
  | cons head windows ih =>
    rw [putWindow]
    by_cases hhead : head.id = window.id
    · rw [if_pos hhead, putWindow, if_pos h, putWindow, if_pos (hhead.trans h)]
    · rw [if_neg hhead, putWindow, if_neg (h ▸ hhead), putWindow, if_neg (h ▸ hhead), ih]

theorem mem_putWindow {w : UsageWindowLayer} (h : w ∈ putWindow window windows) : w = window ∨ w ∈ windows := by
  induction windows with
  | nil => exact Or.inl (List.mem_singleton.mp h)
  | cons head windows ih =>
    rw [putWindow] at h
    split at h
    · rcases List.mem_cons.mp h with hw | hw
      · exact Or.inl hw
      · exact Or.inr (List.mem_cons_of_mem _ hw)
    · rcases List.mem_cons.mp h with hw | hw
      · exact Or.inr (hw ▸ List.mem_cons_self)
      · exact (ih hw).imp_right (List.mem_cons_of_mem _)

theorem putWindow_distinct (h : (windows.map (·.id)).Nodup) : ((putWindow window windows).map (·.id)).Nodup := by
  induction windows with
  | nil => simp [putWindow]
  | cons head windows ih =>
    rw [List.map_cons, List.nodup_cons] at h
    rw [putWindow]
    by_cases hhead : head.id = window.id
    · rw [if_pos hhead, List.map_cons, List.nodup_cons, ← hhead]
      exact h
    · rw [if_neg hhead, List.map_cons, List.nodup_cons]
      refine ⟨fun hmem => ?_, ih h.2⟩
      obtain ⟨w, hw, hid⟩ := List.mem_map.mp hmem
      rcases mem_putWindow hw with rfl | hw
      · exact hhead hid.symm
      · exact h.1 (hid ▸ List.mem_map_of_mem hw)

theorem mem_windows_iff {id : String} (hdistinct : (windows.map (·.id)).Nodup) :
    windows.find? (fun w => w.id = id) = some window ↔ window ∈ windows ∧ window.id = id := by
  constructor
  · intro h
    exact ⟨List.mem_of_find?_eq_some h, by simpa using List.find?_some h⟩
  · intro h
    obtain ⟨hmem, rfl⟩ := h
    obtain ⟨w, hw⟩ := Option.isSome_iff_exists.mp ((List.find?_isSome (p := fun w => decide (w.id = window.id))).mpr ⟨window, hmem, by simp⟩)
    have hsame : w = window := by
      have hid : w.id = window.id := by simpa using List.find?_some hw
      exact List.inj_on_of_nodup_map hdistinct (List.mem_of_find?_eq_some hw) hmem hid
    rw [hw, hsame]

end Windows

/-! ## Finding and putting -/

section Puts

variable {location : Location} {d : ConfigDocument} {record record' : location.Record}

theorem own_default : location.Own location.place.default := by
  cases location with
  | window id => exact rfl
  | _ => trivial

theorem own_find (h : location.place.find d = some record) : location.Own record := by
  cases location with
  | window id =>
    show UsageWindowLayer.id record = id
    simpa using List.find?_some (p := fun w : UsageWindowLayer => decide (w.id = id)) h
  | _ => trivial

theorem find_put (h : location.Own record) : location.place.find (location.place.put d record) = some record := by
  cases location with
  | provider | runtime | agent | ui => rfl
  | profile id | preset id | schedule id => exact OrdMap.get_insert_self _ _ _
  | window id => exact (find_putWindow id).trans (if_pos h)

theorem find_put_other {location' : Location} (h : location' ≠ location) (hown : location.Own record) :
    location'.place.find (location.place.put d record) = location'.place.find d := by
  cases location with
  | provider | runtime | agent | ui => cases location' <;> first | rfl | exact absurd rfl h
  | profile id =>
    cases location' with
    | profile id' => exact OrdMap.get_insert_ne _ _ fun hid => h (by rw [hid])
    | _ => rfl
  | preset id =>
    cases location' with
    | preset id' => exact OrdMap.get_insert_ne _ _ fun hid => h (by rw [hid])
    | _ => rfl
  | schedule id =>
    cases location' with
    | schedule id' => exact OrdMap.get_insert_ne _ _ fun hid => h (by rw [hid])
    | _ => rfl
  | window id =>
    cases location' with
    | window id' => exact (find_putWindow id').trans (if_neg fun hid => h (by rw [← hid, ← hown]))
    | _ => rfl

theorem put_put (hown : location.Own record) (hown' : location.Own record') :
    location.place.put (location.place.put d record) record' = location.place.put d record' := by
  cases location with
  | provider | runtime | agent | ui => rfl
  | profile id | preset id | schedule id => simp only [place, OrdMap.insert_insert]
  | window id =>
    have hid : UsageWindowLayer.id record = UsageWindowLayer.id record' := Eq.trans hown (Eq.symm hown')
    simp only [place, ConfigDocument.windows, Option.getD_some, putWindow_again hid]

theorem put_find (h : location.place.find d = some record) : location.place.put d record = d := by
  cases location with
  | provider | runtime | agent | ui =>
    cases h
    rfl
  | profile id | preset id | schedule id => simp only [place, OrdMap.insert_get h]
  | window id =>
    have hid : UsageWindowLayer.id record = id := own_find h
    have hfind : d.windows.find? (fun w => w.id = UsageWindowLayer.id record) = some record := hid ▸ h
    have hsome : d.stats = ⟨some d.windows⟩ := by
      cases hwindows : d.stats.windows with
      | none => simp [ConfigDocument.windows, hwindows] at hfind
      | some ws =>
        have : d.windows = ws := by simp [ConfigDocument.windows, hwindows]
        cases hstats : d.stats
        rw [hstats] at hwindows
        cases hwindows
        rw [this]
    simp only [place, putWindow_found hfind, ← hsome]

end Puts

/-! ## Paths -/

/-- The id of an object holds no dot. -/
def Plain (location : Location) : Prop := ∀ id, location.id? = some id → NoDot id

theorem segments_stem {location : Location} (h : location.Plain) (rest : String) :
    segments (dotted location.stem rest) = location.names ++ segments rest := by
  cases location with
  | provider | runtime | agent | ui => exact segments_dotted (by decide) rest
  | profile id | preset id | schedule id =>
    simp only [stem, dotted_assoc, names]
    rw [segments_dotted (by decide), segments_dotted (h id rfl)]
    rfl
  | window id =>
    simp only [stem, dotted_assoc, names]
    rw [segments_dotted (by decide), segments_dotted (by decide), segments_dotted (h id rfl)]
    rfl

/-- A path is the path of one place and one name. -/
theorem stem_inj {location location' : Location} {rest rest' : String} (h : location.Plain) (h' : location'.Plain)
    (heq : dotted location.stem rest = dotted location'.stem rest') : location = location' ∧ rest = rest' := by
  have hsegments := congrArg segments heq
  rw [segments_stem h, segments_stem h'] at hsegments
  have hrest : segments rest = segments rest' → rest = rest' := fun hsame => by
    rw [← (segments_spec rest).2.2, hsame, (segments_spec rest').2.2]
  cases location <;> cases location' <;> simp [names] at hsegments ⊢
  all_goals first | exact hrest hsegments | exact ⟨hsegments.1, hrest hsegments.2⟩

/-! ## Fields -/

/-- The value is a field of the record at the place. -/
def Holds (location : Location) (d : ConfigDocument) (rest : String) (value : ConfigValue) : Prop :=
  ∃ record, location.place.find d = some record ∧ (rest, value) ∈ present location.fields record

end Location

namespace ConfigDocument

variable {d : ConfigDocument} {path : String} {value : ConfigValue}

/-- The fields of a document are those of its records. -/
theorem mem_fields_iff (h : (d.windows.map (·.id)).Nodup) :
    (path, value) ∈ d.fields ↔ ∃ location : Location, ∃ rest, location.Holds d rest value ∧ path = dotted location.stem rest := by
  constructor
  · intro hmem
    obtain ⟨group, fields, rest, hgroup, hfield, rfl⟩ := mem_nest.mp hmem
    simp only [groups, List.mem_cons, Prod.mk.injEq, List.not_mem_nil, or_false] at hgroup
    rcases hgroup with ⟨rfl, rfl⟩ | ⟨rfl, rfl⟩ | ⟨rfl, rfl⟩ | ⟨rfl, rfl⟩ | ⟨rfl, rfl⟩ | ⟨rfl, rfl⟩ | ⟨rfl, rfl⟩ | ⟨rfl, rfl⟩
    · exact ⟨.provider, rest, ⟨d.provider, rfl, hfield⟩, rfl⟩
    · exact ⟨.runtime, rest, ⟨d.runtime, rfl, hfield⟩, rfl⟩
    · exact ⟨.agent, rest, ⟨d.agent, rfl, hfield⟩, rfl⟩
    · obtain ⟨id, profile, name, hentry, hname, rfl⟩ := mem_objects.mp hfield
      exact ⟨.profile id, name, ⟨profile, OrdMap.mem_entries.mp hentry, hname⟩, (dotted_assoc _ _ _).symm⟩
    · obtain ⟨id, preset, name, hentry, hname, rfl⟩ := mem_objects.mp hfield
      exact ⟨.preset id, name, ⟨preset, OrdMap.mem_entries.mp hentry, hname⟩, (dotted_assoc _ _ _).symm⟩
    · obtain ⟨id, schedule, name, hentry, hname, rfl⟩ := mem_objects.mp hfield
      exact ⟨.schedule id, name, ⟨schedule, OrdMap.mem_entries.mp hentry, hname⟩, (dotted_assoc _ _ _).symm⟩
    · exact ⟨.ui, rest, ⟨d.ui, rfl, hfield⟩, rfl⟩
    · obtain ⟨_, _, rest', hgroup, hfield, rfl⟩ := mem_nest.mp hfield
      simp only [List.mem_singleton, Prod.mk.injEq] at hgroup
      obtain ⟨rfl, rfl⟩ := hgroup
      obtain ⟨id, w, name, hentry, hname, rfl⟩ := mem_objects.mp hfield
      obtain ⟨w', hw, heq⟩ := List.mem_map.mp hentry
      cases heq
      refine ⟨.window w.id, name, ⟨w, (Location.mem_windows_iff h).mpr ⟨hw, rfl⟩, hname⟩, ?_⟩
      simp only [Location.stem, dotted_assoc]
  · intro hholds
    obtain ⟨location, rest, ⟨record, hfind, hrest⟩, rfl⟩ := hholds
    have hobject : ∀ {α : Type} {table : Table α ConfigValue} {m : OrdMap String α} {id : String} {a : α}, m.get id = some a →
        (rest, value) ∈ present table a → (dotted id rest, value) ∈ nest (objectFields table m.entries) :=
      fun hget hname => mem_objects.mpr ⟨_, _, rest, OrdMap.mem_entries.mpr hget, hname, rfl⟩
    cases location with
    | provider =>
      cases hfind
      exact mem_fields (List.mem_of_getElem? (i := 0) rfl) hrest
    | runtime =>
      cases hfind
      exact mem_fields (List.mem_of_getElem? (i := 1) rfl) hrest
    | agent =>
      cases hfind
      exact mem_fields (List.mem_of_getElem? (i := 2) rfl) hrest
    | ui =>
      cases hfind
      exact mem_fields (List.mem_of_getElem? (i := 6) rfl) hrest
    | profile id =>
      rw [Location.stem, dotted_assoc]
      exact mem_fields (List.mem_of_getElem? (i := 3) rfl) (hobject hfind hrest)
    | preset id =>
      rw [Location.stem, dotted_assoc]
      exact mem_fields (List.mem_of_getElem? (i := 4) rfl) (hobject hfind hrest)
    | schedule id =>
      rw [Location.stem, dotted_assoc]
      exact mem_fields (List.mem_of_getElem? (i := 5) rfl) (hobject hfind hrest)
    | window id =>
      obtain ⟨hmem, hid⟩ := (Location.mem_windows_iff h).mp hfind
      have hwindow : (id, record) ∈ d.windowObjects := List.mem_map.mpr ⟨record, hmem, by rw [hid]⟩
      have hwindows : (dotted id rest, value) ∈ nest (objectFields UsageWindowLayer.fields d.windowObjects) :=
        mem_objects.mpr ⟨id, record, rest, hwindow, hrest, rfl⟩
      rw [Location.stem, dotted_assoc, dotted_assoc]
      exact mem_fields (List.mem_of_getElem? (i := 7) rfl) (mem_nest.mpr ⟨"windows", _, _, List.mem_singleton_self _, hwindows, rfl⟩)

end ConfigDocument

namespace Location

variable {location : Location} {d : ConfigDocument} {record : location.Record} {name path : String} {value : ConfigValue}

theorem fields_nodup (location : Location) : (location.fields.map (·.1)).Nodup := by
  cases location with
  | provider => exact (by decide : (BootstrapProviderLayer.fields.map (·.1)).Nodup)
  | runtime => exact (by decide : (RuntimeLayer.fields.map (·.1)).Nodup)
  | agent => exact (by decide : (AgentLayer.fields.map (·.1)).Nodup)
  | profile _ => exact (by decide : (ProviderProfileLayer.fields.map (·.1)).Nodup)
  | preset _ => exact (by decide : (ModelPresetLayer.fields.map (·.1)).Nodup)
  | schedule _ => exact (by decide : (PriceScheduleLayer.fields.map (·.1)).Nodup)
  | ui => exact (by decide : (UiLayer.fields.map (·.1)).Nodup)
  | window _ => exact (by decide : (UsageWindowLayer.fields.map (·.1)).Nodup)

/-- A record that nothing has been set in has no fields. -/
theorem present_default : present location.fields location.place.default = [] := by
  cases location <;> rfl

theorem holds_iff : location.Holds d name value ↔
    (name, value) ∈ present location.fields ((location.place.find d).getD location.place.default) := by
  unfold Holds
  cases location.place.find d with
  | none => simp [present_default]
  | some record => simp

theorem plain_of_find (h : d.PlainIds) (hfind : location.place.find d = some record) : location.Plain := by
  intro id hid
  cases location with
  | provider | runtime | agent | ui => cases hid
  | profile id =>
    cases hid
    exact h.providers _ (OrdMap.mem_keys.mpr ⟨record, hfind⟩)
  | preset id =>
    cases hid
    exact h.modelPresets _ (OrdMap.mem_keys.mpr ⟨record, hfind⟩)
  | schedule id =>
    cases hid
    exact h.priceSchedules _ (OrdMap.mem_keys.mpr ⟨record, hfind⟩)
  | window id =>
    cases hid
    obtain ⟨hmem, hown⟩ := (mem_windows_iff h.distinct).mp hfind
    exact hown ▸ h.windows record hmem

theorem distinct_put (h : (d.windows.map (·.id)).Nodup) : ((location.place.put d record).windows.map (·.id)).Nodup := by
  cases location with
  | window id => exact putWindow_distinct h
  | _ => exact h

theorem plainIds_put (h : d.PlainIds) (hplain : location.Plain) (hown : location.Own record) : (location.place.put d record).PlainIds := by
  have hinsert : ∀ {α : Type} {m : OrdMap String α} {id : String} {a : α}, (∀ id ∈ m.keys, NoDot id) → NoDot id →
      ∀ id' ∈ (m.insert id a).keys, NoDot id' := by
    intro α m id a hkeys hid id' hmem
    rcases OrdMap.mem_keys_insert.mp hmem with rfl | hmem
    · exact hid
    · exact hkeys id' hmem
  cases location with
  | provider | runtime | agent | ui => exact ⟨h.providers, h.modelPresets, h.priceSchedules, h.windows, h.distinct⟩
  | profile id => exact ⟨hinsert h.providers (hplain id rfl), h.modelPresets, h.priceSchedules, h.windows, h.distinct⟩
  | preset id => exact ⟨h.providers, hinsert h.modelPresets (hplain id rfl), h.priceSchedules, h.windows, h.distinct⟩
  | schedule id => exact ⟨h.providers, h.modelPresets, hinsert h.priceSchedules (hplain id rfl), h.windows, h.distinct⟩
  | window id =>
    refine ⟨h.providers, h.modelPresets, h.priceSchedules, fun w hw => ?_, putWindow_distinct h.distinct⟩
    rcases mem_putWindow hw with rfl | hw
    · exact (show UsageWindowLayer.id _ = id from hown) ▸ hplain id rfl
    · exact h.windows w hw

/-- What is read under a name of the place is the field of the record that was put there. -/
theorem mem_fields_put (h : d.PlainIds) (hplain : location.Plain) (hown : location.Own record) :
    (dotted location.stem name, value) ∈ (location.place.put d record).fields ↔ (name, value) ∈ present location.fields record := by
  have hput := plainIds_put h hplain hown
  rw [ConfigDocument.mem_fields_iff hput.distinct]
  constructor
  · intro hholds
    obtain ⟨location', rest, ⟨record', hfind, hrest⟩, hpath⟩ := hholds
    obtain ⟨rfl, rfl⟩ := stem_inj hplain (plain_of_find hput hfind) hpath
    rw [find_put hown] at hfind
    cases hfind
    exact hrest
  · intro hrest
    exact ⟨location, name, ⟨record, find_put hown, hrest⟩, rfl⟩

/-- A path that reads the same in the record and in what was there reads the same in the document. -/
theorem mem_fields_put_same (h : d.PlainIds) (hplain : location.Plain) (hown : location.Own record)
    (hsame : ∀ rest, path = dotted location.stem rest → ((rest, value) ∈ present location.fields record ↔ location.Holds d rest value)) :
    (path, value) ∈ (location.place.put d record).fields ↔ (path, value) ∈ d.fields := by
  have hput := plainIds_put h hplain hown
  rw [ConfigDocument.mem_fields_iff hput.distinct, ConfigDocument.mem_fields_iff h.distinct]
  have hiff : ∀ (location' : Location) (rest : String), path = dotted location'.stem rest →
      (location'.Holds (location.place.put d record) rest value ↔ location'.Holds d rest value) := by
    intro location' rest hrest
    by_cases hlocation : location' = location
    · rw [hlocation] at hrest ⊢
      rw [← hsame rest hrest, holds_iff, find_put hown]
      rfl
    · rw [Holds, Holds, find_put_other hlocation hown]
  constructor
  · intro hholds
    obtain ⟨location', rest, hholds, hrest⟩ := hholds
    exact ⟨location', rest, (hiff location' rest hrest).mp hholds, hrest⟩
  · intro hholds
    obtain ⟨location', rest, hholds, hrest⟩ := hholds
    exact ⟨location', rest, (hiff location' rest hrest).mpr hholds, hrest⟩

/-! ## Valid layers -/

theorem valid_put (h : d.ValidLayer) (hid : ∀ id, location.id? = some id → IdText id) (hown : location.Own record)
    (hsound : location.Sound record) (hfields : ∀ field ∈ (location.place.put d record).fields, validateField field = .ok ()) :
    (location.place.put d record).ValidLayer := by
  have hkeys : ∀ {α : Type} {m : OrdMap String α} {id : String} {a : α}, (∀ id ∈ m.keys, IdText id) → IdText id →
      ∀ id' ∈ (m.insert id a).keys, IdText id' := by
    intro α m id a hkeys hid id' hmem
    rcases OrdMap.mem_keys_insert.mp hmem with rfl | hmem
    · exact hid
    · exact hkeys id' hmem
  cases location with
  | provider | runtime | ui =>
    exact ⟨h.schema, hfields, h.providers, h.modelPresets, h.starters, h.default, h.priceSchedules, h.windows, h.distinct⟩
  | agent => exact ⟨h.schema, hfields, h.providers, h.modelPresets, h.starters, hsound, h.priceSchedules, h.windows, h.distinct⟩
  | profile id =>
    exact ⟨h.schema, hfields, hkeys h.providers (hid id rfl), h.modelPresets, h.starters, h.default, h.priceSchedules, h.windows,
      h.distinct⟩
  | schedule id =>
    exact ⟨h.schema, hfields, h.providers, h.modelPresets, h.starters, h.default, hkeys h.priceSchedules (hid id rfl), h.windows,
      h.distinct⟩
  | preset id =>
    refine ⟨h.schema, hfields, h.providers, hkeys h.modelPresets (hid id rfl), fun id' preset hget starter hstarter => ?_, h.default,
      h.priceSchedules, h.windows, h.distinct⟩
    have hget : (d.modelPresets.insert id record).get id' = some preset := hget
    by_cases hsame : id = id'
    · rw [OrdMap.get_insert, if_pos hsame] at hget
      cases hget
      exact hsame ▸ hsound starter hstarter
    · rw [OrdMap.get_insert, if_neg hsame] at hget
      exact h.starters id' preset hget starter hstarter
  | window id =>
    refine ⟨h.schema, hfields, h.providers, h.modelPresets, h.starters, h.default, h.priceSchedules, fun w hw => ?_,
      putWindow_distinct h.distinct⟩
    rcases mem_putWindow hw with rfl | hw
    · exact (show UsageWindowLayer.id _ = id from hown) ▸ hid id rfl
    · exact h.windows w hw

theorem sound_find (h : d.ValidLayer) (hfind : location.place.find d = some record) : location.Sound record := by
  cases location with
  | agent =>
    cases hfind
    exact h.default
  | preset id => exact fun starter => h.starters id record hfind starter
  | _ => trivial

theorem sound_default : location.Sound location.place.default := by
  cases location with
  | agent | preset id => exact fun _ h => absurd h (by simp [place, ModelPresetLayer.default])
  | _ => trivial

end Location

/-! ## Pruning -/

namespace Location

/-- The objects that pruning drops. -/
def isEmpty : (location : Location) → location.Record → Bool
  | .profile _, p => p.isEmpty
  | .preset _, p => p.isEmpty
  | .schedule _, s => s.isEmpty
  | .window _, w => w.isEmptyExceptId
  | _, _ => false

variable {location : Location} {d : ConfigDocument} {record : location.Record}

theorem present_empty (h : location.isEmpty record = true) : present location.fields record = [] := by
  cases location with
  | provider | runtime | agent | ui => cases h
  | profile id =>
    simp only [isEmpty, ProviderProfileLayer.isEmpty, ProviderRoutesLayer.isEmpty, CatalogLayer.isEmpty, PricingLayer.isEmpty,
      Bool.and_eq_true, Option.isNone_iff_eq_none] at h
    simp [present, fields, ProviderProfileLayer.fields, text, texts, boolean, h]
  | preset id =>
    simp only [isEmpty, ModelPresetLayer.isEmpty, Bool.and_eq_true, Option.isNone_iff_eq_none] at h
    simp [present, fields, ModelPresetLayer.fields, text, texts, boolean, positive, dialectText, h]
  | schedule id =>
    simp only [isEmpty, PriceScheduleLayer.isEmpty, PriceRatesLayer.isEmpty, Bool.and_eq_true, Option.isNone_iff_eq_none] at h
    simp [present, fields, PriceScheduleLayer.fields, text, natural, dialectText, h]
  | window id =>
    simp only [isEmpty, UsageWindowLayer.isEmptyExceptId, Bool.and_eq_true, Option.isNone_iff_eq_none] at h
    simp [present, fields, UsageWindowLayer.fields, text, texts, h]

theorem isEmpty_default : location.id?.isSome = location.isEmpty location.place.default := by
  cases location <;> rfl

end Location

namespace ConfigDocument

variable {d : ConfigDocument}

theorem windows_prune (d : ConfigDocument) : d.pruneEmpty.windows = d.windows.filter fun w => !w.isEmptyExceptId := by
  unfold windows pruneEmpty
  cases d.stats.windows with
  | none => rfl
  | some ws =>
    show (if (ws.filter fun w => !w.isEmptyExceptId).isEmpty then none else some (ws.filter fun w => !w.isEmptyExceptId)).getD [] = _
    split
    · rename_i hnil
      exact (List.isEmpty_iff.mp hnil).symm
    · rfl

theorem distinct_prune (h : (d.windows.map (·.id)).Nodup) : (d.pruneEmpty.windows.map (·.id)).Nodup := by
  rw [windows_prune]
  exact h.sublist (List.filter_sublist.map _)

theorem find_prune (h : (d.windows.map (·.id)).Nodup) (location : Location) :
    location.place.find d.pruneEmpty = (location.place.find d).filter fun record => !location.isEmpty record := by
  cases location with
  | provider | runtime | agent | ui => rfl
  | profile id | preset id | schedule id => exact OrdMap.get_retain _ _ _
  | window id =>
    refine Option.ext fun w => ?_
    have hpruned : d.pruneEmpty.windows.find? (fun w' => w'.id = id) = some w ↔ w ∈ d.pruneEmpty.windows ∧ w.id = id :=
      Location.mem_windows_iff (distinct_prune h)
    rw [windows_prune, List.mem_filter] at hpruned
    rw [Option.filter_eq_some_iff]
    show d.pruneEmpty.windows.find? (fun w => w.id = id) = some w ↔ d.windows.find? (fun w => w.id = id) = some w ∧ _
    rw [Location.mem_windows_iff h, windows_prune, hpruned]
    exact and_right_comm

theorem mem_keys_retain {α : Type} {m : OrdMap String α} {p : α → Bool} {id : String} (h : id ∈ (m.retain p).keys) : id ∈ m.keys := by
  obtain ⟨a, hget⟩ := OrdMap.mem_keys.mp h
  rw [OrdMap.get_retain, Option.filter_eq_some_iff] at hget
  exact OrdMap.mem_keys.mpr ⟨a, hget.1⟩

theorem plainIds_prune (h : d.PlainIds) : d.pruneEmpty.PlainIds where
  providers := fun id hid => h.providers id (mem_keys_retain hid)
  modelPresets := fun id hid => h.modelPresets id (mem_keys_retain hid)
  priceSchedules := fun id hid => h.priceSchedules id (mem_keys_retain hid)
  windows := by
    intro w hw
    rw [windows_prune] at hw
    exact h.windows w (List.mem_of_mem_filter hw)
  distinct := distinct_prune h.distinct

/-- What is pruned has no fields. -/
theorem mem_fields_prune (h : d.PlainIds) {path : String} {value : ConfigValue} :
    (path, value) ∈ d.pruneEmpty.fields ↔ (path, value) ∈ d.fields := by
  have hiff : ∀ (location : Location) (rest : String), location.Holds d.pruneEmpty rest value ↔ location.Holds d rest value := by
    intro location rest
    unfold Location.Holds
    rw [find_prune h.distinct]
    simp only [Option.filter_eq_some_iff]
    constructor
    · intro hholds
      obtain ⟨record, ⟨hfind, _⟩, hrest⟩ := hholds
      exact ⟨record, hfind, hrest⟩
    · intro hholds
      obtain ⟨record, hfind, hrest⟩ := hholds
      refine ⟨record, ⟨hfind, ?_⟩, hrest⟩
      by_cases hempty : location.isEmpty record = true
      · rw [Location.present_empty hempty] at hrest
        cases hrest
      · simpa using hempty
  rw [mem_fields_iff (distinct_prune h.distinct), mem_fields_iff h.distinct]
  simp only [hiff]

theorem flatten_prune (h : d.PlainIds) : d.pruneEmpty.flatten = d.flatten := by
  refine OrdMap.ext_get fun path => Option.ext fun value => ?_
  rw [get_flatten (plainIds_prune h), get_flatten h, mem_fields_prune h]

theorem valid_prune (h : d.ValidLayer) : d.pruneEmpty.ValidLayer where
  schema := h.schema
  fields := fun field hfield => h.fields field ((mem_fields_prune h.plainIds).mp hfield)
  providers := fun id hid => h.providers id (mem_keys_retain hid)
  modelPresets := fun id hid => h.modelPresets id (mem_keys_retain hid)
  starters := by
    intro id preset hget
    have hget : (d.modelPresets.retain fun preset => !preset.isEmpty).get id = some preset := hget
    rw [OrdMap.get_retain, Option.filter_eq_some_iff] at hget
    exact h.starters id preset hget.1
  default := h.default
  priceSchedules := fun id hid => h.priceSchedules id (mem_keys_retain hid)
  windows := by
    intro w hw
    rw [windows_prune] at hw
    exact h.windows w (List.mem_of_mem_filter hw)
  distinct := distinct_prune h.distinct

theorem putWindow_new {w : UsageWindowLayer} {ws : List UsageWindowLayer} (h : ws.find? (fun w' => w'.id = w.id) = none) :
    putWindow w ws = ws ++ [w] := by
  induction ws with
  | nil => rfl
  | cons head ws ih =>
    rw [List.find?_cons] at h
    by_cases hhead : head.id = w.id
    · simp [hhead] at h
    · simp only [hhead, decide_false] at h
      rw [putWindow, if_neg hhead, ih h, List.cons_append]

/-- An object that was made and has nothing set is pruned again. -/
theorem prune_put_default {location : Location} (h : location.place.find d = none) :
    (location.place.put d location.place.default).pruneEmpty = d.pruneEmpty := by
  cases location with
  | provider | runtime | agent | ui => cases h
  | profile id | preset id | schedule id =>
    simp only [Location.place, pruneEmpty]
    rw [OrdMap.retain_insert_neg rfl h]
  | window id =>
    have hput : putWindow ⟨id, none, none, none, none⟩ d.windows = d.windows ++ [⟨id, none, none, none, none⟩] := putWindow_new h
    simp only [Location.place, pruneEmpty, hput, List.filter_append]
    cases hws : d.stats.windows <;> simp [windows, hws, UsageWindowLayer.isEmptyExceptId]

/-- No object of the document is empty, and neither is a list of windows. -/
def NoEmpty (d : ConfigDocument) : Prop :=
  (∀ (location : Location) (record : location.Record), location.place.find d = some record → location.isEmpty record = false) ∧
    d.stats.windows ≠ some []

theorem prune_eq_self (h : (d.windows.map (·.id)).Nodup) : d.pruneEmpty = d ↔ d.NoEmpty := by
  constructor
  · intro hsame
    refine ⟨fun location record hfind => ?_, ?_⟩
    · rw [← hsame, find_prune h, Option.filter_eq_some_iff] at hfind
      simpa using hfind.2
    · rw [← hsame]
      unfold pruneEmpty
      cases d.stats.windows with
      | none => simp
      | some ws =>
        intro hnil
        simp only [ite_eq_iff, reduceCtorEq, and_false, false_or, Option.some.injEq] at hnil
        exact hnil.1 (List.isEmpty_iff.mpr hnil.2)
  · intro hnone
    obtain ⟨hfull, hwindows⟩ := hnone
    have hretain : ∀ {α : Type} {m : OrdMap String α} {p : α → Bool}, (∀ id a, m.get id = some a → p a = true) → m.retain p = m := by
      intro α m p hall
      refine OrdMap.ext_get fun id => ?_
      rw [OrdMap.get_retain]
      cases hget : m.get id with
      | none => rfl
      | some a => simp [hall id a hget]
    have hproviders := hretain (m := d.providers) (p := fun profile => !profile.isEmpty) fun id profile hget => by
      simpa [Location.isEmpty] using hfull (.profile id) profile hget
    have hpresets := hretain (m := d.modelPresets) (p := fun preset => !preset.isEmpty) fun id preset hget => by
      simpa [Location.isEmpty] using hfull (.preset id) preset hget
    have hschedules := hretain (m := d.priceSchedules) (p := fun schedule => !schedule.isEmpty) fun id schedule hget => by
      simpa [Location.isEmpty] using hfull (.schedule id) schedule hget
    have hfilter : d.windows.filter (fun w => !w.isEmptyExceptId) = d.windows := by
      refine List.filter_eq_self.mpr fun w hw => ?_
      simpa [Location.isEmpty] using hfull (.window w.id) w ((Location.mem_windows_iff h).mpr ⟨hw, rfl⟩)
    have hstats : d.pruneEmpty.stats = d.stats := by
      unfold pruneEmpty
      cases hws : d.stats.windows with
      | none => simp [← hws]
      | some ws =>
        have : d.windows = ws := by simp [windows, hws]
        rw [this] at hfilter
        have hne : ws ≠ [] := fun hnil => hwindows (hnil ▸ hws)
        simp [hfilter, hne, ← hws]
    have hparts : d.pruneEmpty = { d with
        providers := d.pruneEmpty.providers
        modelPresets := d.pruneEmpty.modelPresets
        priceSchedules := d.pruneEmpty.priceSchedules
        stats := d.pruneEmpty.stats } := rfl
    rw [hparts, hstats]
    simp only [pruneEmpty, hproviders, hpresets, hschedules]

end ConfigDocument

end GreenTyper.Config
