/-
  GreenTyper.Config.Merge — merging layers and overlaying their flattened maps come to the
  same (`merge_from` and `resolve_documents` of `config/runtime.rs`).

  Merging is written record by record, the entries that are shown come from an overlay of
  flattened maps.
  - `find_mergeFrom`: at each place of the merged document is the record of the one layer
    merged with that of the other.
  - `merged_cell`: a field of two merged records is that of the later one that has it. Only
    a starter is merged as a whole; in a valid layer it has all its fields.
  - `merge_agrees`: so flattening the merged document is overlaying the flattened layers,
    each entry that is shown has the merged document's value and the last layer that has
    the path as its source, and merging is associative and idempotent.
-/

import GreenTyper.Config.Effective
import GreenTyper.Config.Places
import GreenTyper.Config.Wide

namespace GreenTyper.Config

open Lib Provider Usage

/-! ## Associative and idempotent -/

section Records

variable {α : Type}

theorem mergeOption_assoc (a b c : Option α) : mergeOption (mergeOption a b) c = mergeOption a (mergeOption b c) := by
  cases c <;> rfl

theorem mergeOption_self (a : Option α) : mergeOption a a = a := by
  cases a <;> rfl

theorem mergeOption_none (a : Option α) : mergeOption none a = a := by
  cases a <;> rfl

theorem ProviderProfileLayer.mergeFrom_assoc (a b c : ProviderProfileLayer) :
    (a.mergeFrom b).mergeFrom c = a.mergeFrom (b.mergeFrom c) := by
  simp only [mergeFrom, ProviderRoutesLayer.mergeFrom, mergeOption_assoc]

theorem ProviderProfileLayer.mergeFrom_self (a : ProviderProfileLayer) : a.mergeFrom a = a := by
  simp only [mergeFrom, ProviderRoutesLayer.mergeFrom, mergeOption_self]

theorem ProviderProfileLayer.default_mergeFrom (a : ProviderProfileLayer) : ProviderProfileLayer.default.mergeFrom a = a := by
  simp only [mergeFrom, ProviderRoutesLayer.mergeFrom, default, mergeOption_none]

theorem ModelPresetLayer.mergeFrom_assoc (a b c : ModelPresetLayer) : (a.mergeFrom b).mergeFrom c = a.mergeFrom (b.mergeFrom c) := by
  simp only [mergeFrom, mergeOption_assoc]

theorem ModelPresetLayer.mergeFrom_self (a : ModelPresetLayer) : a.mergeFrom a = a := by
  simp only [mergeFrom, mergeOption_self]

theorem ModelPresetLayer.default_mergeFrom (a : ModelPresetLayer) : ModelPresetLayer.default.mergeFrom a = a := by
  simp only [mergeFrom, default, mergeOption_none]

theorem PriceScheduleLayer.mergeFrom_assoc (a b c : PriceScheduleLayer) :
    (a.mergeFrom b).mergeFrom c = a.mergeFrom (b.mergeFrom c) := by
  simp only [mergeFrom, PriceRatesLayer.mergeFrom, mergeOption_assoc]

theorem PriceScheduleLayer.mergeFrom_self (a : PriceScheduleLayer) : a.mergeFrom a = a := by
  simp only [mergeFrom, PriceRatesLayer.mergeFrom, mergeOption_self]

theorem PriceScheduleLayer.default_mergeFrom (a : PriceScheduleLayer) : PriceScheduleLayer.default.mergeFrom a = a := by
  simp only [mergeFrom, PriceRatesLayer.mergeFrom, default, mergeOption_none]

theorem UsageWindowLayer.mergeFrom_assoc (a b c : UsageWindowLayer) : (a.mergeFrom b).mergeFrom c = a.mergeFrom (b.mergeFrom c) := by
  simp only [mergeFrom, mergeOption_assoc]

theorem UsageWindowLayer.mergeFrom_id (a b : UsageWindowLayer) : (a.mergeFrom b).id = a.id := rfl

theorem UsageWindowLayer.mergeFrom_self (a : UsageWindowLayer) : a.mergeFrom a = a := by
  simp only [mergeFrom, mergeOption_self]

end Records

/-! ## Windows -/

section Windows

variable {ws us : List UsageWindowLayer} {u v : UsageWindowLayer}

theorem mergeWindow_cons (w : UsageWindowLayer) : mergeWindow (w :: ws) u =
    if w.id = u.id then w.mergeFrom u :: ws else w :: mergeWindow ws u := rfl

theorem mergeWindow_same (h : u.id = v.id) : mergeWindow (mergeWindow ws u) v = mergeWindow ws (u.mergeFrom v) := by
  induction ws with
  | nil =>
    show (if u.id = v.id then _ else _) = _
    rw [if_pos h]
    rfl
  | cons w ws ih =>
    rw [mergeWindow_cons, mergeWindow_cons, UsageWindowLayer.mergeFrom_id]
    by_cases hw : w.id = u.id
    · rw [if_pos hw, if_pos hw, mergeWindow_cons, UsageWindowLayer.mergeFrom_id, if_pos (hw.trans h),
        UsageWindowLayer.mergeFrom_assoc]
    · rw [if_neg hw, if_neg hw, mergeWindow_cons, if_neg (h ▸ hw), ih]

/-- Two windows with other ids merge in any order, if one of them is met already. -/
theorem mergeWindow_comm (hne : u.id ≠ v.id) (hv : v.id ∈ ws.map (·.id)) :
    mergeWindow (mergeWindow ws u) v = mergeWindow (mergeWindow ws v) u := by
  induction ws with
  | nil => cases hv
  | cons w ws ih =>
    rw [mergeWindow_cons, mergeWindow_cons]
    by_cases hu : w.id = u.id
    · have hwv : w.id ≠ v.id := fun heq => hne (hu.symm.trans heq)
      rw [if_pos hu, if_neg hwv, mergeWindow_cons, mergeWindow_cons, UsageWindowLayer.mergeFrom_id, if_neg hwv, if_pos hu]
    · by_cases hwv : w.id = v.id
      · rw [if_neg hu, if_pos hwv, mergeWindow_cons, mergeWindow_cons, UsageWindowLayer.mergeFrom_id, if_pos hwv, if_neg hu]
      · have hv' : v.id ∈ ws.map (·.id) := (List.mem_cons.mp hv).resolve_left fun heq => hwv heq.symm
        rw [if_neg hu, if_neg hwv, mergeWindow_cons, mergeWindow_cons, if_neg hwv, if_neg hu, ih hv']

theorem mem_ids_mergeWindow (ws : List UsageWindowLayer) (u : UsageWindowLayer) :
    u.id ∈ (mergeWindow ws u).map (·.id) ∧ ∀ id ∈ ws.map (·.id), id ∈ (mergeWindow ws u).map (·.id) := by
  rw [mergeWindow_ids]
  by_cases hmem : u.id ∈ ws.map (·.id)
  · rw [if_pos hmem]
    exact ⟨hmem, fun id hid => hid⟩
  · rw [if_neg hmem]
    exact ⟨List.mem_append_right _ (List.mem_singleton_self _), fun id hid => List.mem_append_left _ hid⟩

theorem mergeWindows_comm (hnot : v.id ∉ us.map (·.id)) (hv : v.id ∈ ws.map (·.id)) :
    mergeWindow (us.foldl mergeWindow ws) v = us.foldl mergeWindow (mergeWindow ws v) := by
  induction us generalizing ws with
  | nil => rfl
  | cons u us ih =>
    rw [List.map_cons, List.mem_cons, not_or] at hnot
    rw [List.foldl_cons, List.foldl_cons, ih hnot.2 ((mem_ids_mergeWindow ws u).2 _ hv), mergeWindow_comm (Ne.symm hnot.1) hv]

theorem mergeWindows_mergeWindow (hus : (us.map (·.id)).Nodup) :
    (mergeWindow us v).foldl mergeWindow ws = mergeWindow (us.foldl mergeWindow ws) v := by
  induction us generalizing ws with
  | nil => rfl
  | cons u us ih =>
    rw [List.map_cons, List.nodup_cons] at hus
    rw [mergeWindow_cons]
    by_cases hid : u.id = v.id
    · rw [if_pos hid, List.foldl_cons, List.foldl_cons, ← mergeWindow_same hid]
      exact (mergeWindows_comm (hid ▸ hus.1) (hid ▸ (mem_ids_mergeWindow ws u).1)).symm
    · rw [if_neg hid, List.foldl_cons, List.foldl_cons, ih hus.2]

theorem mergeWindows_assoc (hus : (us.map (·.id)).Nodup) (vs : List UsageWindowLayer) :
    (vs.foldl mergeWindow us).foldl mergeWindow ws = vs.foldl mergeWindow (us.foldl mergeWindow ws) := by
  induction vs generalizing us with
  | nil => rfl
  | cons v vs ih =>
    have hstep : (([v].foldl mergeWindow us).map (·.id)).Nodup := (mergeWindows_ids hus).1
    rw [List.foldl_cons, List.foldl_nil] at hstep
    rw [List.foldl_cons, List.foldl_cons, ih hstep, mergeWindows_mergeWindow hus]

theorem mergeWindow_found (hnot : u.id ∉ ws.map (·.id)) (us : List UsageWindowLayer) :
    mergeWindow (ws ++ u :: us) u = ws ++ u :: us := by
  induction ws with
  | nil =>
    rw [List.nil_append, mergeWindow, if_pos rfl, UsageWindowLayer.mergeFrom_self]
  | cons w ws ih =>
    rw [List.map_cons, List.mem_cons, not_or] at hnot
    rw [List.cons_append, mergeWindow, if_neg (Ne.symm hnot.1), ih hnot.2]

/-- Windows merged into themselves, after those that are merged already. -/
theorem mergeWindows_again (h : ((ws ++ us).map (·.id)).Nodup) : us.foldl mergeWindow (ws ++ us) = ws ++ us := by
  induction us generalizing ws with
  | nil => rfl
  | cons u us ih =>
    have hnot : u.id ∉ ws.map (·.id) := by
      rw [List.map_append, List.nodup_append] at h
      intro hmem
      exact h.2.2 _ hmem _ List.mem_cons_self rfl
    rw [List.foldl_cons, mergeWindow_found hnot]
    have hcut : ws ++ u :: us = (ws ++ [u]) ++ us := by rw [List.append_assoc]; rfl
    rw [hcut] at h ⊢
    exact ih h

theorem find_mergeWindow (id : String) : (mergeWindow ws u).find? (fun w => w.id = id) =
    if u.id = id then some (((ws.find? fun w => w.id = id).map (·.mergeFrom u)).getD u)
    else ws.find? fun w => w.id = id := by
  induction ws with
  | nil =>
    rw [mergeWindow, List.find?_cons]
    by_cases h : u.id = id <;> simp [h]
  | cons w ws ih =>
    rw [mergeWindow_cons]
    by_cases hw : w.id = u.id
    · rw [if_pos hw, List.find?_cons, List.find?_cons, UsageWindowLayer.mergeFrom_id, hw]
      by_cases h : u.id = id <;> simp [h]
    · rw [if_neg hw, List.find?_cons, List.find?_cons, ih]
      by_cases h : w.id = id
      · have hne : u.id ≠ id := fun hu => hw (h.trans hu.symm)
        simp [h, hne]
      · simp [h]

theorem find_mergeWindows (hus : (us.map (·.id)).Nodup) (id : String) :
    (us.foldl mergeWindow ws).find? (fun w => w.id = id) =
      (us.find? fun u => u.id = id).elim (ws.find? fun w => w.id = id)
        fun u => some (((ws.find? fun w => w.id = id).map (·.mergeFrom u)).getD u) := by
  induction us generalizing ws with
  | nil => rfl
  | cons u us ih =>
    rw [List.map_cons, List.nodup_cons] at hus
    rw [List.foldl_cons, ih hus.2, List.find?_cons, find_mergeWindow]
    by_cases hid : u.id = id
    · have hnone : us.find? (fun u => u.id = id) = none := by
        rw [List.find?_eq_none]
        intro w hw hwid
        exact hus.1 (List.mem_map.mpr ⟨w, hw, (of_decide_eq_true hwid).trans hid.symm⟩)
      rw [hnone, if_pos hid]
      simp [hid]
    · rw [if_neg hid]
      simp [hid]

end Windows

/-! ## Documents -/

namespace ConfigDocument

theorem mergeFrom_assoc {a b c : ConfigDocument} (hb : (b.windows.map (·.id)).Nodup) :
    (a.mergeFrom b).mergeFrom c = a.mergeFrom (b.mergeFrom c) := by
  have hstats : (a.stats.mergeFrom b.stats).mergeFrom c.stats = a.stats.mergeFrom (b.stats.mergeFrom c.stats) := by
    unfold StatsLayer.mergeFrom
    cases hc : c.stats.windows with
    | none => rfl
    | some vs =>
      cases hbs : b.stats.windows with
      | none =>
        have hnil : (([] : List UsageWindowLayer).map (·.id)).Nodup := List.nodup_nil
        exact congrArg (fun ws => StatsLayer.mk (some ws)) (mergeWindows_assoc hnil vs).symm
      | some us =>
        have hus : (us.map (·.id)).Nodup := by simpa [windows, hbs] using hb
        exact congrArg (fun ws => StatsLayer.mk (some ws)) (mergeWindows_assoc hus vs).symm
  have hproviders := OrdMap.mergeWith_assoc ProviderProfileLayer.default_mergeFrom ProviderProfileLayer.mergeFrom_assoc
    a.providers b.providers c.providers
  have hpresets := OrdMap.mergeWith_assoc ModelPresetLayer.default_mergeFrom ModelPresetLayer.mergeFrom_assoc
    a.modelPresets b.modelPresets c.modelPresets
  have hschedules := OrdMap.mergeWith_assoc PriceScheduleLayer.default_mergeFrom PriceScheduleLayer.mergeFrom_assoc
    a.priceSchedules b.priceSchedules c.priceSchedules
  simp only [mergeFrom, UiLayer.mergeFrom, mergeOption_assoc, hstats, hproviders, hpresets, hschedules]

theorem mergeFrom_self {a : ConfigDocument} (h : (a.windows.map (·.id)).Nodup) : a.mergeFrom a = a := by
  have hstats : a.stats.mergeFrom a.stats = a.stats := by
    unfold windows at h
    generalize a.stats = stats at h ⊢
    obtain ⟨windows⟩ := stats
    cases windows with
    | none => rfl
    | some ws =>
      have hws : ((([] : List UsageWindowLayer) ++ ws).map (·.id)).Nodup := h
      exact congrArg (fun ws => StatsLayer.mk (some ws)) (mergeWindows_again hws)
  have hproviders := OrdMap.mergeWith_self (d := .default) ProviderProfileLayer.mergeFrom_self a.providers
  have hpresets := OrdMap.mergeWith_self (d := .default) ModelPresetLayer.mergeFrom_self a.modelPresets
  have hschedules := OrdMap.mergeWith_self (d := .default) PriceScheduleLayer.mergeFrom_self a.priceSchedules
  simp only [mergeFrom, UiLayer.mergeFrom, mergeOption_self, hstats, hproviders, hpresets, hschedules]

end ConfigDocument

/-! ## Places of a merged document -/

namespace Location

/-- `merge_from` of the records at a place. -/
def mergeRecord : (location : Location) → location.Record → location.Record → location.Record
  | .provider => fun base above => ⟨mergeOption base.profile above.profile, mergeOption base.model above.model⟩
  | .runtime => fun base above => ⟨mergeOption base.maxOutputBytes above.maxOutputBytes⟩
  | .agent => fun base above => ⟨mergeOption base.defaultModelPreset above.defaultModelPreset⟩
  | .profile _ => ProviderProfileLayer.mergeFrom
  | .preset _ => ModelPresetLayer.mergeFrom
  | .schedule _ => PriceScheduleLayer.mergeFrom
  | .ui => UiLayer.mergeFrom
  | .window _ => UsageWindowLayer.mergeFrom

variable {location : Location} {d above : ConfigDocument}

theorem find_mergeFrom (h : (above.windows.map (·.id)).Nodup) :
    location.place.find (d.mergeFrom above) = (location.place.find above).elim (location.place.find d)
      fun record => some (location.mergeRecord ((location.place.find d).getD location.place.default) record) := by
  cases location with
  | provider | runtime | agent | ui => rfl
  | profile id | preset id | schedule id => exact OrdMap.get_mergeWith _ _ _ _ _
  | window id =>
    show (d.mergeFrom above).windows.find? (fun w => w.id = id) = _
    rw [ConfigDocument.windows_mergeFrom, find_mergeWindows h]
    show (above.windows.find? fun u => u.id = id).elim _ _ = (above.windows.find? fun u => u.id = id).elim _ _
    cases hfind : above.windows.find? fun u => u.id = id with
    | none => rfl
    | some u =>
      have hid : u.id = id := by simpa using List.find?_some hfind
      show some (((d.windows.find? fun w => w.id = id).map (·.mergeFrom u)).getD u) =
        some (((d.windows.find? fun w => w.id = id).getD ⟨id, none, none, none, none⟩).mergeFrom u)
      cases d.windows.find? fun w => w.id = id with
      | some w => rfl
      | none =>
        subst hid
        simp only [Option.map_none, Option.getD_none, UsageWindowLayer.mergeFrom, mergeOption_none]

theorem starter_field {presetId : String} {starter : ModelStarterLayer} {provenance : ModelStarterProvenance}
    (h : starter.provenance presetId = .ok provenance) :
    starter.catalogKey.isSome = true ∧ starter.seedRevision.isSome = true ∧ starter.provider.isSome = true ∧
      starter.model.isSome = true ∧ starter.dialect.isSome = true := by
  simp only [ModelStarterLayer.provenance, bind_ok, exists_unit, okOr_ok] at h
  obtain ⟨_, hkey, _, _, hseed, _, _, hprovider, _, _, hmodel, _, _, hdialect, _⟩ := h
  simp only [hkey, hseed, hprovider, hmodel, hdialect, Option.isSome_some, and_self]

theorem bind_or {α β : Type} {f : α → Option β} {a b : Option α} (h : ∀ x, a = some x → (f x).isSome = true) :
    (a.or b).bind f = (a.bind f).or (b.bind f) := by
  cases a with
  | none => rfl
  | some x =>
    obtain ⟨y, hy⟩ := Option.isSome_iff_exists.mp (h x rfl)
    show f x = (f x).or (b.bind f)
    rw [hy]
    rfl

/-- A field of two merged records is the later record's if that has it. -/
theorem merged_cell {base record : location.Record} (hsound : location.Sound record) :
    ∀ field ∈ location.fields, field.2 (location.mergeRecord base record) = (field.2 record).or (field.2 base) := by
  cases location with
  | provider =>
    simp only [fields, BootstrapProviderLayer.fields, mergeRecord, mergeOption, text, List.forall_mem_cons, Option.map_or]
    simp
  | runtime =>
    simp only [fields, RuntimeLayer.fields, mergeRecord, mergeOption, positive, List.forall_mem_cons, Option.map_or]
    simp
  | agent =>
    simp only [fields, AgentLayer.fields, mergeRecord, mergeOption, text, List.forall_mem_cons, Option.map_or]
    simp
  | profile id =>
    simp only [fields, ProviderProfileLayer.fields, mergeRecord, ProviderProfileLayer.mergeFrom, ProviderRoutesLayer.mergeFrom,
      mergeOption, text, texts, boolean, List.forall_mem_cons, Option.map_or]
    simp
  | schedule id =>
    simp only [fields, PriceScheduleLayer.fields, mergeRecord, PriceScheduleLayer.mergeFrom, PriceRatesLayer.mergeFrom,
      mergeOption, text, natural, dialectText, List.forall_mem_cons, Option.map_or]
    simp
  | ui =>
    simp only [fields, UiLayer.fields, mergeRecord, UiLayer.mergeFrom, mergeOption, text, texts, List.forall_mem_cons, Option.map_or]
    simp
  | window id =>
    simp only [fields, UsageWindowLayer.fields, mergeRecord, UsageWindowLayer.mergeFrom, mergeOption, text, texts,
      List.forall_mem_cons, Option.map_or]
    simp
  | preset id =>
    -- The five fields of a starter are merged as one.
    have hstarter : ∀ starter, ModelPresetLayer.starter record = some starter → _ := fun starter h =>
      starter_field (hsound starter h).choose_spec
    simp only [fields, ModelPresetLayer.fields, mergeRecord, ModelPresetLayer.mergeFrom, mergeOption, text, texts, boolean, positive,
      dialectText, List.forall_mem_cons, Option.map_or]
    rw [bind_or fun starter h => (hstarter starter h).1, bind_or fun starter h => (hstarter starter h).2.1,
      bind_or fun starter h => (hstarter starter h).2.2.1, bind_or fun starter h => (hstarter starter h).2.2.2.1,
      bind_or fun starter h => (hstarter starter h).2.2.2.2]
    simp [Option.map_or]

/-- What a path reads is what its field reads in the record at its place. -/
theorem get_place {rest : String} (h : d.PlainIds) (hplain : location.Plain) :
    d.flatten.get (dotted location.stem rest) =
      (location.fields.lookup rest).bind fun read => read ((location.place.find d).getD location.place.default) := by
  refine Option.ext fun value => ?_
  rw [ConfigDocument.get_flatten h, ConfigDocument.mem_fields_iff h.distinct]
  have hholds : (∃ location' : Location, ∃ rest', location'.Holds d rest' value ∧
      dotted location.stem rest = dotted location'.stem rest') ↔ location.Holds d rest value := by
    constructor
    · intro hplace
      obtain ⟨location', rest', ⟨record, hfind, hrest⟩, hpath⟩ := hplace
      obtain ⟨rfl, rfl⟩ := stem_inj hplain (plain_of_find h hfind) hpath
      exact ⟨record, hfind, hrest⟩
    · exact fun hplace => ⟨location, rest, hplace, rfl⟩
  rw [hholds, holds_iff]
  cases hlookup : location.fields.lookup rest with
  | none =>
    have hnone : (rest, value) ∉ present location.fields ((location.place.find d).getD location.place.default) := by
      intro hmem
      obtain ⟨read, hread, _⟩ := mem_present.mp hmem
      rw [List.lookup_eq_none_iff] at hlookup
      exact bne_iff_ne.mp (hlookup _ hread) rfl
    simp [hnone]
  | some read => exact mem_present_lookup location.fields_nodup hlookup

/-- A path of no place reads as nothing. -/
theorem get_nowhere {path : String} (h : d.PlainIds)
    (hpath : ∀ location : Location, location.Plain → ∀ rest, path ≠ dotted location.stem rest) : d.flatten.get path = none := by
  refine Option.eq_none_iff_forall_ne_some.mpr fun value hvalue => ?_
  rw [ConfigDocument.get_flatten h, ConfigDocument.mem_fields_iff h.distinct] at hvalue
  obtain ⟨location, rest, ⟨record, hfind, _⟩, heq⟩ := hvalue
  exact hpath location (plain_of_find h hfind) rest heq

end Location

namespace ConfigDocument

variable {d above : ConfigDocument}

/-- A merged document reads as the later layer where that has the path. -/
theorem get_mergeFrom (hd : d.ValidLayer) (habove : above.ValidLayer) (path : String) :
    (d.mergeFrom above).flatten.get path = (above.flatten.get path).or (d.flatten.get path) := by
  have hmerged := (hd.mergeFrom habove).plainIds
  by_cases hpath : ∃ location : Location, location.Plain ∧ ∃ rest, path = dotted location.stem rest
  · obtain ⟨location, hplain, rest, rfl⟩ := hpath
    rw [Location.get_place hmerged hplain, Location.get_place habove.plainIds hplain, Location.get_place hd.plainIds hplain,
      Location.find_mergeFrom habove.distinct]
    cases hlookup : location.fields.lookup rest with
    | none => rfl
    | some read =>
      have hfield : (rest, read) ∈ location.fields := mem_of_lookup hlookup
      cases hfind : location.place.find above with
      | none =>
        have hdefault : read location.place.default = none := by
          cases hread : read location.place.default with
          | none => rfl
          | some value =>
            have hmem : (rest, value) ∈ present location.fields location.place.default := mem_present.mpr ⟨read, hfield, hread⟩
            rw [Location.present_default] at hmem
            cases hmem
        show read ((location.place.find d).getD location.place.default) =
          (read location.place.default).or (read ((location.place.find d).getD location.place.default))
        rw [hdefault]
        rfl
      | some record => exact Location.merged_cell (Location.sound_find habove hfind) (rest, read) hfield
  · have hnowhere : ∀ location : Location, location.Plain → ∀ rest, path ≠ dotted location.stem rest :=
      fun location hplain rest heq => hpath ⟨location, hplain, rest, heq⟩
    rw [Location.get_nowhere hmerged hnowhere, Location.get_nowhere habove.plainIds hnowhere,
      Location.get_nowhere hd.plainIds hnowhere]
    rfl

theorem flatten_mergeFrom (hd : d.ValidLayer) (habove : above.ValidLayer) :
    (d.mergeFrom above).flatten = d.flatten.overlay above.flatten := by
  refine OrdMap.ext_get fun path => ?_
  rw [get_mergeFrom hd habove, OrdMap.get_overlay]

end ConfigDocument

/-! ## Effective entries -/

section Layers

variable (builtIn user project cli : ConfigDocument)

/-- The layer of a source. -/
def layerOf : ConfigScope → ConfigDocument
  | .builtIn => builtIn
  | .user => user
  | .project => project
  | .cli => cli

/-- The layers after that of a source. -/
def layersAbove : ConfigScope → List ConfigDocument
  | .builtIn => [user, project, cli]
  | .user => [project, cli]
  | .project => [cli]
  | .cli => []

/-- The layer of the source has the path, and no layer after it. -/
def HighestLayer (path : String) (source : ConfigScope) : Prop :=
  ((layerOf builtIn user project cli source).flatten.get path).isSome = true ∧
    ∀ layer ∈ layersAbove user project cli source, layer.flatten.get path = none

/-- What a path reads in the last layer that has it, with that layer's source. -/
def effectiveAt (path : String) : Option EffectiveConfigEntry :=
  let at_ (source : ConfigScope) (layer : ConfigDocument) := (layer.flatten.get path).map fun value => ⟨path, value, source⟩
  (at_ .cli cli).or ((at_ .project project).or ((at_ .user user).or (at_ .builtIn builtIn)))

variable {builtIn user project cli}

/-- One layer's entries put over those of the layers before it. -/
theorem get_layer (layer : ConfigDocument) (source : ConfigScope) (m : OrdMap String EffectiveConfigEntry) (path : String) :
    ((layer.flatten.entries.map fun (path, value) => (path, EffectiveConfigEntry.mk path value source)).foldl
      (fun effective entry => effective.insert entry.1 entry.2) m).get path =
        ((layer.flatten.get path).map fun value => ⟨path, value, source⟩).or (m.get path) := by
  rw [List.foldl_map]
  exact OrdMap.get_foldl_inserts (fun path value => EffectiveConfigEntry.mk path value source) layer.flatten.sorted m path

theorem effectiveAt_path {path : String} {entry : EffectiveConfigEntry}
    (h : effectiveAt builtIn user project cli path = some entry) : entry.path = path := by
  simp only [effectiveAt, Option.or_eq_some_iff, Option.map_eq_some_iff] at h
  rcases h with ⟨_, _, rfl⟩ | ⟨_, ⟨_, _, rfl⟩ | ⟨_, ⟨_, _, rfl⟩ | ⟨_, _, _, rfl⟩⟩⟩ <;> rfl

theorem mem_effectiveEntries {entry : EffectiveConfigEntry} :
    entry ∈ effectiveEntries builtIn user project cli ↔ effectiveAt builtIn user project cli entry.path = some entry := by
  unfold effectiveEntries
  simp only [List.flatMap_cons, List.flatMap_nil, List.append_nil, List.foldl_append]
  rw [OrdMap.mem_values]
  simp only [get_layer, OrdMap.get_empty, Option.or_none]
  show (∃ path, effectiveAt builtIn user project cli path = some entry) ↔ _
  constructor
  · intro hentry
    obtain ⟨path, hpath⟩ := hentry
    rwa [effectiveAt_path hpath]
  · exact fun hentry => ⟨entry.path, hentry⟩

theorem get_mergeDocuments (hbuiltIn : builtIn.ValidLayer) (huser : user.ValidLayer) (hproject : project.ValidLayer)
    (hcli : cli.ValidLayer) (path : String) : (mergeDocuments builtIn user project cli).flatten.get path =
      (cli.flatten.get path).or ((project.flatten.get path).or ((user.flatten.get path).or (builtIn.flatten.get path))) := by
  unfold mergeDocuments
  rw [ConfigDocument.get_mergeFrom ((hbuiltIn.mergeFrom huser).mergeFrom hproject) hcli,
    ConfigDocument.get_mergeFrom (hbuiltIn.mergeFrom huser) hproject, ConfigDocument.get_mergeFrom hbuiltIn huser]

theorem effectiveAt_iff (hbuiltIn : builtIn.ValidLayer) (huser : user.ValidLayer) (hproject : project.ValidLayer)
    (hcli : cli.ValidLayer) {entry : EffectiveConfigEntry} :
    effectiveAt builtIn user project cli entry.path = some entry ↔
      (mergeDocuments builtIn user project cli).flatten.get entry.path = some entry.value ∧
        HighestLayer builtIn user project cli entry.path entry.source := by
  rw [get_mergeDocuments hbuiltIn huser hproject hcli]
  obtain ⟨path, value, source⟩ := entry
  unfold effectiveAt HighestLayer
  cases hc : cli.flatten.get path <;> cases hp : project.flatten.get path <;> cases hu : user.flatten.get path <;>
    cases hb : builtIn.flatten.get path <;> cases source <;> simp [layerOf, layersAbove, hc, hp, hu, hb]

/-- Flattening and merging are overlaying, and what is shown is what the merged document has. -/
theorem merge_agrees (hbuiltIn : builtIn.validateLayer = .ok ()) (huser : user.validateLayer = .ok ())
    (hproject : project.validateLayer = .ok ()) (hcli : cli.validateLayer = .ok ()) :
    (mergeDocuments builtIn user project cli).flatten =
        ((builtIn.flatten.overlay user.flatten).overlay project.flatten).overlay cli.flatten ∧
      (∀ entry, entry ∈ effectiveEntries builtIn user project cli ↔
        (mergeDocuments builtIn user project cli).flatten.get entry.path = some entry.value ∧
          HighestLayer builtIn user project cli entry.path entry.source) ∧
      (∀ lib resolved, resolveDocuments lib builtIn user project cli = .ok resolved →
        resolved.document = mergeDocuments builtIn user project cli ∧
          resolved.internalEntries = effectiveEntries builtIn user project cli ∧
          ∀ entry, entry ∈ resolved.entries ↔ entry ∈ resolved.internalEntries ∧ credentialPath entry.path = false) ∧
      (builtIn.mergeFrom user).mergeFrom project = builtIn.mergeFrom (user.mergeFrom project) ∧
      user.mergeFrom user = user := by
  rw [ConfigDocument.validateLayer_ok] at hbuiltIn huser hproject hcli
  refine ⟨?_, fun entry => ?_, fun lib resolved hresolved => ?_, ConfigDocument.mergeFrom_assoc huser.distinct,
    ConfigDocument.mergeFrom_self huser.distinct⟩
  · unfold mergeDocuments
    rw [ConfigDocument.flatten_mergeFrom ((hbuiltIn.mergeFrom huser).mergeFrom hproject) hcli,
      ConfigDocument.flatten_mergeFrom (hbuiltIn.mergeFrom huser) hproject, ConfigDocument.flatten_mergeFrom hbuiltIn huser]
  · rw [mem_effectiveEntries]
    exact effectiveAt_iff hbuiltIn huser hproject hcli
  · obtain ⟨_, hstate⟩ := resolveDocuments_ok.mp hresolved
    subst hstate
    refine ⟨rfl, rfl, fun entry => ?_⟩
    show entry ∈ List.filter _ _ ↔ entry ∈ effectiveEntries builtIn user project cli ∧ _
    rw [List.mem_filter, Bool.not_eq_true']

end Layers

/-- A user layer with a window, over which a project layer has another and one more day for the first. -/
theorem merge_agrees_windows :
    let user := { ConfigDocument.empty with stats := ⟨some [⟨"work", some "09:00", some "17:00", some [.mon], some "UTC"⟩]⟩ }
    let project := { ConfigDocument.empty with
      stats := ⟨some [⟨"late", some "20:00", none, none, none⟩, ⟨"work", none, none, some [.mon, .tue], none⟩]⟩ }
    (mergeDocuments .builtIn user project .empty).flatten =
      ((ConfigDocument.builtIn.flatten.overlay user.flatten).overlay project.flatten).overlay ConfigDocument.empty.flatten :=
  (merge_agrees (by decide +kernel) (by decide +kernel) (by decide +kernel) (by decide +kernel)).1

end GreenTyper.Config
