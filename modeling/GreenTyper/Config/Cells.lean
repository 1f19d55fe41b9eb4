/-
  GreenTyper.Config.Cells — the fields of a document are cells of their own.

  After a successful `set` the path reads as the value, a route in its normal form, and
  every other path as before; the same edit again changes nothing. After a successful
  `reset` the path reads as absent (`fields_are_cells`). Resetting prunes every object that
  is empty, also one that was there before: setting and resetting an absent field gives
  back the document without its empty objects, which is the document if it has none.
-/

import GreenTyper.Config.Rejected

namespace GreenTyper.Config

open Lib Provider Usage

namespace ConfigDocument

variable {d d' : ConfigDocument} {path name : String} {value : ConfigValue} {scope : ConfigScope}
  {location : Location} {setter : Setter location.Record} {resetter : Resetter location.Record}

/-! ## Reads -/

theorem get_congr {other : String} (h : d'.flatten.get other = d.flatten.get other) : d'.get other = d.get other := by
  rw [get, get, h]

theorem get_of_checkPath {descriptor : ConfigSchemaEntry} (h : checkPath scope path = .ok descriptor) :
    d.get path = .ok (d.flatten.get path) := by
  rw [get, (checkPath_ok.mp h).1]
  rfl

theorem get_absent (h : d.get path = .ok none) : d.flatten.get path = none := by
  simp only [get, bind_ok, pure, Except.pure, Except.ok.injEq] at h
  obtain ⟨_, _, hnone⟩ := h
  exact hnone

theorem Rewrites.reads {v : Option ConfigValue} {descriptor : ConfigSchemaEntry} (h : d.Rewrites d' path v) (hd : d.PlainIds)
    (hcheck : checkPath scope path = .ok descriptor) :
    d'.get path = .ok v ∧ ∀ other, other ≠ path → d'.get other = d.get other := by
  obtain ⟨hself, hothers⟩ := h.flatten hd
  refine ⟨?_, fun other hother => get_congr (hothers other hother)⟩
  rw [get_of_checkPath hcheck, hself]

/-- A path that reads as absent is not in the record that it is of. -/
theorem absent_base (hd : d.PlainIds) (h : Field path location name setter resetter) (habsent : d.flatten.get path = none) (w : ConfigValue) :
    (name, w) ∉ present location.fields (d.base location) := by
  intro hmem
  have hfield : (path, w) ∈ d.fields :=
    (mem_fields_iff hd.distinct).mpr ⟨location, name, Location.holds_iff.mpr hmem, h.located.path_eq⟩
  rw [← get_flatten hd, habsent] at hfield
  cases hfield

/-- Where the object is not there, neither is the field. -/
theorem absent_object (hd : d.PlainIds) (h : Field path location name setter resetter) (hfind : location.place.find d = none) :
    d.flatten.get path = none := by
  refine Option.eq_none_iff_forall_ne_some.mpr fun w hw => ?_
  rw [get_flatten hd, mem_fields_iff hd.distinct] at hw
  obtain ⟨location', rest, ⟨record, hrecord, _⟩, hpath⟩ := hw
  rw [h.located.path_eq] at hpath
  obtain ⟨rfl, _⟩ := Location.stem_inj h.located.plain (Location.plain_of_find hd hrecord) hpath
  rw [hfind] at hrecord
  cases hrecord

/-! ## Set -/

/-- Setting and resetting a field that was empty leaves what pruning leaves. -/
theorem prune_put_base : (location.place.put d (d.base location)).pruneEmpty = d.pruneEmpty := by
  cases hfind : location.place.find d with
  | none =>
    rw [base, hfind]
    exact prune_put_default hfind
  | some record =>
    rw [base, hfind]
    exact congrArg pruneEmpty (Location.put_find hfind)

/-- What holds of a document after a field has been set to a value. -/
structure SetTo (d d' : ConfigDocument) (scope : ConfigScope) (path : String) (value : ConfigValue) : Prop where
  read : d'.get path = .ok (some (normalForm path value))
  others : ∀ other, other ≠ path → d'.get other = d.get other
  again : d'.set scope path value = (.ok (), d')
  undone : d.get path = .ok none → d'.reset scope path = (.ok (), d.pruneEmpty)

theorem set_setTo (hvalid : d.ValidLayer) (hd : d.Routed) (hok : (d.set scope path value).1 = .ok ()) :
    d.SetTo (d.set scope path value).2 scope path value := by
  cases hcheck : checkSet scope path value with
  | error e =>
    rw [show d.set scope path value = (.error e, d) by simp only [ConfigDocument.set, hcheck]] at hok
    cases hok
  | ok names =>
    obtain ⟨rfl, location, name, setter, resetter, h, hkind⟩ := checkSet_field hcheck
    obtain ⟨descriptor, hpath, _, hsplit⟩ := checkSet_ok.mp hcheck
    rcases set_cases hd hcheck h hkind with ⟨hreadable, update, hwrite, hstored⟩ | ⟨_, e, hset⟩
    · have hput := hstored.ok.mp hok
      have hkept := hstored.kept (d.base location)
      have hown := Location.own_kept hkept (own_base d location)
      have hrewrites := rewrites_put hd.plain h.located (hstored.field.writes _) hkept
      have hrouted := hrewrites.routed hd fun w hw => Option.some.inj hw ▸ settled_normalForm hreadable
      rw [hstored.document]
      generalize hafter : location.place.put d (update (d.base location)) = d' at hput hrewrites hrouted
      have hfind : location.place.find d' = some (update (d.base location)) := hafter ▸ Location.find_put hown
      obtain ⟨hread, hothers⟩ := hrewrites.reads hd.plain hpath
      refine ⟨hread, hothers, ?_, fun habsent => ?_⟩
      · -- The record there is the updated one, which the same update leaves as it is.
        rcases set_cases hrouted hcheck h hkind with ⟨_, update', hwrite', hstored'⟩ | ⟨hunreadable, _⟩
        · rw [hwrite] at hwrite'
          cases hwrite'
          have hsame : location.place.put d' (update (d'.base location)) = d' := by
            have hbase : d'.base location = update (d.base location) := by rw [base, hfind]; rfl
            rw [hbase, hstored.field.again, Location.put_find hfind]
          exact Prod.ext (hstored'.ok.mpr (hsame.symm ▸ hput)) (hstored'.document.trans hsame)
        · exact absurd hreadable hunreadable
      · have hreset : (do let _ ← checkPath scope path; splitPath path) = .ok (segments path) := by
          rw [hpath]
          exact hsplit
        have hclear : location.place.put d' (resetter.clear (update (d.base location))) = location.place.put d (d.base location) := by
          rw [hstored.field.undone _ (absent_base hd.plain h (get_absent habsent)), ← hafter, Location.put_put hown (own_base d location)]
        rw [reset_cases hreset h, hfind]
        simp only [hclear, prune_put_base, validateLayer_ok.mpr (valid_prune hvalid)]
    · rw [hset] at hok
      cases hok

/-! ## Reset -/

theorem reset_reads (hd : d.PlainIds) (hok : (d.reset scope path).1 = .ok ()) :
    (d.reset scope path).2.get path = .ok none ∧ ∀ other, other ≠ path → (d.reset scope path).2.get other = d.get other := by
  cases hcheck : (do let _ ← checkPath scope path; splitPath path) with
  | error e =>
    rw [show d.reset scope path = (.error e, d) by simp only [ConfigDocument.reset, hcheck]] at hok
    cases hok
  | ok names =>
    obtain ⟨rfl, location, name, setter, resetter, h⟩ := checkReset_field hcheck
    obtain ⟨descriptor, hpath, _⟩ := bind_ok.mp hcheck
    rw [reset_cases hcheck h]
    cases hfind : location.place.find d with
    | none =>
      have habsent : d.get path = .ok none := by rw [get_of_checkPath hpath, absent_object hd h hfind]
      have hprune : ∀ other, d.pruneEmpty.get other = d.get other := fun other => get_congr (by rw [flatten_prune hd])
      cases resetter.endsAbsent with
      | true => exact ⟨habsent, fun _ _ => rfl⟩
      | false => exact ⟨(hprune path).trans habsent, fun other _ => hprune other⟩
    | some record =>
      have hbase : d.base location = record := by rw [base, hfind]; rfl
      have hwrites := h.wired.clear location.fields_nodup (d.base location)
      have hrewrites := rewrites_put hd h.located hwrites (h.kept_clear _)
      obtain ⟨hread, hothers⟩ := hrewrites.reads hd hpath
      rw [hbase] at hrewrites hread hothers
      have hprune : ∀ other, (location.place.put d (resetter.clear record)).pruneEmpty.get other =
          (location.place.put d (resetter.clear record)).get other := fun other => get_congr (by rw [flatten_prune hrewrites.plain])
      exact ⟨(hprune path).trans hread, fun other hother => (hprune other).trans (hothers other hother)⟩

/-- The fields of a draft's document are cells. -/
theorem fields_are_cells (hvalid : d.ValidLayer) (hd : d.Routed) (scope : ConfigScope) (path : String) :
    (∀ value, (d.set scope path value).1 = .ok () → d.SetTo (d.set scope path value).2 scope path value) ∧
    ((d.reset scope path).1 = .ok () →
      (d.reset scope path).2.get path = .ok none ∧ ∀ other, other ≠ path → (d.reset scope path).2.get other = d.get other) ∧
    (d.pruneEmpty = d ↔ d.NoEmpty) :=
  ⟨fun _ hok => set_setTo hvalid hd hok, fun hok => reset_reads hd.plain hok, prune_eq_self hvalid.distinct⟩

theorem fields_are_cells_model : empty.SetTo (empty.set .user "provider.model" (.string "fast")).2 .user "provider.model" (.string "fast") :=
  (fields_are_cells (validateLayer_ok.mp (by decide)) empty_routed .user "provider.model").1 (.string "fast") (by decide +kernel)

/-- A profile with nothing set is gone when another field has been set and reset, and a route of another profile that
    is written without its slash gets one when a field is set. -/
theorem an_edit_reaches_other_objects :
    let d : ConfigDocument := { empty with providers := OrdMap.empty.insert "local" .default }
    let slashless : ProviderProfileLayer := { ProviderProfileLayer.default with routes := ⟨some "v1", none, none, none⟩ }
    let d' : ConfigDocument := { empty with providers := OrdMap.empty.insert "local" slashless }
    (d.validateLayer = .ok () ∧ d.get "provider.model" = .ok none ∧ (d.set .user "provider.model" (.string "fast")).1 = .ok () ∧
      ((d.set .user "provider.model" (.string "fast")).2.reset .user "provider.model").1 = .ok () ∧
      ((d.set .user "provider.model" (.string "fast")).2.reset .user "provider.model").2 ≠ d) ∧
    d'.validateLayer = .ok () ∧ (d'.set .user "provider.model" (.string "fast")).1 = .ok () ∧
      (d'.set .user "provider.model" (.string "fast")).2.get "providers.local.routes.responses" ≠
        d'.get "providers.local.routes.responses" := by
  decide +kernel

end ConfigDocument

end GreenTyper.Config
