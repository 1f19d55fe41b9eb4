/-
  GreenTyper.Config.Effective — what the checks of an effective document amount to.

  `Effective` lists what `validateEffective` has checked of an effective document
  (`validateEffective_ok`), and `Resolves` what `resolveDocuments` has checked of four
  layers (`resolveDocuments_ok`). What the merged document is as a layer follows from what
  its layers are (`ValidLayer.merge`), so it is checked for nothing.
-/

import GreenTyper.Config.Fields
import GreenTyper.Config.Resolve

namespace GreenTyper.Config

open Lib Provider Usage

/-- The layers that an effective document alone makes. -/
def bootstrapLayers (document : ConfigDocument) : ConfigLayers :=
  ⟨{ document.bootstrapLayer with contextMode := some .canonical }, .default, .default, .default⟩

def runtimeLayers (builtIn user project cli : ConfigDocument) : ConfigLayers :=
  ⟨{ builtIn.bootstrapLayer with contextMode := some .canonical }, user.bootstrapLayer, project.bootstrapLayer, cli.bootstrapLayer⟩

structure Effective (lib : ConfigLibrary) (document : ConfigDocument) : Prop where
  layer : document.ValidLayer
  bootstrap : ∃ config, (bootstrapLayers document).resolve = .ok config
  selected : ∀ profile, document.provider.profile = some profile →
    profile = "simulator" ∨ document.providers.contains profile = true
  profiles : ∀ id profile, document.providers.get id = some profile → validateProfile lib id profile = .ok ()
  prices : ∃ book, resolvePriceScheduleBook lib document = .ok book
  presets : ∀ id preset, document.modelPresets.get id = some preset → validatePreset document id preset = .ok ()
  default : ∀ id, document.agent.defaultModelPreset = some id → document.modelPresets.contains id = true
  cycles : validateFallbackCycles document = .ok ()
  few : document.windows.length ≤ maxUsageWindows
  windows : ∀ window ∈ document.windows, validateUsageWindow lib window = .ok ()
  primary : ∀ id, document.ui.statusline.primaryUsageWindow = some id → id ∈ document.windows.map (·.id)
  custom : document.ui.statusline.preset = some .custom →
    document.ui.statusline.custom.left.any (· ≠ []) = true ∨ document.ui.statusline.custom.right.any (· ≠ []) = true

section Checks

variable {lib : ConfigLibrary}

theorem validateEffective_ok {document : ConfigDocument} : validateEffective lib document = .ok () ↔ Effective lib document := by
  simp only [validateEffective, bind_ok, exists_unit, mapError_ok, ConfigDocument.validateLayer_ok, option_forM_ok,
    forM_ok, Prod.forall, OrdMap.mem_entries, require_ok]
  constructor
  · rintro ⟨hlayer, config, hconfig, hselected, hprofiles, book, hbook, hpresets, hdefault, hcycles, hfew, hwindows, hprimary,
      hcustom⟩
    exact ⟨hlayer, ⟨config, hconfig⟩, hselected, hprofiles, ⟨book, hbook⟩, hpresets, hdefault, hcycles, hfew, hwindows, hprimary,
      hcustom⟩
  · rintro ⟨hlayer, ⟨config, hconfig⟩, hselected, hprofiles, ⟨book, hbook⟩, hpresets, hdefault, hcycles, hfew, hwindows, hprimary,
      hcustom⟩
    exact ⟨hlayer, config, hconfig, hselected, hprofiles, book, hbook, hpresets, hdefault, hcycles, hfew, hwindows, hprimary,
      hcustom⟩

/-- What four layers are that resolve. -/
structure Resolves (lib : ConfigLibrary) (builtIn user project cli : ConfigDocument) : Prop where
  builtInLayer : builtIn.ValidLayer
  userLayer : user.ValidLayer
  projectLayer : project.ValidLayer
  cliLayer : cli.ValidLayer
  effective : Effective lib (mergeDocuments builtIn user project cli)
  layers : ∃ config, (runtimeLayers builtIn user project cli).resolve = .ok config

variable {builtIn user project cli : ConfigDocument}

def resolvedState (builtIn user project cli : ConfigDocument) : ResolvedState :=
  let internalEntries := effectiveEntries builtIn user project cli
  ⟨mergeDocuments builtIn user project cli, internalEntries.filter (fun entry => !credentialPath entry.path), internalEntries,
    runtimeLayers builtIn user project cli⟩

theorem resolveDocuments_ok {resolved : ResolvedState} : resolveDocuments lib builtIn user project cli = .ok resolved ↔
    Resolves lib builtIn user project cli ∧ resolved = resolvedState builtIn user project cli := by
  simp only [resolveDocuments, bind_ok, exists_unit, mapError_ok, ConfigDocument.validateLayer_ok, validateEffective_ok, pure,
    Except.pure, Except.ok.injEq]
  constructor
  · rintro ⟨hbuiltIn, huser, hproject, hcli, heffective, config, hconfig, rfl⟩
    exact ⟨⟨hbuiltIn, huser, hproject, hcli, heffective, config, hconfig⟩, rfl⟩
  · rintro ⟨⟨hbuiltIn, huser, hproject, hcli, heffective, config, hconfig⟩, rfl⟩
    exact ⟨hbuiltIn, huser, hproject, hcli, heffective, config, hconfig, rfl⟩

/-- Layers that resolve at all resolve to their resolved state. -/
theorem resolveDocuments_accepts (h : okAnd (resolveDocuments lib builtIn user project cli) (fun _ => true) = true) :
    resolveDocuments lib builtIn user project cli = .ok (resolvedState builtIn user project cli) := by
  obtain ⟨resolved, hok, _⟩ := okAnd_iff.mp h
  rw [hok, (resolveDocuments_ok.mp hok).2]

theorem resolveDocuments_isOk : (∃ resolved, resolveDocuments lib builtIn user project cli = .ok resolved) ↔
    Resolves lib builtIn user project cli :=
  ⟨fun ⟨_, h⟩ => (resolveDocuments_ok.mp h).1, fun h => ⟨_, resolveDocuments_ok.mpr ⟨h, rfl⟩⟩⟩

end Checks

end GreenTyper.Config
