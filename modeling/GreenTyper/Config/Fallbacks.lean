/-
  GreenTyper.Config.Fallbacks — the fallback graphs that are accepted, and the chains of
  their presets.

  The walk for cycles settles each preset after its fallbacks (`Walked`), so it ends at a
  cycle or with all presets settled; then each preset unfolds to a tree, and the walk that
  counts candidates and the walk that makes a chain meet the presets of that tree in its
  order. The capability contract is checked of single fallbacks and holds along a path
  (`fallback_graphs_exact`).
-/

import GreenTyper.Config.Accepted
import GreenTyper.Lib.Walk
import Mathlib.Data.Set.Card

namespace GreenTyper.Config

open Lib Provider Usage Relation

/-! ## The graph -/

/-- The preset falls back to the name. -/
def FallsBack (document : ConfigDocument) : String → String → Prop := Edge document.fallbacksOf

/-- The names that a preset leads to, itself included. -/
def candidates (document : ConfigDocument) (id : String) : Set String := {name | ReflTransGen (FallsBack document) id name}

/-- The candidate has what is required of it: the same effort, tier and context mode, and no fewer tokens. -/
structure ModelPresetView.Preserves (required candidate : ModelPresetView) : Prop where
  reasoningEffort : ∀ effort, required.reasoningEffort = some effort → candidate.reasoningEffort = some effort
  serviceTier : ∀ tier, required.serviceTier = some tier → candidate.serviceTier = some tier
  maxOutputTokens : ∀ minimum, required.maxOutputTokens = some minimum →
    ∃ tokens, candidate.maxOutputTokens = some tokens ∧ minimum ≤ tokens
  contextMode : ∀ mode, required.contextMode = some mode → candidate.contextMode = some mode

/-- What a chain is of the preset that it starts with. -/
structure ModelPresetChain (lib : ConfigLibrary) (runtime : ConfigRuntime) (document : ConfigDocument) (id : String)
    (chain : List ModelPresetView) : Prop where
  /-- The preset's tree in its order, without what occurred before. -/
  preorder : ∃ tree, Unfolds document.fallbacksOf [id] tree ∧ chain.map (·.id) = tree.eraseDups
  once : (chain.map (·.id)).Nodup
  reached : ∀ name, name ∈ chain.map (·.id) ↔ name ∈ candidates document id
  few : chain.length ≤ maxModelPresetFallbackCandidates
  presets : ∃ views, runtime.modelPresets lib = .ok views ∧ chain ⊆ views
  first : ∃ root rest, chain = root :: rest ∧ root.id = id ∧ ∀ view ∈ chain, root.Preserves view

/-! ## The walk for cycles -/

section Cycles

variable {document : ConfigDocument}

theorem fallbacksOf_preset {id : String} (h : document.fallbacksOf id ≠ []) : id ∈ document.modelPresets.keys := by
  cases hget : document.modelPresets.get id with
  | none => exact absurd (by rw [ConfigDocument.fallbacksOf, hget]; rfl) h
  | some preset => exact OrdMap.mem_keys.mpr ⟨preset, hget⟩

def fallbackCycle (root : String) : ConfigRuntimeError :=
  invalid (dotted (presetPath root) "fallback") "fallback chain contains a cycle"

/-- How a walk ends: with its targets settled and nothing of its way down, or at a cycle. -/
def Walked (document : ConfigDocument) (active complete targets : List String) (result : Except ConfigRuntimeError (List String)) :
    Prop :=
  (∃ walked, result = .ok walked ∧ Settled document.fallbacksOf walked ∧ complete ⊆ walked ∧ targets ⊆ walked ∧
    ∀ a ∈ active, a ∉ walked) ∨
  ((∃ root, result = .error (fallbackCycle root)) ∧ ¬ Acyclic (FallsBack document))

/-- A walk over a list, by the walk of each. -/
theorem walked_each {active : List String} {step : List String → String → Except ConfigRuntimeError (List String)} :
    ∀ (targets complete : List String),
      (∀ target ∈ targets, ∀ complete, Settled document.fallbacksOf complete → (∀ a ∈ active, a ∉ complete) →
        Walked document active complete [target] (step complete target)) →
      Settled document.fallbacksOf complete → (∀ a ∈ active, a ∉ complete) →
      Walked document active complete targets (targets.foldlM step complete) := by
  intro targets
  induction targets with
  | nil => exact fun complete _ hsettled hapart => Or.inl ⟨complete, rfl, hsettled, List.Subset.refl _, List.nil_subset _, hapart⟩
  | cons target targets ih =>
    intro complete hstep hsettled hapart
    rw [List.foldlM_cons]
    rcases hstep target List.mem_cons_self complete hsettled hapart with ⟨walked, hok, hsettled1, hsub1, htarget, hapart1⟩ | hcycle
    · rw [hok, ok_bind]
      rcases ih walked (fun t ht => hstep t (List.mem_cons_of_mem _ ht)) hsettled1 hapart1 with
        ⟨walked2, hok2, hsettled2, hsub2, htargets, hapart2⟩ | hcycle
      · refine Or.inl ⟨walked2, hok2, hsettled2, List.Subset.trans hsub1 hsub2, ?_, hapart2⟩
        exact List.cons_subset.mpr ⟨hsub2 (htarget List.mem_cons_self), htargets⟩
      · exact Or.inr hcycle
    · obtain ⟨⟨root, herror⟩, hcycle⟩ := hcycle
      rw [herror, error_bind]
      exact Or.inr ⟨⟨root, rfl⟩, hcycle⟩

/-- The walk from a preset that everything of its way down leads to. -/
theorem visitFallbacks_walked (root : String) : ∀ (fuel : Nat) (current : String) (active complete : List String),
    Settled document.fallbacksOf complete → (∀ a ∈ active, a ∉ complete) →
    (∀ a ∈ active, TransGen (FallsBack document) a current) → unseen document.modelPresets.keys active < fuel →
    Walked document active complete [current] (visitFallbacks document root fuel current active complete) := by
  intro fuel
  induction fuel with
  | zero => exact fun _ _ _ _ _ _ h => absurd h (Nat.not_lt_zero _)
  | succ fuel ih =>
    intro current active complete hsettled hapart hdown hfuel
    unfold visitFallbacks
    by_cases hcomplete : current ∈ complete
    · rw [if_pos hcomplete]
      exact Or.inl ⟨complete, rfl, hsettled, List.Subset.refl _, List.cons_subset.mpr ⟨hcomplete, List.nil_subset _⟩, hapart⟩
    rw [if_neg hcomplete]
    by_cases hactive : current ∈ active
    · rw [if_pos hactive]
      exact Or.inr ⟨⟨root, rfl⟩, fun h => h current (hdown current hactive)⟩
    rw [if_neg hactive]
    have hapart' : ∀ a ∈ current :: active, a ∉ complete := List.forall_mem_cons.mpr ⟨hcomplete, hapart⟩
    have hbelow : Walked document (current :: active) complete (document.fallbacksOf current)
        ((document.fallbacksOf current).foldlM
          (fun complete fallback => visitFallbacks document root fuel fallback (current :: active) complete) complete) := by
      refine walked_each _ complete (fun fallback hfallback complete hsettled hapart => ?_) hsettled hapart'
      have hless := unseen_cons (fallbacksOf_preset (List.ne_nil_of_mem hfallback)) hactive
      refine ih fallback (current :: active) complete hsettled hapart ?_ (by omega)
      intro a ha
      rcases List.mem_cons.mp ha with rfl | ha
      · exact .single hfallback
      · exact (hdown a ha).tail hfallback
    rcases hbelow with ⟨walked, hok, hsettled', hsub, hnext, hapart''⟩ | ⟨⟨root', herror⟩, hcycle⟩
    · rw [hok, ok_bind]
      refine Or.inl ⟨current :: walked, rfl, ⟨hapart'' current List.mem_cons_self, hnext, hsettled'⟩, ?_, ?_, ?_⟩
      · exact fun a ha => List.mem_cons_of_mem _ (hsub ha)
      · exact List.cons_subset.mpr ⟨List.mem_cons_self, List.nil_subset _⟩
      · intro a ha hmem
        rcases List.mem_cons.mp hmem with rfl | hmem
        · exact hactive ha
        · exact hapart'' a (List.mem_cons_of_mem _ ha) hmem
    · rw [herror, error_bind]
      exact Or.inr ⟨⟨root', rfl⟩, hcycle⟩

theorem collectFallbacks_explore : ∀ (fuel : Nat) (current : String) (seen : List String),
    collectFallbacks document fuel current seen = explore document.fallbacksOf fuel seen current := by
  intro fuel
  induction fuel with
  | zero => exact fun _ _ => rfl
  | succ fuel ih =>
    intro current seen
    have hstep : (fun seen fallback => collectFallbacks document fuel fallback seen) = explore document.fallbacksOf fuel := by
      funext seen fallback
      exact ih fallback seen
    rw [collectFallbacks, explore, hstep]

/-- A list of the candidates, each once, is as long as there are candidates. -/
theorem candidates_encard {id : String} {names : List String} (hnodup : names.Nodup)
    (hmem : ∀ name, name ∈ names ↔ ReflTransGen (FallsBack document) id name) : (candidates document id).encard = names.length := by
  have hset : candidates document id = ↑names.toFinset := by
    ext name
    rw [List.coe_toFinset]
    exact (hmem name).symm
  rw [hset, Set.encard_coe_eq_coe_finsetCard, List.toFinset_card_of_nodup hnodup]

theorem keys_length (document : ConfigDocument) : document.modelPresets.keys.length = document.modelPresets.size := by
  rw [OrdMap.keys, List.length_map, OrdMap.size]

theorem presets_walked (document : ConfigDocument) : Walked document [] [] document.modelPresets.keys
    (document.modelPresets.keys.foldlM
      (fun complete root => visitFallbacks document root (document.modelPresets.size + 2) root [] complete) []) := by
  refine walked_each _ [] (fun root _ complete hsettled hapart => ?_) trivial (by simp)
  refine visitFallbacks_walked root _ root [] complete hsettled hapart (by simp) ?_
  have hlt := unseen_lt document.modelPresets.keys []
  have hlen := keys_length document
  omega

/-- Only presets have fallbacks, so a cycle goes through presets. -/
theorem acyclic_of_settled {walked : List String} (hsettled : Settled document.fallbacksOf walked)
    (hall : document.modelPresets.keys ⊆ walked) : Acyclic (FallsBack document) := by
  intro a hcycle
  obtain ⟨b, hab, _⟩ := TransGen.head'_iff.mp hcycle
  exact hsettled.no_cycle (hall (fallbacksOf_preset (List.ne_nil_of_mem hab))) hcycle

/-- The presets of an acyclic graph unfold. -/
theorem preset_unfolds (hacyclic : Acyclic (FallsBack document)) {root : String} (hroot : root ∈ document.modelPresets.keys) :
    ∃ tree, Unfolds document.fallbacksOf [root] tree := by
  rcases presets_walked document with ⟨walked, _, hsettled, _, hall, _⟩ | ⟨_, hcycle⟩
  · exact hsettled.unfolds (List.cons_subset.mpr ⟨hall hroot, List.nil_subset _⟩)
  · exact absurd hacyclic hcycle

theorem collectFallbacks_length (hacyclic : Acyclic (FallsBack document)) {root : String}
    (hroot : root ∈ document.modelPresets.keys) :
    (candidates document root).encard = (collectFallbacks document (document.modelPresets.size + 2) root []).length := by
  obtain ⟨tree, htree⟩ := preset_unfolds hacyclic hroot
  have hfuel : document.modelPresets.keys.length < document.modelPresets.size + 2 := by
    rw [keys_length]
    omega
  obtain ⟨_, hnodup, hmem⟩ := explore_root hacyclic (fun _ => fallbacksOf_preset) htree hfuel
  rw [collectFallbacks_explore]
  exact candidates_encard hnodup hmem

/-- A fallback graph is accepted when it has no cycle and no preset with more candidates than allowed. -/
theorem validateFallbackCycles_ok : validateFallbackCycles document = .ok () ↔ Acyclic (FallsBack document) ∧
    ∀ root ∈ document.modelPresets.keys, (candidates document root).encard ≤ maxModelPresetFallbackCandidates := by
  have hcount : Acyclic (FallsBack document) → ∀ root ∈ document.modelPresets.keys,
      ((candidates document root).encard ≤ maxModelPresetFallbackCandidates ↔
        (collectFallbacks document (document.modelPresets.size + 2) root []).length ≤ maxModelPresetFallbackCandidates) := by
    intro hacyclic root hroot
    rw [collectFallbacks_length hacyclic hroot, Nat.cast_le]
  simp only [validateFallbackCycles, bind_ok, forM_ok, require_ok]
  constructor
  · intro h
    obtain ⟨walked, hwalked, hfew⟩ := h
    rcases presets_walked document with ⟨walked', _, hsettled, _, hall, _⟩ | ⟨⟨root, herror⟩, _⟩
    · have hacyclic := acyclic_of_settled hsettled hall
      exact ⟨hacyclic, fun root hroot => (hcount hacyclic root hroot).mpr (hfew root hroot)⟩
    · rw [herror] at hwalked
      cases hwalked
  · intro h
    obtain ⟨hacyclic, hfew⟩ := h
    rcases presets_walked document with ⟨walked, hwalked, _⟩ | ⟨_, hcycle⟩
    · exact ⟨walked, hwalked, fun root hroot => (hcount hacyclic root hroot).mp (hfew root hroot)⟩
    · exact absurd hacyclic hcycle

end Cycles

/-! ## The capability contract -/

section Contract

variable {required candidate other : ModelPresetLayer}

theorem preserves_iff : preservesFallbackCapabilityContract required candidate = true ↔
    (∀ effort, required.reasoningEffort = some effort → candidate.reasoningEffort = some effort) ∧
    (∀ tier, required.serviceTier = some tier → candidate.serviceTier = some tier) ∧
    (∀ minimum, required.maxOutputTokens = some minimum → ∃ tokens, candidate.maxOutputTokens = some tokens ∧ minimum ≤ tokens) ∧
    ∀ mode, required.contextMode = some mode → candidate.contextMode = some mode := by
  simp only [preservesFallbackCapabilityContract, Bool.and_eq_true, Option.all_eq_true, Option.any_eq_true, beq_iff_eq,
    decide_eq_true_eq, and_assoc]

theorem preserves_refl (preset : ModelPresetLayer) : preservesFallbackCapabilityContract preset preset = true :=
  preserves_iff.mpr ⟨fun _ h => h, fun _ h => h, fun minimum h => ⟨minimum, h, UInt32.le_refl minimum⟩, fun _ h => h⟩

/-- What a fallback has, its own fallback has. -/
theorem preserves_trans (h : preservesFallbackCapabilityContract required candidate = true)
    (h' : preservesFallbackCapabilityContract candidate other = true) : preservesFallbackCapabilityContract required other = true := by
  rw [preserves_iff] at h h' ⊢
  obtain ⟨heffort, htier, htokens, hmode⟩ := h
  obtain ⟨heffort', htier', htokens', hmode'⟩ := h'
  refine ⟨fun v hv => heffort' v (heffort v hv), fun v hv => htier' v (htier v hv), fun minimum hv => ?_,
    fun v hv => hmode' v (hmode v hv)⟩
  obtain ⟨tokens, htok, hle⟩ := htokens minimum hv
  obtain ⟨tokens', htok', hle'⟩ := htokens' tokens htok
  exact ⟨tokens', htok', UInt32.le_trans hle hle'⟩

end Contract

/-! ## Chains -/

section Chains

variable {lib : ConfigLibrary} {runtime : ConfigRuntime} {resolved : ResolvedState} {presets : OrdMap String ModelPresetView}

/-- A chain so far is that of the presets met, the last of them first. -/
def Chained (presets : OrdMap String ModelPresetView) (state : List String × List ModelPresetView) (seen : List String) : Prop :=
  state.1 = seen ∧ state.2.map (·.id) = seen.reverse ∧ ∀ view ∈ state.2, presets.get view.id = some view

theorem visitPreset_chained {next : String → List String}
    (hviews : ∀ key view, presets.get key = some view → view.id = key ∧ view.fallback = next key) :
    ∀ (fuel : Nat) (state : List String × List ModelPresetView) (seen : List String) (id : String)
      (state' : List String × List ModelPresetView), Chained presets state seen → visitPreset presets fuel state id = .ok state' →
      Chained presets state' (explore next fuel seen id) := by
  intro fuel
  induction fuel with
  | zero =>
    intro state seen id state' _ hok
    cases hok
  | succ fuel ih =>
    intro state seen id state' hchained hok
    obtain ⟨met, chain⟩ := state
    obtain ⟨hmet, hids, hgets⟩ := hchained
    cases hmet
    unfold visitPreset at hok
    unfold explore
    by_cases hseen : id ∈ met
    · rw [if_pos hseen] at hok ⊢
      cases hok
      exact ⟨rfl, hids, hgets⟩
    · rw [if_neg hseen, bind_ok] at hok
      obtain ⟨view, hview, hok⟩ := hok
      rw [okOr_ok] at hview
      obtain ⟨hid, hfallback⟩ := hviews id view hview
      rw [if_neg hseen, ← hfallback]
      refine foldlM_keeps (R := Chained presets) (fun s t a s' hs hstep => ih s t a s' hs hstep) view.fallback ⟨rfl, ?_, ?_⟩ hok
      · rw [List.map_append, hids, List.reverse_cons, List.map_singleton, hid]
      · intro other hother
        rcases List.mem_append.mp hother with hother | hother
        · exact hgets other hother
        · rw [List.mem_singleton.mp hother, hid]
          exact hview

/-- The view under a key is that of the preset with this id. -/
theorem chain_presets (hr : runtime.lastValid = some resolved) {views : List ModelPresetView}
    (hviews : runtime.modelPresets lib = .ok views) {key : String} {view : ModelPresetView}
    (hget : (OrdMap.ofList (views.map fun preset => (preset.id, preset))).get key = some view) :
    view ∈ views ∧ ∃ preset, resolved.document.modelPresets.get key = some preset ∧
      runtime.modelPresetView lib resolved key preset = .ok view := by
  obtain ⟨view', hmem, hpair⟩ := List.mem_map.mp (mem_of_get_ofList hget)
  obtain ⟨rfl, rfl⟩ := Prod.mk.inj hpair
  rw [ConfigRuntime.modelPresets, resolvedState_ok hr, ok_bind] at hviews
  obtain ⟨⟨key, preset⟩, hentry, hview⟩ := mapM_member hviews hmem
  have hid := (modelPresetView_keeps hview).1
  rw [hid]
  exact ⟨hmem, preset, OrdMap.mem_entries.mp hentry, hview⟩

/-- Along the fallbacks of a preset the contract holds, as each step keeps it. -/
theorem candidates_preserve {document : ConfigDocument} (h : Effective lib document) {id name : String} {root : ModelPresetLayer}
    (hroot : document.modelPresets.get id = some root) (hreach : ReflTransGen (FallsBack document) id name) :
    ∃ candidate, document.modelPresets.get name = some candidate ∧ preservesFallbackCapabilityContract root candidate = true := by
  induction hreach with
  | refl => exact ⟨root, hroot, preserves_refl root⟩
  | @tail name fallback _ hfallback ih =>
    obtain ⟨preset, hget, hkeeps⟩ := ih
    have hcheck := h.presets name preset hget
    simp only [validatePreset, bind_ok, exists_unit, forM_ok, validateFallback, okOr_ok, require_ok] at hcheck
    obtain ⟨_, _, _, _, _, _, hfallbacks⟩ := hcheck
    have hmem : fallback ∈ preset.fallbacks := by
      rw [FallsBack, Edge, ConfigDocument.fallbacksOf, hget] at hfallback
      exact hfallback
    obtain ⟨_, candidate, hcandidate, hstep⟩ := hfallbacks fallback hmem
    exact ⟨candidate, hcandidate, preserves_trans hkeeps hstep⟩

/-- The views of two presets keep the contract that the presets keep. -/
theorem views_preserve {id name : String} {required candidate : ModelPresetLayer} {root view : ModelPresetView}
    (hroot : runtime.modelPresetView lib resolved id required = .ok root)
    (hview : runtime.modelPresetView lib resolved name candidate = .ok view)
    (h : preservesFallbackCapabilityContract required candidate = true) : root.Preserves view := by
  rw [preserves_iff] at h
  obtain ⟨heffort, htier, htokens, hmode⟩ := h
  simp only [ConfigRuntime.modelPresetView, bind_ok, pure, Except.pure, Except.ok.injEq] at hroot hview
  obtain ⟨_, _, _, _, _, _, _, heffortRoot, _, htierRoot, _, hmodeRoot, _, _, rfl⟩ := hroot
  obtain ⟨_, _, _, _, _, _, _, heffortView, _, htierView, _, hmodeView, _, _, rfl⟩ := hview
  -- A read value of the preset is that of its candidate, which reads the same text.
  have hread : ∀ {β : Type} {read : String → Option β} {e e' : ConfigRuntimeError} {a b : Option String} {x y : Option β},
      transpose (a.map fun value => okOr (read value) e) = .ok x → transpose (b.map fun value => okOr (read value) e') = .ok y →
      (∀ value, a = some value → b = some value) → ∀ v, x = some v → y = some v := by
    intro β read e e' a b x y hx hy hsame v hv
    subst hv
    rw [transpose_ok] at hx hy
    rcases hx with ⟨_, hnone⟩ | ⟨v', hmap, hv'⟩
    · cases hnone
    · cases hv'
      obtain ⟨value, ha, hval⟩ := Option.map_eq_some_iff.mp hmap
      rw [okOr_ok] at hval
      rcases hy with ⟨hnone, _⟩ | ⟨w, hmap', rfl⟩
      · rw [hsame value ha] at hnone
        cases hnone
      · rw [hsame value ha, Option.map_some, hval, okOr_some, Option.some.injEq, Except.ok.injEq] at hmap'
        rw [hmap']
  exact ⟨hread heffortRoot heffortView heffort, hread htierRoot htierView htier, htokens, hread hmodeRoot hmodeView hmode⟩

/-- The chain of a preset of an accepted configuration. -/
theorem modelPresetChain_chain (h : Effective lib resolved.document) (hr : runtime.lastValid = some resolved) {id : String}
    (hid : id ∈ resolved.document.modelPresets.keys) :
    ∃ chain, runtime.modelPresetChain lib id = .ok chain ∧ ModelPresetChain lib runtime resolved.document id chain := by
  obtain ⟨hacyclic, hfew⟩ := validateFallbackCycles_ok.mp h.cycles
  obtain ⟨tree, htree⟩ := preset_unfolds hacyclic hid
  obtain ⟨chain, hok⟩ := modelPresetChain_isOk h hr hid
  refine ⟨chain, hok, ?_⟩
  simp only [ConfigRuntime.modelPresetChain, bind_ok, exists_unit, require_ok, pure, Except.pure, Except.ok.injEq] at hok
  obtain ⟨_, views, hviews, _, state, hvisit, rfl⟩ := hok
  have hnext : ∀ key view, (OrdMap.ofList (views.map fun preset => (preset.id, preset))).get key = some view →
      view.id = key ∧ view.fallback = resolved.document.fallbacksOf key := by
    intro key view hget
    obtain ⟨_, preset, hpreset, hview⟩ := chain_presets hr hviews hget
    obtain ⟨hviewId, hfallback⟩ := modelPresetView_keeps hview
    rw [ConfigDocument.fallbacksOf, hpreset]
    exact ⟨hviewId, hfallback⟩
  obtain ⟨hmet, hids, hgets⟩ := visitPreset_chained hnext _ _ [] id state ⟨rfl, rfl, by simp⟩ hvisit
  have hfuel : resolved.document.modelPresets.keys.length <
      (OrdMap.ofList (views.map fun preset => (preset.id, preset))).size + 1 := by
    have hnodup : resolved.document.modelPresets.keys.Nodup := (OrdMap.keys_sorted _).imp ne_of_lt
    have hle := (hnodup.subperm fun key hkey => (viewsById_keys hr hviews key).mpr hkey).length_le
    have hsize : (OrdMap.ofList (views.map fun preset => (preset.id, preset))).keys.length =
        (OrdMap.ofList (views.map fun preset => (preset.id, preset))).size := List.length_map _
    omega
  obtain ⟨horder, hnodup, hmem⟩ := explore_root hacyclic (fun _ => fallbacksOf_preset) htree hfuel
  rw [← hmet] at hids horder hnodup hmem
  have hreached : ∀ name, name ∈ state.2.map (·.id) ↔ name ∈ candidates resolved.document id := by
    intro name
    rw [hids, List.mem_reverse]
    exact hmem name
  have hlength : state.2.length = state.1.length := by
    have hsame := congrArg List.length hids
    rwa [List.length_map, List.length_reverse] at hsame
  obtain ⟨required, hrequired⟩ := OrdMap.mem_keys.mp hid
  -- The root's view, which comes first, and each other view are of presets that keep the contract.
  have hfirst : ∃ root rest, state.2 = root :: rest ∧ root.id = id := by
    rw [horder] at hids
    cases htree with
    | cons hbelow hrest =>
      rw [List.eraseDups_cons, List.map_eq_cons_iff] at hids
      obtain ⟨root, rest, hchain, hroot, _⟩ := hids
      exact ⟨root, rest, hchain, hroot⟩
  refine ⟨⟨tree, htree, hids.trans horder⟩, hids ▸ List.nodup_reverse.mpr hnodup, hreached, ?_, ⟨views, hviews, ?_⟩, ?_⟩
  · have hcount := candidates_encard hnodup hmem
    rw [hlength, ← Nat.cast_le (α := ℕ∞), ← hcount]
    exact hfew id hid
  · exact fun view hview => (chain_presets hr hviews (hgets view hview)).1
  · obtain ⟨root, rest, hchain, hroot⟩ := hfirst
    refine ⟨root, rest, hchain, hroot, fun view hview => ?_⟩
    obtain ⟨_, preset, hpreset, hrootView⟩ := chain_presets hr hviews (hgets root (hchain ▸ List.mem_cons_self))
    obtain ⟨_, candidate, hcandidate, hview'⟩ := chain_presets hr hviews (hgets view hview)
    rw [hroot, hrequired, Option.some.injEq] at hpreset
    obtain ⟨found, hfound, hkeeps⟩ := candidates_preserve h hrequired ((hreached view.id).mp (List.mem_map_of_mem hview))
    rw [hcandidate, Option.some.injEq] at hfound
    exact views_preserve hrootView hview' (by rw [← hpreset, hfound]; exact hkeeps)

end Chains

/-- A fallback graph is accepted exactly when it has no cycle and no preset leads to more
    presets than allowed; then each preset has its chain, in the order of its tree. -/
theorem fallback_graphs_exact (lib : ConfigLibrary) :
    (∀ document : ConfigDocument, validateFallbackCycles document = .ok () ↔ Acyclic (FallsBack document) ∧
      ∀ root ∈ document.modelPresets.keys, (candidates document root).encard ≤ maxModelPresetFallbackCandidates) ∧
    ∀ (builtIn user project cli : ConfigDocument) (resolved : ResolvedState) (runtime : ConfigRuntime),
      resolveDocuments lib builtIn user project cli = .ok resolved → runtime.lastValid = some resolved →
      ∀ id ∈ resolved.document.modelPresets.keys, ∃ chain, runtime.modelPresetChain lib id = .ok chain ∧
        ModelPresetChain lib runtime resolved.document id chain := by
  refine ⟨fun document => validateFallbackCycles_ok, fun builtIn user project cli resolved runtime haccepted hr id hid => ?_⟩
  obtain ⟨hresolves, hresolved⟩ := resolveDocuments_ok.mp haccepted
  have hdocument : resolved.document = mergeDocuments builtIn user project cli := by
    rw [hresolved]
    rfl
  exact modelPresetChain_chain (hdocument ▸ hresolves.effective) hr hid

/-- A preset with two fallbacks, the second of which the first shares. -/
def sharedFallbacks : ConfigDocument :=
  let preset (fallback : List String) : ModelPresetLayer := { ModelPresetLayer.default with
    provider := some "simulator", model := some "model", dialect := some .responses, fallback := some fallback }
  { ConfigDocument.empty with
    modelPresets := .ofList [("main", preset ["middle", "last"]), ("middle", preset ["last"]), ("last", preset [])] }

theorem fallback_graphs_exact_shared :
    ∃ chain, (presetRuntime sharedFallbacks).modelPresetChain templateLibrary "main" = .ok chain ∧
      ModelPresetChain templateLibrary (presetRuntime sharedFallbacks)
        (resolvedState .builtIn sharedFallbacks .empty .empty).document "main" chain := by
  have haccepted : resolveDocuments templateLibrary .builtIn sharedFallbacks .empty .empty =
      .ok (resolvedState .builtIn sharedFallbacks .empty .empty) := resolveDocuments_accepts (by decide +kernel)
  exact (fallback_graphs_exact templateLibrary).2 _ _ _ _ _ _ haccepted rfl "main" (by decide +kernel)

end GreenTyper.Config
