/-
  GreenTyper.Runtime.Admission — the admission of a Turn is accepted.

  An admission freezes a configuration and a Provider for the Turn and for each of its
  fallbacks, under consecutive identities that nothing has yet, and then admits the Turn with
  them. The induction is over the snapshots; what it carries is `Froze`.
-/

import GreenTyper.Runtime.Acceptance

namespace GreenTyper.Runtime

open Lib Config Context Provider Usage
open GreenTyper.Ledger (LedgerHead)
open GreenTyper.Team (AgentId AgentSession)

abbrev Snapshot := ConfigEpoch × ProviderEpoch

def Kernel.FrozenFallback.snapshot (fallback : Kernel.FrozenFallback) : Snapshot := (fallback.config, fallback.provider)

/-- Snapshots under the identities from these on. -/
def Consecutive : Nat → Nat → List Snapshot → Prop
  | _, _, [] => True
  | config, provider, snapshot :: rest =>
    (snapshot.1.id : Nat) = config ∧ (snapshot.2.id : Nat) = provider ∧ Consecutive (config + 1) (provider + 1) rest

theorem Consecutive.above : ∀ {snapshots : List Snapshot} {config provider : Nat}, Consecutive config provider snapshots →
    ∀ snapshot ∈ snapshots, config ≤ snapshot.1.id ∧ provider ≤ snapshot.2.id := by
  intro snapshots
  induction snapshots with
  | nil => intro _ _ _ _ hmem; cases hmem
  | cons first rest ih =>
    intro config provider h snapshot hmem
    obtain ⟨hconfig, hprovider, hrest⟩ := h
    rcases List.mem_cons.mp hmem with rfl | hmem
    · omega
    · have := ih hrest snapshot hmem
      omega

theorem Consecutive.distinct : ∀ {snapshots : List Snapshot} {config provider : Nat}, Consecutive config provider snapshots →
    (snapshots.map (·.1.id)).Nodup ∧ (snapshots.map (·.2.id)).Nodup := by
  intro snapshots
  induction snapshots with
  | nil => exact fun _ => ⟨.nil, .nil⟩
  | cons first rest ih =>
    intro config provider h
    obtain ⟨hconfig, hprovider, hrest⟩ := h
    obtain ⟨hconfigs, hproviders⟩ := ih hrest
    rw [List.map_cons, List.map_cons, List.nodup_cons, List.nodup_cons]
    refine ⟨⟨?_, hconfigs⟩, ?_, hproviders⟩
    · intro hmem
      obtain ⟨other, hother, hsame⟩ := List.mem_map.mp hmem
      have habove := (hrest.above other hother).1
      rw [hsame] at habove
      omega
    · intro hmem
      obtain ⟨other, hother, hsame⟩ := List.mem_map.mp hmem
      have habove := (hrest.above other hother).2
      rw [hsame] at habove
      omega

theorem size_insert {κ α : Type} [LinearOrder κ] {m : OrdMap κ α} {k : κ} (h : m.get k = none) (v : α) :
    (m.insert k v).size = m.size + 1 := by
  have hsize : ∀ m : OrdMap κ α, m.sumBy (fun _ => 1) = m.size := by
    intro m
    unfold OrdMap.sumBy OrdMap.size OrdMap.values
    rw [List.map_const', List.sum_replicate_nat, List.length_map, Nat.mul_one]
  rw [← hsize, ← hsize, OrdMap.sumBy_insert_none h]

namespace RuntimeState

variable {sha256 : Sha256} {state next : RuntimeState} {turn : TurnId}

/-- The state with the snapshots more, and nothing else changed. -/
structure Froze (state next : RuntimeState) (snapshots : List Snapshot) : Prop where
  same : next = { state with
    configs := next.configs, providers := next.providers, nextConfig := next.nextConfig, nextProvider := next.nextProvider }
  sizes : next.configs.size = state.configs.size + snapshots.length ∧ next.providers.size = state.providers.size + snapshots.length
  old : (∀ id config, state.configs.get id = some config → next.configs.get id = some config) ∧
    ∀ id provider, state.providers.get id = some provider → next.providers.get id = some provider
  new : ∀ snapshot ∈ snapshots, next.configs.get snapshot.1.id = some snapshot.1 ∧ next.providers.get snapshot.2.id = some snapshot.2

/-- One snapshot, under identities that are new. -/
theorem freeze_ends {snapshot : Snapshot} (hk : state.Kept) (hnone : state.pendingCostEvaluation = none)
    (hconfig : (snapshot.1.id : Nat) = state.nextConfig) (hprovider : (snapshot.2.id : Nat) = state.nextProvider) :
    Ends RuntimeError.Fine (fun next => next = { state with
        configs := state.configs.insert snapshot.1.id snapshot.1
        providers := state.providers.insert snapshot.2.id snapshot.2
        nextConfig := state.nextConfig + 1, nextProvider := state.nextProvider + 1 } ∧
        state.configs.get snapshot.1.id = none ∧ state.providers.get snapshot.2.id = none)
      (state.applyAll sha256 [.configFrozen snapshot.1, .providerFrozen snapshot.2]) := by
  have hnewConfig : state.configs.get snapshot.1.id = none := by
    by_contra hsome
    have hlt : (snapshot.1.id : Nat) < state.nextConfig :=
      hk.below (.config snapshot.1.id) (Option.isSome_iff_ne_none.mpr hsome)
    omega
  have hnewProvider : state.providers.get snapshot.2.id = none := by
    by_contra hsome
    have hlt : (snapshot.2.id : Nat) < state.nextProvider :=
      hk.below (.provider snapshot.2.id) (Option.isSome_iff_ne_none.mpr hsome)
    omega
  refine applyAll_ends (R := fun next => next = { state with
      configs := state.configs.insert snapshot.1.id snapshot.1, nextConfig := state.nextConfig + 1 }) (apply_ends hnone ?_) ?_
  · show Ends _ _ (state.configFrozen snapshot.1)
    unfold configFrozen
    rw [require_bind (by rw [hnewConfig]; rfl)]
    refine (observeId_ends _ _).bind fun number _ hnumber => ?_
    have hnext : number = state.nextConfig + 1 := by omega
    rw [hnext]
    exact rfl
  intro next _ hnext
  subst hnext
  refine perform_alone hnone ?_
  show Ends _ _ (providerFrozen _ snapshot.2)
  unfold providerFrozen
  rw [require_bind (by rw [hnewProvider]; rfl)]
  refine (observeId_ends _ _).bind fun number _ hnumber => ?_
  have hnext : number = state.nextProvider + 1 := by
    have hmax := hnumber.2
    dsimp only at hmax
    omega
  rw [hnext]
  exact ⟨rfl, hnewConfig, hnewProvider⟩

theorem freezeAll_ends : ∀ (snapshots : List Snapshot) {state : RuntimeState}, state.Kept → state.pendingCostEvaluation = none →
    Consecutive state.nextConfig state.nextProvider snapshots →
    Ends RuntimeError.Fine (fun next => Froze state next snapshots)
      (state.applyAll sha256 (snapshots.flatMap fun snapshot => [.configFrozen snapshot.1, .providerFrozen snapshot.2])) := by
  intro snapshots
  induction snapshots with
  | nil =>
    intro state _ _ _
    exact ⟨rfl, ⟨rfl, rfl⟩, ⟨fun _ _ h => h, fun _ _ h => h⟩, fun _ hmem => by cases hmem⟩
  | cons snapshot rest ih =>
    intro state hk hnone hids
    obtain ⟨hconfig, hprovider, hlater⟩ := hids
    rw [List.flatMap_cons]
    refine applyAll_ends_append (freeze_ends hk hnone hconfig hprovider) fun middle hmiddle hfrozen => ?_
    obtain ⟨hmiddleEq, hnewConfig, hnewProvider⟩ := hfrozen
    have hkept := kept_of_applyAll hk hmiddle
    subst hmiddleEq
    refine (ih hkept hnone hlater).mono (fun _ he => he) fun next _ hfroze => ?_
    obtain ⟨hsame, ⟨hconfigs, hproviders⟩, ⟨holdConfig, holdProvider⟩, hnew⟩ := hfroze
    refine ⟨hsame, ?_, ⟨?_, ?_⟩, ?_⟩
    · rw [hconfigs, hproviders, size_insert hnewConfig, size_insert hnewProvider, List.length_cons]
      omega
    · intro id config hget
      refine holdConfig id config ?_
      rw [OrdMap.get_insert_ne _ _ (by rintro rfl; rw [hnewConfig] at hget; cases hget), hget]
    · intro id provider hget
      refine holdProvider id provider ?_
      rw [OrdMap.get_insert_ne _ _ (by rintro rfl; rw [hnewProvider] at hget; cases hget), hget]
    · intro other hmem
      rcases List.mem_cons.mp hmem with rfl | hmem
      · exact ⟨holdConfig _ _ (OrdMap.get_insert_self _ _ _), holdProvider _ _ (OrdMap.get_insert_self _ _ _)⟩
      · exact hnew other hmem

/-! ## Admission -/

/-- The pending Turn has this many fallbacks that it did not take yet. -/
def Placed (state : RuntimeState) (left : Nat) : Prop :=
  ∃ pending record, state.pending = some pending ∧ state.turns.get pending.turn = some record ∧
    pending.fallbackIndex + left = record.fallbacks.length

/-- The fallback of a Turn that a frozen one is. -/
def FrozenFor (fallback : Kernel.FrozenFallback) : Prop :=
  validPresetId fallback.frozen.presetId = true ∧ fallback.frozen.config = fallback.config.id ∧
    fallback.frozen.provider = fallback.provider.id

/-- The fallbacks are snapshots of their own. -/
theorem validFallbacks_of_froze {middle : RuntimeState} {config : ConfigEpoch} {provider : ProviderEpoch}
    {fallbacks : List Kernel.FrozenFallback} {nextConfig nextProvider : Nat}
    (hnew : ∀ snapshot ∈ fallbacks.map (·.snapshot),
      middle.configs.get snapshot.1.id = some snapshot.1 ∧ middle.providers.get snapshot.2.id = some snapshot.2)
    (hids : Consecutive nextConfig nextProvider ((config, provider) :: fallbacks.map (·.snapshot)))
    (hfallbacks : ∀ fallback ∈ fallbacks, FrozenFor fallback) :
    middle.ValidFallbacks config.id provider.id (fallbacks.map (·.frozen)) := by
  obtain ⟨hconfig, hprovider, hlater⟩ := hids
  refine ⟨?_, ?_, ?_⟩
  · intro frozen hmem
    obtain ⟨fallback, hfallback, rfl⟩ := List.mem_map.mp hmem
    obtain ⟨hpreset, hconfigId, hproviderId⟩ := hfallbacks fallback hfallback
    have hsnapshot := List.mem_map_of_mem (f := (·.snapshot)) hfallback
    obtain ⟨habove, habove'⟩ := hlater.above _ hsnapshot
    obtain ⟨hfound, hfound'⟩ := hnew _ hsnapshot
    rw [hconfigId, hproviderId]
    refine ⟨hpreset, ?_, ?_, OrdMap.contains_iff.mpr ⟨_, hfound⟩, OrdMap.contains_iff.mpr ⟨_, hfound'⟩⟩
    · intro hsame
      have hsame' : fallback.snapshot.1.id = config.id := hsame
      rw [hsame'] at habove
      dsimp only at hconfig
      omega
    · intro hsame
      have hsame' : fallback.snapshot.2.id = provider.id := hsame
      rw [hsame'] at habove'
      dsimp only at hprovider
      omega
  · have hdistinct := hlater.distinct.1
    rw [List.map_map] at hdistinct
    rw [List.map_map, List.map_congr_left (g := (fun snapshot : Snapshot => snapshot.1.id) ∘ (·.snapshot))]
    · exact hdistinct
    · exact fun fallback hfallback => (hfallbacks fallback hfallback).2.1
  · have hdistinct := hlater.distinct.2
    rw [List.map_map] at hdistinct
    rw [List.map_map, List.map_congr_left (g := (fun snapshot : Snapshot => snapshot.2.id) ∘ (·.snapshot))]
    · exact hdistinct
    · exact fun fallback hfallback => (hfallbacks fallback hfallback).2.2

/-- A Turn is admitted with the snapshots that were just frozen for it. -/
theorem turnAdmitted_ends {middle : RuntimeState} {thread : ThreadId} {number : Nat} {userItem : ItemId} {config : ConfigEpoch}
    {provider : ProviderEpoch} {fallbacks : List Kernel.FrozenFallback} {agent : Option AgentId} {input : String} (hrest : state.AtRest)
    (hidle : state.pending = none)
    (hfroze : Froze { state with thread := some thread, nextThread := number } middle
      ((config, provider) :: fallbacks.map (·.snapshot)))
    (hids : Consecutive state.nextConfig state.nextProvider
      ((config, provider) :: fallbacks.map (·.snapshot)))
    (hfallbacks : ∀ fallback ∈ fallbacks, FrozenFor fallback) (hfew : fallbacks.length < maxModelPresetFallbackCandidates)
    (hselection : ∀ staged, state.pendingModelSelection = some staged → agent = some staged.agent ∧ staged.selection.Matches config)
    (hturn : (turn : Nat) = state.nextTurn) (hitem : (userItem : Nat) = state.nextItem)
    (hinput : isBlank input = false ∧ byteLen input ≤ maxInputBytes) :
    Ends RuntimeError.Fine (fun next => next.Quiescent ∧ next.Placed fallbacks.length)
      (middle.turnAdmitted thread turn userItem config.id provider.id (fallbacks.map (·.frozen)) agent input) := by
  obtain ⟨hsame, hsizes, ⟨holdConfigs, holdProviders⟩, hnew⟩ := hfroze
  obtain ⟨hfound, hfound'⟩ := hnew _ List.mem_cons_self
  have hthread : middle.thread = some thread := by rw [hsame]
  have hpending : middle.pending = none := by rw [hsame]; exact hidle
  have hturns : middle.turns = state.turns := by rw [hsame]
  have hitems : middle.items = state.items := by rw [hsame]
  have hstaged : middle.pendingModelSelection = state.pendingModelSelection := by rw [hsame]
  have hcharged : middle.pendingCostEvaluation = none := by rw [hsame]; exact hrest.quiescent.charged
  have hnewTurn : state.turns.get turn = none := by
    by_contra hsome
    have hlt : (turn : Nat) < state.nextTurn := hrest.kept.below (.turn turn) (Option.isSome_iff_ne_none.mpr hsome)
    omega
  have hnewItem : middle.itemExists userItem = false := by
    by_contra hexists
    have hexists' : state.itemExists userItem = true := by
      unfold itemExists at hexists ⊢
      rw [hitems, hpending] at hexists
      rw [hidle]
      simpa using hexists
    have hlt : (userItem : Nat) < state.nextItem := hrest.kept.below (.item userItem) hexists'
    omega
  have hvalid := validFallbacks_of_froze (fun snapshot hmem => hnew snapshot (List.mem_cons_of_mem _ hmem)) hids hfallbacks
  have hsnapshots : middle.configs.contains config.id = true ∧ middle.providers.contains provider.id = true :=
    ⟨OrdMap.contains_iff.mpr ⟨_, hfound⟩, OrdMap.contains_iff.mpr ⟨_, hfound'⟩⟩
  have htakes : middle.TakesSelection config.id agent := by
    intro staged hof
    rw [hstaged] at hof
    exact ⟨config, hfound, hselection staged hof⟩
  obtain ⟨item, hcanonical⟩ := canonicalItem_isOk userItem turn .user hinput.1
    (Nat.le_trans hinput.2 (by decide))
  unfold turnAdmitted
  rw [require_bind ⟨hthread, by rw [hpending]; rfl⟩, require_bind hsnapshots, require_bind (by rw [List.length_map]; exact hfew),
    require_bind hvalid, takesSelection_ok.mpr htakes, ok_bind,
    require_bind ⟨by rw [hturns]; unfold OrdMap.contains; rw [hnewTurn]; rfl, hnewItem⟩, validateInput_ok.mpr hinput, ok_bind, hcanonical, ok_bind]
  refine (observeId_ends _ _).bind fun nextTurn _ _ => ?_
  refine (observeId_ends _ _).bind fun nextItem _ _ => ?_
  obtain ⟨_, _, hid, hof, _, _⟩ := canonicalItem_ok.mp hcanonical
  have hgrows : Grows state middle := by
    constructor
    · intro id hcontains
      obtain ⟨config, hget⟩ := OrdMap.contains_iff.mp hcontains
      exact OrdMap.contains_iff.mpr ⟨config, holdConfigs id config hget⟩
    · intro id hcontains
      obtain ⟨provider, hget⟩ := OrdMap.contains_iff.mp hcontains
      exact OrdMap.contains_iff.mpr ⟨provider, holdProviders id provider hget⟩
    · intro item hmem
      rw [hitems]
      exact hmem
  rw [List.length_cons, List.length_map] at hsizes
  refine ⟨?_, _, _, rfl, OrdMap.get_insert_self _ _ _, by rw [List.length_map, Nat.zero_add]⟩
  refine hrest.quiescent.admit turn ⟨userItem, config.id, provider.id, fallbacks.map (·.frozen), agent, none, none, false, false⟩ hidle ⟨hgrows.configs, hgrows.providers, ?_⟩
    ?_ ?_ hnewTurn ?_ rfl rfl admitted_ne_streaming hcharged ?_
  · exact fun item hmem => List.mem_append_left _ (hgrows.items item hmem)
  · rw [hthread]
    exact fun hnone => by cases hnone
  · unfold TurnRecord.epochs
    rw [List.length_map, Nat.add_comm 1]
    exact hsizes
  · rw [hturns]
  · refine ⟨hsnapshots, fun fallback hmem => (hvalid.1 fallback hmem).2.2.2, ?_, ?_, ?_, ?_, ?_⟩
    · exact ⟨item, List.mem_append_right _ List.mem_cons_self, hid, hof⟩
    · intro hcompleted
      cases hcompleted
    · intro hcompleted
      cases hcompleted
    · intro hcancelled
      cases hcancelled
    · exact ⟨fun _ => ⟨rfl, rfl⟩, fun _ => ⟨_, rfl, rfl⟩⟩

end RuntimeState

namespace Kernel

variable {host : Host} {k : Kernel} {turn : TurnId}

/-! ## The plan -/

theorem nonzeroId_ends (kind : String) (value : Nat) : Ends RuntimeError.Fine (fun id : ℕ+ => (id : Nat) = value) (nonzeroId kind value) := by
  unfold nonzeroId
  by_cases hpos : 0 < value
  · rw [dif_pos hpos]
    rfl
  · rw [dif_neg hpos]
    exact fun hcorrupt => hcorrupt

theorem freeze_id {id : ConfigEpochId} {layers : ConfigLayers} {usageWindows : List UsageWindow} {priceSchedules : PriceScheduleBook}
    {config : ConfigEpoch} (h : ConfigEpoch.freeze id layers usageWindows priceSchedules = .ok config) : config.id = id := by
  unfold ConfigEpoch.freeze at h
  split at h
  · cases h
  · dsimp only at h
    split at h
    · split at h
      · obtain rfl := Except.ok.inj h
        rfl
      · cases h
    · cases h

theorem freezeConfig_ends (id : ConfigEpochId) (layers : ConfigLayers) (usageWindows : List UsageWindow) (priceSchedules : PriceScheduleBook) :
    Ends RuntimeError.Fine (fun config => config.id = id)
      ((ConfigEpoch.freeze id layers usageWindows priceSchedules).mapError .config) :=
  (Ends.mapError (f := RuntimeError.config) fun _ hcorrupt => hcorrupt).mono (fun _ he => he) fun _ _ hfreeze => freeze_id hfreeze

theorem freezeProviderEpoch_ends (id : ProviderEpochId) (profile model : String) (snapshot : Option ProviderProfileSnapshot)
    (dialect : Option ProviderDialect) :
    Ends RuntimeError.Fine (fun provider => provider.id = id) (freezeProviderEpoch id profile model snapshot dialect) := by
  unfold freezeProviderEpoch
  refine (Ends.mapError (f := RuntimeError.provider) fun _ hcorrupt => hcorrupt).mono (fun _ he => he) fun provider _ h => ?_
  cases snapshot with
  | some snapshot =>
    unfold ProviderEpoch.withProfileSnapshotAndDialect at h
    simp only [seq_ok, pure, Except.pure, Except.ok.injEq] at h
    obtain ⟨_, _, _, _, rfl⟩ := h
    rfl
  | none =>
    dsimp only at h
    by_cases hsimulator : profile = "simulator"
    · rw [if_pos hsimulator] at h
      by_cases hdialect : dialect = none
      · rw [if_pos hdialect] at h
        unfold ProviderEpoch.new at h
        simp only [seq_ok, pure, Except.pure, Except.ok.injEq] at h
        obtain ⟨_, _, rfl⟩ := h
        rfl
      · rw [if_neg hdialect] at h
        cases h
    · rw [if_neg hsimulator] at h
      cases h

theorem presetId_of_validate {selection : ModelSelection} (h : selection.validate = .ok ()) : validPresetId selection.presetId = true := by
  unfold ModelSelection.validate at h
  exact require_ok.mp (seq_ok.mp h).1

theorem freezeFallbacks_ends (usageWindows : List UsageWindow) (priceSchedules : PriceScheduleBook) :
    ∀ (candidates : List ProviderFallbackCandidate) (offset : Nat), Ends RuntimeError.Fine
      (fun fallbacks => fallbacks.length = candidates.length ∧ (∀ fallback ∈ fallbacks, RuntimeState.FrozenFor fallback) ∧
        Consecutive (k.state.nextConfig + offset) (k.state.nextProvider + offset) (fallbacks.map (·.snapshot)))
      (k.freezeFallbacks usageWindows priceSchedules offset candidates) := by
  intro candidates
  induction candidates with
  | nil =>
    intro offset
    refine ⟨rfl, ?_, trivial⟩
    intro fallback hmem
    cases hmem
  | cons candidate rest ih =>
    intro offset
    unfold freezeFallbacks
    refine (Ends.checkOr (e := RuntimeError.integerOverflow) fun hcorrupt => hcorrupt).bind fun nextConfig _ hconfig => ?_
    refine (nonzeroId_ends _ _).bind fun configId _ hconfigId => ?_
    refine (Ends.checkOr (e := RuntimeError.integerOverflow) fun hcorrupt => hcorrupt).bind fun nextProvider _ hprovider => ?_
    refine (nonzeroId_ends _ _).bind fun providerId _ hproviderId => ?_
    refine (freezeConfig_ends _ _ _ _).bind fun config _ hconfigOf => ?_
    refine Ends.bind (Q := fun _ => True) ?_ fun _ _ _ => ?_
    · unfold validateFallbackSelection
      exact (Ends.check fun hcorrupt => hcorrupt).mono (fun _ he => he) fun _ _ _ => trivial
    refine (freezeProviderEpoch_ends _ _ _ _ _).bind fun provider _ hproviderOf => ?_
    refine (ih (offset + 1)).bind fun fallbacks _ hfallbacks => ?_
    obtain ⟨hlength, hfor, hids⟩ := hfallbacks
    refine ⟨by rw [List.length_cons, List.length_cons, hlength], ?_, ?_⟩
    · intro fallback hmem
      rcases List.mem_cons.mp hmem with rfl | hmem
      · exact ⟨presetId_of_validate candidate.valid, hconfigOf.symm, hproviderOf.symm⟩
      · exact hfor fallback hmem
    · obtain ⟨_, rfl⟩ := checkedAdd_some.mp hconfig
      obtain ⟨_, rfl⟩ := checkedAdd_some.mp hprovider
      rw [List.map_cons]
      refine ⟨?_, ?_, hids⟩
      · show (config.id : Nat) = _
        rw [hconfigOf, hconfigId]
      · show (provider.id : Nat) = _
        rw [hproviderOf, hproviderId]

/-- The events of an admission with its Thread known. -/
theorem admission_ends {created : RuntimeState} {thread : ThreadId} {number : Nat} {userItem : ItemId} {config : ConfigEpoch}
    {provider : ProviderEpoch} {fallbacks : List FrozenFallback} {agent : Option AgentId} {input : String} {state : RuntimeState}
    (hrest : state.AtRest) (hidle : state.pending = none) (hcreated : created = { state with thread := some thread, nextThread := number })
    (hkept : created.Kept) (hids : Consecutive state.nextConfig state.nextProvider ((config, provider) :: fallbacks.map (·.snapshot)))
    (hfallbacks : ∀ fallback ∈ fallbacks, RuntimeState.FrozenFor fallback) (hfew : fallbacks.length < maxModelPresetFallbackCandidates)
    (hselection : ∀ staged, state.pendingModelSelection = some staged → agent = some staged.agent ∧ staged.selection.Matches config)
    (hturn : (turn : Nat) = state.nextTurn) (hitem : (userItem : Nat) = state.nextItem)
    (hinput : isBlank input = false ∧ byteLen input ≤ maxInputBytes) :
    Ends RuntimeError.Fine (fun next => next.Quiescent ∧ next.Placed fallbacks.length) (created.applyAll host.sha256
      (([.configFrozen config, .providerFrozen provider] ++
          fallbacks.flatMap fun fallback => [.configFrozen fallback.config, .providerFrozen fallback.provider]) ++
        [.turnAdmitted thread turn userItem config.id provider.id (fallbacks.map (·.frozen)) agent input])) := by
  subst hcreated
  have hevents : ([.configFrozen config, .providerFrozen provider] ++
      fallbacks.flatMap fun fallback => [.configFrozen fallback.config, .providerFrozen fallback.provider] : List RuntimeEvent) =
      ((config, provider) :: fallbacks.map (·.snapshot)).flatMap fun snapshot => [.configFrozen snapshot.1, .providerFrozen snapshot.2] := by
    rw [List.flatMap_cons, List.flatMap_map]
    rfl
  rw [hevents]
  refine RuntimeState.applyAll_ends_append (RuntimeState.freezeAll_ends _ hkept hrest.quiescent.charged hids) fun middle _ hfroze => ?_
  have hnone : middle.pendingCostEvaluation = none := by
    rw [hfroze.same]
    exact hrest.quiescent.charged
  refine RuntimeState.perform_alone hnone ?_
  exact RuntimeState.turnAdmitted_ends hrest hidle hfroze hids hfallbacks hfew hselection hturn hitem hinput

theorem admissionThread_ends : Ends RuntimeError.Fine (fun thread => k.state.thread = some thread ∨ k.state.thread = none)
    k.admissionThread := by
  unfold admissionThread
  cases k.state.thread with
  | some thread => exact .inl rfl
  | none => exact (nonzeroId_ends _ _).mono (fun _ he => he) fun _ _ _ => .inr rfl

/-- The admission of a Turn with few fallbacks. -/
theorem admitTurnEvents_ends {layers : ConfigLayers} {admission : TurnAdmission} (hrest : k.state.AtRest)
    (hfew : admission.fallbacks.length < maxModelPresetFallbackCandidates) :
    Ends RuntimeError.Fine (fun events => Ends RuntimeError.Fine (·.Placed admission.fallbacks.length) (k.candidate host events))
      (k.admitTurnEvents host layers admission) := by
  unfold admitTurnEvents
  refine requireReady_ends.bind fun _ _ hidle => ?_
  refine requireNoToolReconciliation_ends.bind fun _ _ _ => ?_
  refine (validateInput_ends admission.input).bind fun _ _ hinput => ?_
  refine Ends.bind (Q := fun _ => True) ?_ fun _ _ _ => ?_
  · cases admission.contextPressure with
    | none => trivial
    | some pressure => exact (Ends.check fun hcorrupt => hcorrupt).mono (fun _ he => he) fun _ _ _ => trivial
  refine (requireLayersContextModeExecution_ends layers).bind fun _ _ _ => ?_
  refine (Ends.forM fun fallback _ => requireLayersContextModeExecution_ends fallback.layers).bind fun _ _ _ => ?_
  refine admissionThread_ends.bind fun thread _ hthread => ?_
  refine (nonzeroId_ends _ _).bind fun turn _ hturn => ?_
  refine (nonzeroId_ends _ _).bind fun userItem _ hitem => ?_
  refine (nonzeroId_ends _ _).bind fun configId _ hconfigId => ?_
  refine (nonzeroId_ends _ _).bind fun providerId _ hproviderId => ?_
  refine (Ends.forM fun window _ => (Ends.mapError (f := RuntimeError.usage) fun e hcorrupt => hcorrupt).mono (fun _ he => he)
    fun _ _ _ => trivial).bind fun _ _ _ => ?_
  refine (freezeConfig_ends _ _ _ _).bind fun config _ hconfigOf => ?_
  refine (providerContextForHistory_ends _ _).bind fun _ _ _ => ?_
  refine Ends.bind (Q := fun _ => True) ?_ fun _ _ _ => ?_
  · cases admission.primarySelection with
    | none => trivial
    | some selection =>
      show Ends _ _ (validateFallbackSelection selection config)
      unfold validateFallbackSelection
      exact (Ends.check fun hcorrupt => hcorrupt).mono (fun _ he => he) fun _ _ _ => trivial
  refine Ends.bind (Q := fun _ => ∀ staged, k.state.pendingModelSelection = some staged →
    admission.agent = some staged.agent ∧ staged.selection.Matches config) ?_ fun _ _ hselection => ?_
  · unfold requirePendingSelection
    cases k.state.pendingModelSelection with
    | none =>
      intro staged hof
      cases hof
    | some pending =>
      refine (Ends.check fun hcorrupt => hcorrupt).mono (fun _ he => he) fun _ _ hmatches => ?_
      intro staged hof
      obtain rfl := Option.some.inj hof
      exact ⟨hmatches.1, hmatches.2.1⟩
  refine (freezeProviderEpoch_ends _ _ _ _ _).bind fun provider _ hproviderOf => ?_
  refine (freezeFallbacks_ends _ _ _ _).bind fun fallbacks _ hfallbacks => ?_
  obtain ⟨hlength, hfor, hlater⟩ := hfallbacks
  have hids : Consecutive k.state.nextConfig k.state.nextProvider ((config, provider) :: fallbacks.map (·.snapshot)) := by
    refine ⟨?_, ?_, hlater⟩
    · show (config.id : Nat) = _
      rw [hconfigOf, hconfigId]
    · show (provider.id : Nat) = _
      rw [hproviderOf, hproviderId]
  rw [← hlength] at hfew ⊢
  show Ends _ _ (k.candidate host (admissionEvents k.state.thread.isNone thread turn userItem config provider fallbacks admission.agent
    admission.input))
  refine candidate_ends ?_
  unfold admissionEvents
  rcases hthread with hthread | hnone
  · have hcreated : k.state = { k.state with thread := some thread, nextThread := k.state.nextThread } := by
      rw [← hthread]
    rw [hthread, Option.isNone_some, if_neg (by decide), List.nil_append]
    exact admission_ends hrest hidle hcreated hrest.kept hids hfor hfew hselection hturn hitem hinput
  · rw [hnone, Option.isNone_none, if_pos rfl, List.append_assoc, List.append_assoc, List.singleton_append]
    refine RuntimeState.applyAll_ends (R := fun next => ∃ number, next = { k.state with thread := some thread, nextThread := number })
      (RuntimeState.apply_ends hrest.quiescent.charged ?_) fun created hcreated hnext => ?_
    · show Ends _ _ (k.state.threadCreated thread)
      have hempty := hrest.quiescent.thread
      rw [hnone, Option.isNone_none] at hempty
      unfold RuntimeState.threadCreated
      rw [require_bind ⟨hnone, hempty⟩]
      refine (observeId_ends _ _).bind fun number _ _ => ?_
      exact ⟨number, rfl⟩
    · obtain ⟨number, hnext⟩ := hnext
      have hkept := hrest.kept.apply hcreated
      exact List.append_assoc _ _ _ ▸ admission_ends hrest hidle hnext hkept hids hfor hfew hselection hturn hitem hinput

end Kernel

end GreenTyper.Runtime
