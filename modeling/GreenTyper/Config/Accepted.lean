/-
  GreenTyper.Config.Accepted — what an accepted configuration can be used for.

  What is derived from an effective document later, for a Turn, checks again what was
  checked when it was accepted, and more. The windows, the prices, the presets and their
  chains are always there. A profile's snapshot needs a dialect, which the acceptance does
  not ask for where the template is not a bundled one, and a preset may name a dialect
  that its profile has not. `Complete` is what a document needs besides (`accepted_usable`).
-/

import GreenTyper.Config.Routes
import GreenTyper.Config.Runtime

namespace GreenTyper.Config

open Lib Provider Usage

/-! ## Texts -/

theorem idText_chars {id : String} (h : IdText id) : id.toList.any isWhitespace = false ∧ id.toList.any isControl = false := by
  have hplain : ∀ c ∈ id.toList, isWhitespace c = false ∧ isControl c = false := by
    intro c hc
    rcases isIdText_char h.2.2 hc with hlow | hdigit | rfl
    · simp only [isAsciiLowercase, Bool.and_eq_true, decide_eq_true_eq] at hlow
      simp only [isWhitespace, isControl, Bool.or_eq_false_iff, Bool.and_eq_false_iff, decide_eq_false_iff_not, beq_eq_false_iff_ne]
      omega
    · simp only [isAsciiDigit, Bool.and_eq_true, decide_eq_true_eq] at hdigit
      simp only [isWhitespace, isControl, Bool.or_eq_false_iff, Bool.and_eq_false_iff, decide_eq_false_iff_not, beq_eq_false_iff_ne]
      omega
    · decide
  simp only [List.any_eq_false, Bool.not_eq_true]
  exact ⟨fun c hc => (hplain c hc).1, fun c hc => (hplain c hc).2⟩

/-- An id is provider text. -/
theorem IdText.providerText {id : String} (h : IdText id) : ProviderText maxProviderIdBytes id := by
  obtain ⟨hspace, hcontrol⟩ := idText_chars h
  have htrim := trim_none hspace
  refine ⟨?_, htrim, le_trans h.2.1 (by decide), hcontrol⟩
  rw [isBlank, htrim]
  exact beq_eq_false_iff_ne.mpr h.1

theorem validateProviderId_ok {field value : String} (h : ProviderText maxProviderIdBytes value) :
    validateProviderId field value = .ok () := by
  simp only [validateProviderId, seq_ok, require_ok]
  exact ⟨h.1, h.2.1, h.2.2.1, h.2.2.2⟩

/-! ## What an effective document needs -/

def ProviderRoutesLayer.texts (routes : ProviderRoutesLayer) : List String :=
  [routes.responses, routes.chatCompletions, routes.messages, routes.models].filterMap fun route => route

/-- Each profile has a dialect and path routes, and each preset a dialect of its profile. -/
structure Complete (document : ConfigDocument) : Prop where
  dialects : ∀ id profile, document.providers.get id = some profile → profile.effectiveDialects ≠ []
  routes : ∀ id profile, document.providers.get id = some profile → ∀ route ∈ profile.routes.texts, PathRoute route
  presets : ∀ id preset provider dialect profile, document.modelPresets.get id = some preset → preset.provider = some provider →
    preset.dialect = some dialect → provider ≠ "simulator" → document.providers.get provider = some profile →
    dialect ∈ profile.effectiveDialects

/-- What is derived from an effective document for a Turn. -/
structure Usable (lib : ConfigLibrary) (runtime : ConfigRuntime) (document : ConfigDocument) : Prop where
  profiles : ∀ id ∈ document.providers.keys, ∃ snapshot, providerProfileSnapshot lib document id = .ok snapshot
  windows : ∃ windows, runtime.resolvedUsageWindows lib = .ok windows
  prices : ∃ book, runtime.resolvedPriceSchedules lib = .ok book
  presets : ∃ views, runtime.modelPresets lib = .ok views
  chains : ∀ id ∈ document.modelPresets.keys, ∃ chain, runtime.modelPresetChain lib id = .ok chain
  supported : ∀ id preset provider dialect, document.modelPresets.get id = some preset → preset.provider = some provider →
    preset.dialect = some dialect → provider ≠ "simulator" →
    ∃ snapshot, runtime.providerProfile lib provider = .ok (some snapshot) ∧ snapshot.supports dialect = true

/-- What is assumed of the URL library: it reads the origins of the bundled templates. -/
def BundledOrigins (url : UrlLibrary) : Prop :=
  ∀ template ∈ providerTemplates, ∃ parsed, url.parse template.baseUrl = some parsed ∧ parsed.Web ∧ parsed.scheme = "https"

/-! ## Snapshots -/

section Snapshots

theorem mem_collectDialects {dialect : ProviderDialect} {dialects : List ProviderDialect} :
    dialect ∈ collectDialects dialects ↔ dialect ∈ dialects := by
  have hall : dialect ∈ allDialects := by cases dialect <;> decide
  simp only [collectDialects, List.mem_filter, hall, true_and, decide_eq_true_eq]

theorem collectDialects_ne_nil (dialects : List ProviderDialect) : collectDialects dialects ≠ [] ↔ dialects ≠ [] := by
  simp only [ne_eq, List.eq_nil_iff_forall_not_mem, mem_collectDialects]

/-- The bundled templates have texts that a snapshot takes. -/
theorem templates_fit : (providerTemplates.all fun template =>
    decide (ProviderText maxProviderIdBytes template.baseUrl) &&
      [template.responsesRoute, template.chatCompletionsRoute, template.messagesRoute, template.modelsRoute].all fun route =>
        route.all fun value => decide (ProviderText maxProviderIdBytes value ∧ PathRoute value)) = true := by
  decide +kernel

theorem template_route {id : String} {template : ProviderTemplate} (h : catalogTemplate id = some template)
    {read : ProviderTemplate → Option String} (hread : read template ∈ [template.responsesRoute, template.chatCompletionsRoute,
      template.messagesRoute, template.modelsRoute]) {value : String} (hvalue : read template = some value) :
    ProviderText maxProviderIdBytes value ∧ PathRoute value := by
  have hfit := List.all_eq_true.mp templates_fit template (List.mem_of_find?_eq_some h)
  rw [Bool.and_eq_true] at hfit
  have hroute := List.all_eq_true.mp hfit.2 _ hread
  rw [hvalue] at hroute
  exact of_decide_eq_true hroute

variable {lib : ConfigLibrary} {document : ConfigDocument} {id : String} {profile : ProviderProfileLayer}

/-- A route that is set, or the template's. -/
theorem effectiveRoute_isOk (template : String) (explicit : Option String) (read : ProviderTemplate → Option String)
    (htext : ∀ value, explicit = some value → ProviderText maxConfigStringBytes value)
    (hread : ∀ template, read template ∈ [template.responsesRoute, template.chatCompletionsRoute, template.messagesRoute,
      template.modelsRoute]) :
    (∃ text, normalizeOptionalRoute (explicit.or ((catalogTemplate template).bind read)) = .ok text) ↔
      ∀ value, explicit = some value → PathRoute value := by
  rw [normalizeOptionalRoute_isOk]
  cases explicit with
  | none =>
    simp only [Option.none_or, reduceCtorEq, false_implies, implies_true, iff_true]
    intro value hvalue
    obtain ⟨bundled, hbundled, hvalue⟩ := Option.bind_eq_some_iff.mp hvalue
    exact template_route hbundled (hread bundled) hvalue
  | some route =>
    simp only [Option.some_or, Option.some.injEq, forall_eq']
    exact ⟨fun h => h.2, fun h => ⟨htext route rfl, h⟩⟩

/-- The origin of a checked profile is one that a snapshot takes. -/
theorem effectiveOrigin_isOk (horigins : BundledOrigins lib.url) (hcheck : validateProfile lib id profile = .ok ())
    (htext : ∀ value, profile.baseUrl = some value → ProviderText maxConfigStringBytes value) (template : String) :
    ∃ origin, transpose ((profile.baseUrl.or ((catalogTemplate template).map (·.baseUrl))).map
        (normalizeProviderOrigin lib.url · (profile.allowInsecureLoopback.getD false))) = .ok origin ∧
      (profile.allowInsecureLoopback.getD false = true → origin ≠ none) := by
  have hallow : profile.allowInsecureLoopback.getD false = true ↔ profile.allowInsecureLoopback = some true := by
    cases profile.allowInsecureLoopback <;> simp
  simp only [validateProfile, bind_ok, exists_unit, require_ok, option_forM_ok] at hcheck
  obtain ⟨_, horigin, hloopback, _⟩ := hcheck
  cases hbase : profile.baseUrl with
  | some value =>
    obtain ⟨horigin, _⟩ := horigin value hbase
    simp only [validateProviderOrigin, bind_ok, exists_unit, require_ok, okOr_ok, Url.web_iff] at horigin
    obtain ⟨url, hparse, hweb, hplain, hpermission⟩ := horigin
    have hok : normalizeProviderOrigin lib.url value (profile.allowInsecureLoopback.getD false) =
        .ok (trimEndMatches '/' value) := by
      refine normalizeProviderOrigin_ok.mpr ⟨url, ⟨htext value hbase, hparse, hweb, fun hhttp => ?_, fun h => ?_⟩, rfl⟩
      · exact ⟨(hplain hhttp).1, hallow.mpr (hplain hhttp).2⟩
      · exact hpermission (hallow.mp h)
    simp only [Option.some_or, Option.map_some, hok, transpose, Except.ok.injEq, exists_eq_left', ne_eq, reduceCtorEq,
      not_false_eq_true, implies_true]
  | none =>
    have hfalse : profile.allowInsecureLoopback.getD false = false :=
      Bool.eq_false_iff.mpr fun h => hloopback hbase (hallow.mp h)
    rw [hfalse]
    cases hbundled : catalogTemplate template with
    | none => exact ⟨none, rfl, by simp⟩
    | some bundled =>
      have hmem := List.mem_of_find?_eq_some hbundled
      obtain ⟨url, hparse, hweb, hscheme⟩ := horigins bundled hmem
      have hfit := List.all_eq_true.mp templates_fit bundled hmem
      rw [Bool.and_eq_true] at hfit
      have hok : normalizeProviderOrigin lib.url bundled.baseUrl false = .ok (trimEndMatches '/' bundled.baseUrl) := by
        refine normalizeProviderOrigin_ok.mpr ⟨url, ⟨of_decide_eq_true hfit.1, hparse, hweb, fun hhttp => ?_, by simp⟩, rfl⟩
        rw [hscheme] at hhttp
        exact absurd hhttp (by decide)
      simp only [Option.none_or, Option.map_some, hok, transpose, Except.ok.injEq, exists_eq_left', Bool.false_eq_true,
        false_implies]

/-- The snapshot of a profile of an effective document: what it needs, and the dialects it has. -/
theorem snapshot_isOk (horigins : BundledOrigins lib.url) (h : Effective lib document) (hget : document.providers.get id = some profile) :
    ((∃ snapshot, providerProfileSnapshot lib document id = .ok snapshot) ↔
      profile.effectiveDialects ≠ [] ∧ ∀ route ∈ profile.routes.texts, PathRoute route) ∧
    ∀ snapshot, providerProfileSnapshot lib document id = .ok snapshot →
      snapshot.dialects = collectDialects profile.effectiveDialects := by
  have hcheck := h.profiles id profile hget
  obtain ⟨template, htemplate⟩ : ∃ template, profile.template = some template := by
    simp only [validateProfile, bind_ok, exists_unit, require_ok] at hcheck
    exact Option.isSome_iff_exists.mp hcheck.1
  have hfield : ∀ (name : String) (read : ProviderProfileLayer → Option String) {value : String},
      (name, text read) ∈ ProviderProfileLayer.fields → read profile = some value → ProviderText maxConfigStringBytes value :=
    fun _ _ _ hname hread => h.layer.validText (ConfigDocument.profile_field hget hname (by rw [text, hread]; rfl))
  have hid : IdText id := h.layer.providers id (OrdMap.mem_keys.mpr ⟨profile, hget⟩)
  -- The prices were resolved from the same decision on the profile's pricing.
  obtain ⟨pricingSource, hpricing⟩ : ∃ pricingSource, resolveProviderPricingSource id template profile.pricing.source
      profile.baseUrl.isSome ((catalogTemplate template).map (·.pricingSource)) = .ok pricingSource := by
    obtain ⟨book, hbook⟩ := h.prices
    simp only [resolvePriceScheduleBook, bind_ok, mapError_ok] at hbook
    obtain ⟨_, _, release, hrelease, _⟩ := hbook
    obtain ⟨_, _, hprices⟩ := mapM_value hrelease (OrdMap.mem_entries.mpr hget)
    simp only [profilePriceSchedules, htemplate, bind_ok] at hprices
    exact hprices.imp fun _ hp => hp.1
  obtain ⟨origin, horigin, hallow⟩ := effectiveOrigin_isOk horigins hcheck
    (fun _ => hfield "base_url" (·.baseUrl) (by simp [ProviderProfileLayer.fields])) template
  have hroutes : (∀ route ∈ profile.routes.texts, PathRoute route) ↔
      (∀ value, profile.routes.responses = some value → PathRoute value) ∧
      (∀ value, profile.routes.chatCompletions = some value → PathRoute value) ∧
      (∀ value, profile.routes.messages = some value → PathRoute value) ∧
      (∀ value, profile.routes.models = some value → PathRoute value) := by
    simp only [ProviderRoutesLayer.texts, List.mem_filterMap, List.mem_cons, List.not_mem_nil, or_false]
    constructor
    · intro hall
      exact ⟨fun v hv => hall v ⟨_, by simp, hv⟩, fun v hv => hall v ⟨_, by simp, hv⟩, fun v hv => hall v ⟨_, by simp, hv⟩,
        fun v hv => hall v ⟨_, by simp, hv⟩⟩
    · rintro ⟨h1, h2, h3, h4⟩ v ⟨_, rfl | rfl | rfl | rfl, hv⟩
      · exact h1 v hv
      · exact h2 v hv
      · exact h3 v hv
      · exact h4 v hv
  have hsnapshot : ∀ snapshot, providerProfileSnapshot lib document id = .ok snapshot ↔
      ProviderProfileSnapshot.fromParts lib.url id template profile.credential
        (profile.baseUrl.or ((catalogTemplate template).map (·.baseUrl)))
        (profile.routes.responses.or ((catalogTemplate template).bind (·.responsesRoute)))
        (profile.routes.chatCompletions.or ((catalogTemplate template).bind (·.chatCompletionsRoute)))
        (profile.routes.messages.or ((catalogTemplate template).bind (·.messagesRoute)))
        (profile.routes.models.or ((catalogTemplate template).bind (·.modelsRoute)))
        profile.effectiveDialects pricingSource (profile.allowInsecureLoopback.getD false) = .ok snapshot := by
    intro snapshot
    simp only [providerProfileSnapshot, hget, okOr_some, ok_bind, htemplate, hpricing, mapError_ok]
  refine ⟨?_, fun snapshot hok => ?_⟩
  · simp only [hsnapshot, fromParts_ok, hroutes, ← collectDialects_ne_nil profile.effectiveDialects]
    have hresponses := effectiveRoute_isOk template profile.routes.responses (·.responsesRoute)
      (fun _ => hfield "routes.responses" (·.routes.responses) (by simp [ProviderProfileLayer.fields])) (by simp)
    have hchat := effectiveRoute_isOk template profile.routes.chatCompletions (·.chatCompletionsRoute)
      (fun _ => hfield "routes.chat_completions" (·.routes.chatCompletions) (by simp [ProviderProfileLayer.fields])) (by simp)
    have hmessages := effectiveRoute_isOk template profile.routes.messages (·.messagesRoute)
      (fun _ => hfield "routes.messages" (·.routes.messages) (by simp [ProviderProfileLayer.fields])) (by simp)
    have hmodels := effectiveRoute_isOk template profile.routes.models (·.modelsRoute)
      (fun _ => hfield "routes.models" (·.routes.models) (by simp [ProviderProfileLayer.fields])) (by simp)
    rw [← hresponses, ← hchat, ← hmessages, ← hmodels]
    constructor
    · rintro ⟨_, _, _, _, _, _, _, _, hresponses, _, hchat, _, hmessages, _, hmodels, hdialects, _⟩
      exact ⟨hdialects, ⟨_, hresponses⟩, ⟨_, hchat⟩, ⟨_, hmessages⟩, ⟨_, hmodels⟩⟩
    · rintro ⟨hdialects, ⟨_, hresponses⟩, ⟨_, hchat⟩, ⟨_, hmessages⟩, ⟨_, hmodels⟩⟩
      refine ⟨_, validateProviderId_ok hid.providerText, hfield "template" (·.template) (by simp [ProviderProfileLayer.fields]) htemplate,
        fun _ => hfield "credential" (·.credential) (by simp [ProviderProfileLayer.fields]), _, horigin,
        hallow, _, hresponses, _, hchat, _, hmessages, _, hmodels, hdialects, rfl⟩
  · obtain ⟨_, _, _, _, _, _, _, _, _, _, _, _, _, _, _, rfl⟩ := fromParts_ok.mp ((hsnapshot snapshot).mp hok)
    rfl

end Snapshots

/-! ## Presets and chains -/

section Presets

variable {lib : ConfigLibrary} {document : ConfigDocument}

/-- A checked value of a preset, with the segments of its path. -/
theorem presetText (h : document.ValidLayer) {id : String} {preset : ModelPresetLayer}
    (hget : document.modelPresets.get id = some preset) (name : String) (read : ModelPresetLayer → Option String)
    (hname : NoDot name) (hmem : (name, text read) ∈ ModelPresetLayer.fields) {value : String} (hread : read preset = some value) :
    ∃ path, segments path = ["model_presets", id, name] ∧ validateValue path (.string value) = .ok () := by
  have hid : NoDot id := (h.modelPresets id (OrdMap.mem_keys.mpr ⟨preset, hget⟩)).noDot
  have hfield := h.fields _ (ConfigDocument.preset_field hget hmem (by rw [text, hread]; rfl))
  simp only [validateField, bind_ok, exists_unit] at hfield
  obtain ⟨_, _, _, hvalue, _⟩ := hfield
  refine ⟨_, ?_, hvalue⟩
  rw [segments_dotted (by decide), segments_dotted hid, segments_noDot hname]

/-- What the view of a preset needs of it. -/
theorem modelPresetView_isOk (h : Effective lib document) {id : String} {preset : ModelPresetLayer}
    (hget : document.modelPresets.get id = some preset) (runtime : ConfigRuntime) (resolved : ResolvedState) :
    ∃ view, runtime.modelPresetView lib resolved id preset = .ok view := by
  have hcheck := h.presets id preset hget
  simp only [validatePreset, bind_ok, exists_unit, okOr_ok, require_ok, Option.isSome_iff_exists] at hcheck
  obtain ⟨provider, hprovider, _, ⟨model, hmodel⟩, ⟨dialect, hdialect⟩, _⟩ := hcheck
  have hvalue := presetText h.layer hget
  have heffort : ∃ effort, transpose (preset.reasoningEffort.map fun value => okOr (ReasoningEffort.parse value)
      (invalid (dotted (presetPath id) "reasoning_effort") "unknown reasoning effort")) = .ok effort := by
    cases hread : preset.reasoningEffort with
    | none => exact ⟨none, rfl⟩
    | some value =>
      obtain ⟨path, hsegments, hok⟩ := hvalue "reasoning_effort" (·.reasoningEffort) (by decide) (by simp [ModelPresetLayer.fields])
        hread
      simp only [validateValue, hsegments, bind_ok, exists_unit, require_ok] at hok
      obtain ⟨effort, heffort⟩ := Option.isSome_iff_exists.mp (hok.2.1 (by simp [pathMatches]))
      exact ⟨some effort, by rw [Option.map_some, heffort]; rfl⟩
  have htier : ∃ tier, transpose (preset.serviceTier.map fun value => okOr (ServiceTier.parse value)
      (invalid (dotted (presetPath id) "service_tier") "unknown service tier")) = .ok tier := by
    cases hread : preset.serviceTier with
    | none => exact ⟨none, rfl⟩
    | some value =>
      obtain ⟨path, hsegments, hok⟩ := hvalue "service_tier" (·.serviceTier) (by decide) (by simp [ModelPresetLayer.fields]) hread
      simp only [validateValue, hsegments, bind_ok, exists_unit, require_ok] at hok
      obtain ⟨tier, htier⟩ := Option.isSome_iff_exists.mp (hok.2.2.1 (by simp [pathMatches]))
      exact ⟨some tier, by rw [Option.map_some, htier]; rfl⟩
  have hmode : ∃ mode, transpose (preset.contextMode.map fun value => okOr (ContextMode.parse value)
      (invalid (dotted (presetPath id) "context_mode") "unknown context mode")) = .ok mode := by
    cases hread : preset.contextMode with
    | none => exact ⟨none, rfl⟩
    | some value =>
      obtain ⟨path, hsegments, hok⟩ := hvalue "context_mode" (·.contextMode) (by decide) (by simp [ModelPresetLayer.fields]) hread
      simp only [validateValue, hsegments, bind_ok, exists_unit, require_ok] at hok
      obtain ⟨mode, hmode⟩ := Option.isSome_iff_exists.mp (hok.2.2.2 (by simp [pathMatches]))
      exact ⟨some mode, by rw [Option.map_some, hmode]; rfl⟩
  have hstarter : ∃ starter, transpose (preset.starter.map (·.provenance id)) = .ok starter := by
    cases hread : preset.starter with
    | none => exact ⟨none, rfl⟩
    | some layer =>
      obtain ⟨provenance, hprovenance⟩ := h.layer.starters id preset hget layer hread
      exact ⟨some provenance, by rw [Option.map_some, hprovenance]; rfl⟩
  obtain ⟨effort, heffort⟩ := heffort
  obtain ⟨tier, htier⟩ := htier
  obtain ⟨mode, hmode⟩ := hmode
  obtain ⟨starter, hstarter⟩ := hstarter
  simp only [ConfigRuntime.modelPresetView, hprovider, hmodel, hdialect, okOr_some, ok_bind, heffort, htier, hmode, hstarter]
  exact ⟨_, rfl⟩

theorem modelPresetView_keeps {runtime : ConfigRuntime} {resolved : ResolvedState} {id : String} {preset : ModelPresetLayer}
    {view : ModelPresetView} (h : runtime.modelPresetView lib resolved id preset = .ok view) :
    view.id = id ∧ view.fallback = preset.fallbacks := by
  simp only [ConfigRuntime.modelPresetView, bind_ok, pure, Except.pure, Except.ok.injEq] at h
  obtain ⟨_, _, _, _, _, _, _, _, _, _, _, _, _, _, rfl⟩ := h
  exact ⟨rfl, rfl⟩

end Presets

section Chains

variable {presets : OrdMap String ModelPresetView}

/-- How many presets a walk has not met. -/
def unmet (presets : OrdMap String ModelPresetView) (seen : List String) : Nat := (presets.keys.filter (· ∉ seen)).length

theorem unmet_antitone {seen seen' : List String} (h : seen ⊆ seen') : unmet presets seen' ≤ unmet presets seen := by
  refine (List.monotone_filter_right _ fun id hid => ?_).length_le
  simp only [decide_eq_true_eq] at hid ⊢
  exact fun hmem => hid (h hmem)

theorem unmet_cons {seen : List String} {id : String} (hid : id ∈ presets.keys) (hnew : id ∉ seen) :
    unmet presets (id :: seen) < unmet presets seen := by
  have hsub : (presets.keys.filter (· ∉ id :: seen)) = (presets.keys.filter (· ∉ seen)).filter (· ≠ id) := by
    rw [List.filter_filter]
    refine List.filter_congr fun x _ => ?_
    simp
  rw [unmet, hsub, unmet]
  exact List.length_filter_lt_length_iff_exists.mpr ⟨id, by simp [hid, hnew], by simp⟩

/-- A walk in which each fallback is a preset ends: it goes down only to a preset it has not met. -/
theorem visitPreset_isOk (hclosed : ∀ id preset, presets.get id = some preset → ∀ fallback ∈ preset.fallback, fallback ∈ presets.keys) :
    ∀ (fuel : Nat) (seen : List String) (chain : List ModelPresetView) (id : String), id ∈ presets.keys →
      unmet presets seen < fuel → ∃ seen' chain', visitPreset presets fuel (seen, chain) id = .ok (seen', chain') ∧ seen ⊆ seen' := by
  intro fuel
  induction fuel with
  | zero => exact fun _ _ _ _ h => absurd h (Nat.not_lt_zero _)
  | succ fuel ih =>
    intro seen chain id hid hfuel
    -- The walk over a list of fallbacks, by the walk of each.
    have hfold : ∀ (fallbacks : List String), (∀ fallback ∈ fallbacks, fallback ∈ presets.keys) →
        ∀ (seen : List String) (chain : List ModelPresetView), unmet presets seen < fuel →
          ∃ seen' chain', fallbacks.foldlM (visitPreset presets fuel) (seen, chain) = .ok (seen', chain') ∧ seen ⊆ seen' := by
      intro fallbacks
      induction fallbacks with
      | nil => exact fun _ seen chain _ => ⟨seen, chain, rfl, List.Subset.refl _⟩
      | cons fallback fallbacks ihf =>
        intro hall seen chain hlt
        obtain ⟨seen1, chain1, h1, hsub1⟩ := ih seen chain fallback (hall fallback List.mem_cons_self) hlt
        obtain ⟨seen2, chain2, h2, hsub2⟩ := ihf (fun x hx => hall x (List.mem_cons_of_mem _ hx)) seen1 chain1
          (lt_of_le_of_lt (unmet_antitone hsub1) hlt)
        refine ⟨seen2, chain2, ?_, List.Subset.trans hsub1 hsub2⟩
        rw [List.foldlM_cons, h1]
        exact h2
    unfold visitPreset
    by_cases hseen : id ∈ seen
    · exact ⟨seen, chain, by rw [if_pos hseen], List.Subset.refl _⟩
    · obtain ⟨preset, hget⟩ := OrdMap.mem_keys.mp hid
      obtain ⟨seen', chain', hok, hsub⟩ := hfold preset.fallback (hclosed id preset hget) (id :: seen) (chain ++ [preset])
        (by have := unmet_cons hid hseen; omega)
      refine ⟨seen', chain', ?_, fun x hx => hsub (List.mem_cons_of_mem _ hx)⟩
      rw [if_neg hseen, hget]
      exact hok

end Chains

/-! ## Acceptance and use -/

section Use

variable {lib : ConfigLibrary} {resolved : ResolvedState} {runtime : ConfigRuntime}

theorem resolvedState_ok (hr : runtime.lastValid = some resolved) : runtime.resolvedState = .ok resolved := by
  rw [ConfigRuntime.resolvedState, hr, okOr_some]

theorem resolvedUsageWindows_isOk (h : Effective lib resolved.document) (hr : runtime.lastValid = some resolved) :
    ∃ windows, runtime.resolvedUsageWindows lib = .ok windows := by
  rw [ConfigRuntime.resolvedUsageWindows, resolvedState_ok hr, ok_bind]
  refine mapM_isOk fun window hwindow => ?_
  have hcheck := h.windows window hwindow
  simp only [validateUsageWindow, bind_ok, exists_unit, okOr_ok, require_ok] at hcheck
  obtain ⟨start, hstart, finish, hfinish, days, hdays, _, timezone, htimezone, resolvedWindow, hresolved, _⟩ := hcheck
  refine ⟨resolvedWindow, ?_⟩
  simp only [resolveUsageWindow, hstart, hfinish, hdays, htimezone, okOr_some, ok_bind]
  exact hresolved

theorem modelPresets_isOk (h : Effective lib resolved.document) (hr : runtime.lastValid = some resolved) :
    ∃ views, runtime.modelPresets lib = .ok views := by
  rw [ConfigRuntime.modelPresets, resolvedState_ok hr, ok_bind]
  exact mapM_isOk fun entry hentry => modelPresetView_isOk h (OrdMap.mem_entries.mp hentry) runtime resolved

/-- The views are of the presets, each under its id. -/
theorem modelPresets_ids {views : List ModelPresetView} (hr : runtime.lastValid = some resolved)
    (hviews : runtime.modelPresets lib = .ok views) : views.map (·.id) = resolved.document.modelPresets.keys := by
  rw [ConfigRuntime.modelPresets, resolvedState_ok hr, ok_bind, mapM_ok] at hviews
  rw [OrdMap.keys, eq_comm, ← List.forall₂_eq_eq_eq, List.forall₂_map_left_iff, List.forall₂_map_right_iff]
  exact hviews.imp fun _ _ hview => (modelPresetView_keeps hview).1.symm

/-- The views by their ids have the ids of the presets. -/
theorem viewsById_keys {views : List ModelPresetView} (hr : runtime.lastValid = some resolved)
    (hviews : runtime.modelPresets lib = .ok views) (key : String) :
    key ∈ (OrdMap.ofList (views.map fun preset => (preset.id, preset))).keys ↔ key ∈ resolved.document.modelPresets.keys := by
  have hids := modelPresets_ids hr hviews
  have hfunctional : Functional (views.map fun preset => (preset.id, preset)) := by
    refine Functional.of_nodup ?_
    rw [List.map_map]
    exact hids ▸ (OrdMap.keys_sorted _).imp ne_of_lt
  simp only [OrdMap.mem_keys (m := OrdMap.ofList _), get_ofList hfunctional, ← hids, List.mem_map, Prod.mk.injEq]
  constructor
  · rintro ⟨_, view, hview, rfl, rfl⟩
    exact ⟨view, hview, rfl⟩
  · rintro ⟨view, hview, rfl⟩
    exact ⟨view, view, hview, rfl, rfl⟩

theorem modelPresetChain_isOk (h : Effective lib resolved.document) (hr : runtime.lastValid = some resolved) {id : String}
    (hid : id ∈ resolved.document.modelPresets.keys) : ∃ chain, runtime.modelPresetChain lib id = .ok chain := by
  obtain ⟨views, hviews⟩ := modelPresets_isOk h hr
  have hkeys := viewsById_keys hr hviews
  -- A fallback of a checked preset is a preset.
  have hclosed : ∀ key preset, (OrdMap.ofList (views.map fun preset => (preset.id, preset))).get key = some preset →
      ∀ fallback ∈ preset.fallback, fallback ∈ (OrdMap.ofList (views.map fun preset => (preset.id, preset))).keys := by
    intro key view hget fallback hfallback
    obtain ⟨_, hmem, hpair⟩ := List.mem_map.mp (mem_of_get_ofList hget)
    obtain ⟨rfl, rfl⟩ := Prod.mk.inj hpair
    rw [ConfigRuntime.modelPresets, resolvedState_ok hr, ok_bind] at hviews
    obtain ⟨⟨source, preset⟩, hentry, hview⟩ := mapM_member hviews hmem
    rw [(modelPresetView_keeps hview).2] at hfallback
    have hcheck := h.presets source preset (OrdMap.mem_entries.mp hentry)
    simp only [validatePreset, bind_ok, exists_unit, forM_ok, validateFallback, okOr_ok] at hcheck
    obtain ⟨_, _, _, _, _, _, hfallbacks⟩ := hcheck
    obtain ⟨_, candidate, hcandidate, _⟩ := hfallbacks fallback hfallback
    exact (hkeys fallback).mpr (OrdMap.mem_keys.mpr ⟨candidate, hcandidate⟩)
  obtain ⟨_, chain, hchain, _⟩ := visitPreset_isOk hclosed
    ((OrdMap.ofList (views.map fun preset => (preset.id, preset))).size + 1) [] [] id ((hkeys id).mpr hid)
    (Nat.lt_succ_of_le (le_trans (List.length_filter_le _ _) (by rw [OrdMap.keys, List.length_map, OrdMap.size])))
  have hcontains : (OrdMap.ofList (views.map fun preset => (preset.id, preset))).contains id = true :=
    OrdMap.contains_iff.mpr (OrdMap.mem_keys.mp ((hkeys id).mpr hid))
  refine ⟨chain, ?_⟩
  rw [ConfigRuntime.modelPresetChain, validateId_ok.mpr (h.layer.modelPresets id hid), ok_bind, hviews, ok_bind,
    require_bind hcontains, hchain]
  rfl

/-- Once a configuration is accepted, what can fail later is a profile without a dialect, a
    route that is no path, and a preset whose dialect its profile has not. -/
theorem accepted_usable (horigins : BundledOrigins lib.url) {builtIn user project cli : ConfigDocument}
    (haccepted : resolveDocuments lib builtIn user project cli = .ok resolved) (hr : runtime.lastValid = some resolved) :
    Usable lib runtime resolved.document ↔ Complete (mergeDocuments builtIn user project cli) := by
  obtain ⟨hresolves, hresolved⟩ := resolveDocuments_ok.mp haccepted
  have hdocument : resolved.document = mergeDocuments builtIn user project cli := by rw [hresolved]; rfl
  have h : Effective lib resolved.document := hdocument ▸ hresolves.effective
  rw [← hdocument]
  have hsnapshot : ∀ {id profile}, resolved.document.providers.get id = some profile →
      _ := fun {id profile} hget => @snapshot_isOk lib _ id profile horigins h hget
  have hprofile : ∀ {provider profile}, resolved.document.providers.get provider = some profile → provider ≠ "simulator" →
      ∀ snapshot, runtime.providerProfile lib provider = .ok (some snapshot) ↔
        providerProfileSnapshot lib resolved.document provider = .ok snapshot := by
    intro provider profile hget hne snapshot
    have hid := h.layer.providers provider (OrdMap.mem_keys.mpr ⟨profile, hget⟩)
    simp only [ConfigRuntime.providerProfile, validateId_ok.mpr hid, ok_bind, if_neg hne, resolvedState_ok hr, bind_ok, pure,
      Except.pure, Except.ok.injEq, Option.some.injEq, exists_eq_right]
  constructor
  · intro hu
    have hget : ∀ {id profile}, resolved.document.providers.get id = some profile →
        profile.effectiveDialects ≠ [] ∧ ∀ route ∈ profile.routes.texts, PathRoute route := fun hget =>
      (hsnapshot hget).1.mp (hu.profiles _ (OrdMap.mem_keys.mpr ⟨_, hget⟩))
    refine ⟨fun _ _ h => (hget h).1, fun _ _ h => (hget h).2, ?_⟩
    intro id preset provider dialect profile hpreset hprovider hdialect hne hprofileGet
    obtain ⟨snapshot, hok, hsupports⟩ := hu.supported id preset provider dialect hpreset hprovider hdialect hne
    have hdialects := (hsnapshot hprofileGet).2 snapshot ((hprofile hprofileGet hne snapshot).mp hok)
    rw [ProviderProfileSnapshot.supports, List.contains_iff_mem, hdialects, mem_collectDialects] at hsupports
    exact hsupports
  · intro hc
    have hmake : ∀ {id profile}, resolved.document.providers.get id = some profile →
        ∃ snapshot, providerProfileSnapshot lib resolved.document id = .ok snapshot := fun hget =>
      (hsnapshot hget).1.mpr ⟨hc.dialects _ _ hget, hc.routes _ _ hget⟩
    refine ⟨?_, resolvedUsageWindows_isOk h hr, ?_, modelPresets_isOk h hr, fun id hid => modelPresetChain_isOk h hr hid, ?_⟩
    · intro id hid
      obtain ⟨profile, hget⟩ := OrdMap.mem_keys.mp hid
      exact hmake hget
    · rw [ConfigRuntime.resolvedPriceSchedules, resolvedState_ok hr, ok_bind]
      exact h.prices
    · intro id preset provider dialect hpreset hprovider hdialect hne
      have hcheck := h.presets id preset hpreset
      simp only [validatePreset, bind_ok, exists_unit, okOr_ok, require_ok, hprovider, Option.some.injEq, exists_eq_left'] at hcheck
      obtain ⟨profile, hget⟩ := OrdMap.contains_iff.mp (hcheck.1.resolve_right hne)
      obtain ⟨snapshot, hok⟩ := hmake hget
      refine ⟨snapshot, (hprofile hget hne snapshot).mpr hok, ?_⟩
      rw [ProviderProfileSnapshot.supports, List.contains_iff_mem, (hsnapshot hget).2 snapshot hok, mem_collectDialects]
      exact hc.presets id preset provider dialect profile hpreset hprovider hdialect hne hget

end Use

/-- A library that reads the origins of the bundled templates, and no other. -/
def templateLibrary : ConfigLibrary :=
  let table : List (String × Url) := [
    ("https://api.deepseek.com", ⟨"https", "", none, some (.domain "api.deepseek.com"), none, "/", none, none⟩),
    ("https://api.openai.com/v1", ⟨"https", "", none, some (.domain "api.openai.com"), none, "/v1", none, none⟩),
    ("https://opencode.ai/zen/go/v1", ⟨"https", "", none, some (.domain "opencode.ai"), none, "/zen/go/v1", none, none⟩)]
  ⟨⟨fun text => (table.find? (·.1 = text)).map (·.2), fun _ => []⟩, ⟨fun _ => none, fun _ => true, fun _ => none, none, none⟩⟩

theorem templateLibrary_origins : BundledOrigins templateLibrary.url := by
  intro template hmem
  simp only [providerTemplates, List.mem_cons, List.not_mem_nil, or_false] at hmem
  rcases hmem with rfl | rfl | rfl
  · exact ⟨_, rfl, ⟨.inr rfl, by decide, rfl, rfl, rfl, rfl⟩, rfl⟩
  · exact ⟨_, rfl, ⟨.inr rfl, by decide, rfl, rfl, rfl, rfl⟩, rfl⟩
  · exact ⟨_, rfl, ⟨.inr rfl, by decide, rfl, rfl, rfl, rfl⟩, rfl⟩

/-- One profile of a template, and one preset of that profile. -/
def presetDocument (template : String) (dialect : ProviderDialect) : ConfigDocument :=
  { ConfigDocument.empty with
    providers := .ofList [("work", { ProviderProfileLayer.default with template := some template })]
    modelPresets := .ofList [("main", { ModelPresetLayer.default with
      provider := some "work", model := some "model", dialect := some dialect })] }

/-- A runtime whose configuration is that of the document in the user layer. -/
def presetRuntime (document : ConfigDocument) : ConfigRuntime :=
  ⟨.builtIn, .empty, ⟨none, none⟩, ⟨none, none⟩, some (resolvedState .builtIn document .empty .empty)⟩

/-- A profile of a bundled template, and a preset of one of its dialects. -/
theorem accepted_usable_template :
    Usable templateLibrary (presetRuntime (presetDocument "deepseek" .messages))
      (resolvedState .builtIn (presetDocument "deepseek" .messages) .empty .empty).document := by
  have haccepted : resolveDocuments templateLibrary .builtIn (presetDocument "deepseek" .messages) .empty .empty =
      .ok (resolvedState .builtIn (presetDocument "deepseek" .messages) .empty .empty) :=
    resolveDocuments_accepts (by decide +kernel)
  refine (accepted_usable templateLibrary_origins haccepted rfl).mpr ?_
  have hmerged : mergeDocuments .builtIn (presetDocument "deepseek" .messages) .empty .empty =
      { ConfigDocument.builtIn with
        providers := (presetDocument "deepseek" .messages).providers
        modelPresets := (presetDocument "deepseek" .messages).modelPresets } := by decide +kernel
  have hprovider : ∀ {id profile}, (presetDocument "deepseek" .messages).providers.get id = some profile →
      profile = { ProviderProfileLayer.default with template := some "deepseek" } := by
    intro id profile hget
    simpa using congrArg Prod.snd (List.mem_singleton.mp (mem_of_get_ofList hget))
  rw [hmerged]
  refine ⟨fun id profile hget => ?_, fun id profile hget => ?_, ?_⟩
  · rw [hprovider hget]
    decide
  · rw [hprovider hget]
    decide
  · intro id preset provider dialect profile hget _ hdialect _ hprofile
    rw [show preset = _ from congrArg Prod.snd (List.mem_singleton.mp (mem_of_get_ofList hget))] at hdialect
    cases hdialect
    rw [hprovider hprofile]
    decide

/-- A profile of a template that is not bundled is accepted without a dialect, and has no
    snapshot; a preset is accepted with a dialect that its profile has not. -/
theorem dialect_unchecked :
    (resolveDocuments templateLibrary .builtIn (presetDocument "custom" .responses) .empty .empty =
        .ok (resolvedState .builtIn (presetDocument "custom" .responses) .empty .empty) ∧
      (providerProfileSnapshot templateLibrary (resolvedState .builtIn (presetDocument "custom" .responses) .empty .empty).document
        "work") = .error (.invalidValue "providers.work"
          (.provider (.invalidConfiguration "provider dialect set cannot be empty")))) ∧
    resolveDocuments templateLibrary .builtIn (presetDocument "openai" .messages) .empty .empty =
        .ok (resolvedState .builtIn (presetDocument "openai" .messages) .empty .empty) ∧
      okAnd (providerProfileSnapshot templateLibrary (resolvedState .builtIn (presetDocument "openai" .messages) .empty .empty).document
        "work") (fun snapshot => !snapshot.supports .messages) = true := by
  refine ⟨⟨resolveDocuments_accepts (by decide +kernel), by decide +kernel⟩, resolveDocuments_accepts (by decide +kernel), by decide +kernel⟩

end GreenTyper.Config
