/-
  GreenTyper.Config.Routes — a layer with its routes normalized.

  A normalized route is a path route still, with one slash before it, and normalizing it
  again changes nothing (`normalizeRoutes_again`). No check of an effective document
  depends on how its routes are written: where four layers resolve, they resolve with the
  routes of one of them normalized (`Resolves.routes`).
-/

import GreenTyper.Config.Effective

namespace GreenTyper.Config

open Lib Provider Usage

/-! ## Fields of an object -/

namespace ConfigDocument

variable {document : ConfigDocument}

theorem mem_fields {group rest : String} {fields : List (String × ConfigValue)} {value : ConfigValue}
    (hgroup : (group, fields) ∈ document.groups) (hrest : (rest, value) ∈ fields) :
    (dotted group rest, value) ∈ document.fields :=
  mem_nest.mpr ⟨group, fields, rest, hgroup, hrest, rfl⟩

theorem profile_field {id : String} {profile : ProviderProfileLayer} (hget : document.providers.get id = some profile)
    {name : String} {read : ProviderProfileLayer → Option ConfigValue} {value : ConfigValue}
    (hname : (name, read) ∈ ProviderProfileLayer.fields) (hread : read profile = some value) :
    (dotted "providers" (dotted id name), value) ∈ document.fields :=
  mem_fields (by simp [groups])
    (mem_objects.mpr ⟨id, profile, name, OrdMap.mem_entries.mpr hget, mem_present.mpr ⟨read, hname, hread⟩, rfl⟩)

theorem preset_field {id : String} {preset : ModelPresetLayer} (hget : document.modelPresets.get id = some preset)
    {name : String} {read : ModelPresetLayer → Option ConfigValue} {value : ConfigValue}
    (hname : (name, read) ∈ ModelPresetLayer.fields) (hread : read preset = some value) :
    (dotted "model_presets" (dotted id name), value) ∈ document.fields :=
  mem_fields (by simp [groups])
    (mem_objects.mpr ⟨id, preset, name, OrdMap.mem_entries.mpr hget, mem_present.mpr ⟨read, hname, hread⟩, rfl⟩)

/-- A configured text is valid text. -/
theorem ValidLayer.validText (h : document.ValidLayer) {path value : String} (hmem : (path, .string value) ∈ document.fields) :
    ProviderText maxConfigStringBytes value := by
  have hfield := h.fields _ hmem
  simp only [validateField, validateValue, bind_ok, exists_unit, validateString_ok] at hfield
  obtain ⟨_, _, _, ⟨htext, _⟩, _⟩ := hfield
  exact htext

end ConfigDocument

/-! ## Path routes -/

/-- Text that a route may be: a path without authority, query, fragment or dot segments. -/
def PathRoute (route : String) : Prop :=
  ('?' ∉ route.toList ∧ '#' ∉ route.toList ∧ containsText route "://" = false ∧ '\\' ∉ route.toList ∧
    ∀ segment ∈ route.toList.splitOn '/', segment ≠ ['.'] ∧ segment ≠ ['.', '.']) ∧ trimStartMatches '/' route ≠ ""

instance (route : String) : Decidable (PathRoute route) := inferInstanceAs (Decidable (_ ∧ _))

theorem normalizeRoute_ok {path route text : String} : normalizeRoute path route = .ok text ↔
    ProviderText maxConfigStringBytes route ∧ PathRoute route ∧ text = "/" ++ trimStartMatches '/' route := by
  simp only [normalizeRoute, bind_ok, exists_unit, validateString_ok, require_ok, exists_const, pure, Except.pure, Except.ok.injEq,
    PathRoute, eq_comm (b := text), and_assoc]

theorem normalizeProviderRoute_iff {route text : String} : normalizeProviderRoute route = .ok text ↔
    ProviderText maxProviderIdBytes route ∧ PathRoute route ∧ text = "/" ++ trimStartMatches '/' route := by
  simp only [normalizeProviderRoute, validateSnapshotValue, bind_ok, require_ok, exists_const, pure, Except.pure,
    Except.ok.injEq, PathRoute, eq_comm (b := text), and_assoc]

theorem normalizeOptionalRoute_isOk {route : Option String} : (∃ text, normalizeOptionalRoute route = .ok text) ↔
    ∀ value, route = some value → ProviderText maxProviderIdBytes value ∧ PathRoute value := by
  cases route with
  | none => simp [normalizeOptionalRoute, transpose]
  | some value =>
    simp only [normalizeOptionalRoute, Option.map_some, transpose_ok, reduceCtorEq, false_and, false_or, Option.some.injEq,
      normalizeProviderRoute_iff]
    constructor
    · rintro ⟨_, text, ⟨htext, hroute, _⟩, _⟩ _ rfl
      exact ⟨htext, hroute⟩
    · intro h
      obtain ⟨htext, hroute⟩ := h value rfl
      exact ⟨_, _, ⟨htext, hroute, rfl⟩, rfl⟩

/-- A leading slash does not add a segment that is not empty, and more of them not either. -/
theorem splitOn_dropWhile {segment cs : List Char} (h : segment ∈ (cs.dropWhile (· == '/')).splitOn '/') :
    segment ∈ cs.splitOn '/' := by
  induction cs with
  | nil => exact h
  | cons c cs ih =>
    rw [List.dropWhile_cons] at h
    split at h
    · rename_i hc
      have hsplit : (c :: cs).splitOn '/' = [] :: cs.splitOn '/' :=
        List.splitOnP_append_cons (p := (· == '/')) [] cs hc
      rw [hsplit]
      exact List.mem_cons_of_mem _ (ih h)
    · exact h

theorem trimStart_slash (route : String) : trimStartMatches '/' ("/" ++ trimStartMatches '/' route) = trimStartMatches '/' route := by
  simp only [trimStartMatches, String.toList_append, String.toList_ofList]
  congr 1
  exact dropWhile_idem _ _

theorem PathRoute.normalized {route : String} (h : PathRoute route) : PathRoute ("/" ++ trimStartMatches '/' route) := by
  obtain ⟨⟨hquestion, hhash, hauthority, hback, hdots⟩, hroot⟩ := h
  have hlist : ("/" ++ trimStartMatches '/' route).toList = '/' :: route.toList.dropWhile (· == '/') := by
    simp [trimStartMatches]
  have hsub : ∀ c, c ≠ '/' → c ∉ route.toList → c ∉ '/' :: route.toList.dropWhile (· == '/') := by
    intro c hc hnot hmem
    rcases List.mem_cons.mp hmem with heq | hmem
    · exact hc heq
    · exact hnot ((List.dropWhile_sublist _).mem hmem)
  refine ⟨⟨?_, ?_, ?_, ?_, ?_⟩, by rw [trimStart_slash]; exact hroot⟩
  · exact hlist ▸ hsub _ (by decide) hquestion
  · exact hlist ▸ hsub _ (by decide) hhash
  · rw [containsText, decide_eq_false_iff_not] at hauthority ⊢
    rw [hlist]
    intro hwithin
    rcases List.infix_cons_iff.mp hwithin with hstart | hwithin
    · exact absurd (List.cons_prefix_cons.mp hstart).1 (by decide)
    · exact hauthority (hwithin.trans (List.dropWhile_suffix _).isInfix)
  · exact hlist ▸ hsub _ (by decide) hback
  · intro segment hsegment
    have hsplit : ('/' :: route.toList.dropWhile (· == '/')).splitOn '/' = [] :: (route.toList.dropWhile (· == '/')).splitOn '/' :=
      List.splitOnP_append_cons (p := (· == '/')) [] _ rfl
    rw [hlist, hsplit] at hsegment
    rcases List.mem_cons.mp hsegment with rfl | hsegment
    · exact ⟨by decide, by decide⟩
    · exact hdots segment (splitOn_dropWhile hsegment)

/-- A normalized route that is not too long normalizes to itself. -/
theorem normalizeRoute_again {path path' route text : String} (h : normalizeRoute path route = .ok text)
    (htext : ProviderText maxConfigStringBytes text) : normalizeRoute path' text = .ok text := by
  obtain ⟨_, hroute, rfl⟩ := normalizeRoute_ok.mp h
  exact normalizeRoute_ok.mpr ⟨htext, hroute.normalized, by rw [trimStart_slash]⟩

/-! ## The same but the routes -/

/-- Both set or both not, and a path route where the first is. -/
def SameRoute : Option String → Option String → Prop := Option.Rel fun route route' => PathRoute route → PathRoute route'

structure SameProfile (profile profile' : ProviderProfileLayer) : Prop where
  rest : profile' = { profile with routes := profile'.routes }
  responses : SameRoute profile.routes.responses profile'.routes.responses
  chatCompletions : SameRoute profile.routes.chatCompletions profile'.routes.chatCompletions
  messages : SameRoute profile.routes.messages profile'.routes.messages
  models : SameRoute profile.routes.models profile'.routes.models

structure SameDocument (document document' : ConfigDocument) : Prop where
  rest : document' = { document with providers := document'.providers }
  profiles : ∀ id, Option.Rel SameProfile (document.providers.get id) (document'.providers.get id)

theorem SameRoute.refl (route : Option String) : SameRoute route route := by
  cases route with
  | none => exact .none
  | some route => exact .some id

theorem SameProfile.refl (profile : ProviderProfileLayer) : SameProfile profile profile := ⟨rfl, .refl _, .refl _, .refl _, .refl _⟩

theorem SameDocument.refl (document : ConfigDocument) : SameDocument document document := by
  refine ⟨rfl, fun id => ?_⟩
  cases document.providers.get id with
  | none => exact .none
  | some profile => exact .some (.refl profile)

theorem SameRoute.merge {base base' overlay overlay' : Option String} (h : SameRoute base base') (h' : SameRoute overlay overlay') :
    SameRoute (mergeOption base overlay) (mergeOption base' overlay') := by
  cases h' with
  | some hover => exact .some hover
  | none => exact h

theorem SameProfile.mergeFrom {base base' overlay overlay' : ProviderProfileLayer} (h : SameProfile base base')
    (h' : SameProfile overlay overlay') : SameProfile (base.mergeFrom overlay) (base'.mergeFrom overlay') where
  rest := by rw [h.rest, h'.rest]; rfl
  responses := h.responses.merge h'.responses
  chatCompletions := h.chatCompletions.merge h'.chatCompletions
  messages := h.messages.merge h'.messages
  models := h.models.merge h'.models

theorem SameDocument.mergeFrom {base base' overlay overlay' : ConfigDocument} (h : SameDocument base base')
    (h' : SameDocument overlay overlay') : SameDocument (base.mergeFrom overlay) (base'.mergeFrom overlay') where
  rest := by rw [h.rest, h'.rest]; rfl
  profiles := OrdMap.rel_mergeWith (.refl _) (fun hbase hover => hbase.mergeFrom hover) h.profiles h'.profiles

theorem SameDocument.merge {builtIn user user' project project' cli : ConfigDocument} (huser : SameDocument user user')
    (hproject : SameDocument project project') :
    SameDocument (mergeDocuments builtIn user project cli) (mergeDocuments builtIn user' project' cli) :=
  (((SameDocument.refl builtIn).mergeFrom huser).mergeFrom hproject).mergeFrom (.refl cli)

/-! ## Normalized documents -/

section Normalized

variable {document document' : ConfigDocument}

theorem transposeRoute_ok {path : String} {route route' : Option String} :
    transpose (route.map (normalizeRoute path)) = .ok route' ↔
      route = none ∧ route' = none ∨ ∃ text text', route = some text ∧ normalizeRoute path text = .ok text' ∧ route' = some text' := by
  cases route with
  | none => simp [transpose, eq_comm]
  | some text => simp only [Option.map_some, transpose_ok, reduceCtorEq, false_and, false_or, Option.some.injEq, exists_and_left,
      exists_eq_left']

theorem transposeRoute_same {path : String} {route route' : Option String}
    (h : transpose (route.map (normalizeRoute path)) = .ok route') : SameRoute route route' := by
  rcases transposeRoute_ok.mp h with ⟨rfl, rfl⟩ | ⟨text, text', rfl, hok, rfl⟩
  · exact .none
  · obtain ⟨_, hroute, rfl⟩ := normalizeRoute_ok.mp hok
    exact .some PathRoute.normalized

theorem transposeRoute_again {path path' : String} {route route' : Option String}
    (h : transpose (route.map (normalizeRoute path)) = .ok route')
    (htext : ∀ text, route' = some text → ProviderText maxConfigStringBytes text) :
    transpose (route'.map (normalizeRoute path')) = .ok route' := by
  rcases transposeRoute_ok.mp h with ⟨_, rfl⟩ | ⟨text, text', _, hok, rfl⟩
  · rfl
  · exact transposeRoute_ok.mpr (.inr ⟨text', text', rfl, normalizeRoute_again hok (htext text' rfl), rfl⟩)

theorem normalizeProfile_ok {id : String} {profile profile' : ProviderProfileLayer} :
    profile.normalizeRoutes id = .ok profile' ↔
      ∃ responses, transpose (profile.routes.responses.map
        (normalizeRoute (dotted (dotted (dotted "providers" id) "routes") "responses"))) = .ok responses ∧
      ∃ chat, transpose (profile.routes.chatCompletions.map
        (normalizeRoute (dotted (dotted (dotted "providers" id) "routes") "chat_completions"))) = .ok chat ∧
      ∃ messages, transpose (profile.routes.messages.map
        (normalizeRoute (dotted (dotted (dotted "providers" id) "routes") "messages"))) = .ok messages ∧
      ∃ models, transpose (profile.routes.models.map
        (normalizeRoute (dotted (dotted (dotted "providers" id) "routes") "models"))) = .ok models ∧
      profile' = { profile with routes := ⟨responses, chat, messages, models⟩ } := by
  simp only [ProviderProfileLayer.normalizeRoutes, bind_ok, pure, Except.pure, Except.ok.injEq, eq_comm (b := profile')]

theorem normalizeRoutes_ok : document.normalizeRoutes = .ok document' ↔
    ∃ providers, document.providers.mapM ProviderProfileLayer.normalizeRoutes = .ok providers ∧
      document' = { document with providers := providers } := by
  simp only [ConfigDocument.normalizeRoutes, bind_ok, pure, Except.pure, Except.ok.injEq, eq_comm (b := document')]

theorem normalizeRoutes_same (h : document.normalizeRoutes = .ok document') : SameDocument document document' := by
  obtain ⟨providers, hmap, rfl⟩ := normalizeRoutes_ok.mp h
  refine ⟨rfl, fun id => ?_⟩
  rcases OrdMap.get_mapM hmap id with ⟨hnone, hnone'⟩ | ⟨profile, profile', hget, hprofile, hget'⟩
  · simp only [hnone, hnone']
    exact .none
  · simp only [hget, hget']
    obtain ⟨_, hresponses, _, hchat, _, hmessages, _, hmodels, rfl⟩ := normalizeProfile_ok.mp hprofile
    exact .some ⟨rfl, transposeRoute_same hresponses, transposeRoute_same hchat, transposeRoute_same hmessages,
      transposeRoute_same hmodels⟩

/-- A route of a valid layer is valid text. -/
theorem ConfigDocument.ValidLayer.route (h : document.ValidLayer) {id : String} {profile : ProviderProfileLayer}
    (hget : document.providers.get id = some profile) :
    (∀ route, profile.routes.responses = some route → ProviderText maxConfigStringBytes route) ∧
    (∀ route, profile.routes.chatCompletions = some route → ProviderText maxConfigStringBytes route) ∧
    (∀ route, profile.routes.messages = some route → ProviderText maxConfigStringBytes route) ∧
    ∀ route, profile.routes.models = some route → ProviderText maxConfigStringBytes route := by
  have hfield : ∀ (name : String) (read : ProviderProfileLayer → Option String),
      (name, text read) ∈ ProviderProfileLayer.fields → ∀ route, read profile = some route → ProviderText maxConfigStringBytes route :=
    fun _ _ hname _ hread => h.validText (ConfigDocument.profile_field hget hname (by rw [text, hread]; rfl))
  exact ⟨hfield "routes.responses" (·.routes.responses) (by simp [ProviderProfileLayer.fields]),
    hfield "routes.chat_completions" (·.routes.chatCompletions) (by simp [ProviderProfileLayer.fields]),
    hfield "routes.messages" (·.routes.messages) (by simp [ProviderProfileLayer.fields]),
    hfield "routes.models" (·.routes.models) (by simp [ProviderProfileLayer.fields])⟩

theorem normalizeRoutes_self (h : ∀ id profile, document.providers.get id = some profile → profile.normalizeRoutes id = .ok profile) :
    document.normalizeRoutes = .ok document := by
  obtain ⟨providers, hmap⟩ := OrdMap.mapM_isOk fun id profile hget => ⟨profile, h id profile hget⟩
  have hsame : providers = document.providers := by
    refine OrdMap.ext_get fun id => ?_
    rcases OrdMap.get_mapM hmap id with ⟨hnone, hnone'⟩ | ⟨profile, _, hget, hprofile, hget'⟩
    · rw [hnone, hnone']
    · rw [h id profile hget] at hprofile
      cases hprofile
      rw [hget, hget']
  exact normalizeRoutes_ok.mpr ⟨providers, hmap, by rw [hsame]⟩

/-- A normalized document that is a valid layer normalizes to itself. -/
theorem normalizeRoutes_again (h : document.normalizeRoutes = .ok document') (hlayer : document'.ValidLayer) :
    document'.normalizeRoutes = .ok document' := by
  obtain ⟨providers, hmap, rfl⟩ := normalizeRoutes_ok.mp h
  refine normalizeRoutes_self fun id profile' hget' => ?_
  rcases OrdMap.get_mapM hmap id with ⟨_, hnone⟩ | ⟨profile, _, _, hprofile, hsome⟩
  · have hget' : providers.get id = some profile' := hget'
    rw [hnone] at hget'
    cases hget'
  · have hget' : providers.get id = some profile' := hget'
    rw [hsome] at hget'
    cases hget'
    obtain ⟨hresponses', hchat', hmessages', hmodels'⟩ := hlayer.route hsome
    obtain ⟨_, hresponses, _, hchat, _, hmessages, _, hmodels, rfl⟩ := normalizeProfile_ok.mp hprofile
    exact normalizeProfile_ok.mpr ⟨_, transposeRoute_again hresponses hresponses', _, transposeRoute_again hchat hchat', _,
      transposeRoute_again hmessages hmessages', _, transposeRoute_again hmodels hmodels', rfl⟩

end Normalized

/-! ## Acceptance -/

section Acceptance

variable {lib : ConfigLibrary} {document document' : ConfigDocument}

theorem normalizeOptionalRoute_same {route route' template routed : Option String} (hsame : SameRoute route route')
    (htext : ∀ text, route' = some text → ProviderText maxConfigStringBytes text)
    (h : normalizeOptionalRoute (route.or template) = .ok routed) : ∃ routed', normalizeOptionalRoute (route'.or template) = .ok routed' := by
  cases hsame with
  | none => exact ⟨routed, h⟩
  | some hroute =>
    obtain ⟨_, hpath⟩ := normalizeOptionalRoute_isOk.mp ⟨routed, h⟩ _ rfl
    refine normalizeOptionalRoute_isOk.mpr fun value hvalue => ?_
    cases hvalue
    exact ⟨htext _ rfl, hroute hpath⟩

/-- The snapshot of a profile with other routes: it exists too, with the same prices. -/
theorem snapshot_same (hsame : SameDocument document document') (hlayer : document'.ValidLayer) {profile : String}
    {snapshot : ProviderProfileSnapshot} (h : providerProfileSnapshot lib document profile = .ok snapshot) :
    ∃ snapshot', providerProfileSnapshot lib document' profile = .ok snapshot' ∧ snapshot'.pricingSource = snapshot.pricingSource := by
  simp only [providerProfileSnapshot, bind_ok, okOr_ok, mapError_ok, fromParts_ok] at h
  obtain ⟨definition, hget, template, htemplate, pricingSource, hpricing, hid, htext, hcredential, origin, horigin, hallow, _, hresponses,
    _, hchat, _, hmessages, _, hmodels, hdialects, rfl⟩ := h
  have hrel := hsame.profiles profile
  rw [hget] at hrel
  generalize hget' : document'.providers.get profile = found at hrel
  cases hrel with
  | @some _ definition' hprofile =>
    obtain ⟨hresponsesText, hchatText, hmessagesText, hmodelsText⟩ := hlayer.route hget'
    obtain ⟨responses', hresponses'⟩ := normalizeOptionalRoute_same hprofile.responses hresponsesText hresponses
    obtain ⟨chat', hchat'⟩ := normalizeOptionalRoute_same hprofile.chatCompletions hchatText hchat
    obtain ⟨messages', hmessages'⟩ := normalizeOptionalRoute_same hprofile.messages hmessagesText hmessages
    obtain ⟨models', hmodels'⟩ := normalizeOptionalRoute_same hprofile.models hmodelsText hmodels
    have hrest := hprofile.rest
    generalize definition'.routes = routes at hresponses' hchat' hmessages' hmodels' hrest
    subst hrest
    refine ⟨⟨profile, template, definition.credential, origin, responses', chat', messages', models',
      collectDialects definition.effectiveDialects, pricingSource, definition.allowInsecureLoopback.getD false⟩, ?_, rfl⟩
    simp only [providerProfileSnapshot, bind_ok, okOr_ok, mapError_ok, fromParts_ok]
    exact ⟨_, hget', template, htemplate, pricingSource, hpricing, hid, htext, hcredential, origin, horigin, hallow, _, hresponses',
      _, hchat', _, hmessages', _, hmodels', hdialects, rfl⟩

theorem contains_same (hsame : SameDocument document document') (id : String) :
    document'.providers.contains id = document.providers.contains id := by
  have hrel := hsame.profiles id
  rw [OrdMap.contains, OrdMap.contains]
  generalize document.providers.get id = found at hrel
  generalize document'.providers.get id = found' at hrel
  cases hrel <;> rfl

/-- A profile under the same id, with other routes. -/
theorem SameDocument.profile (hsame : SameDocument document document') {id : String} {profile : ProviderProfileLayer}
    (hget : document.providers.get id = some profile) :
    ∃ routes, document'.providers.get id = some { profile with routes := routes } := by
  have hrel := hsame.profiles id
  rw [hget] at hrel
  generalize document'.providers.get id = found' at hrel
  cases hrel with
  | some hprofile => exact ⟨_, congrArg some hprofile.rest⟩

theorem SameDocument.profile' (hsame : SameDocument document document') {id : String} {profile' : ProviderProfileLayer}
    (hget : document'.providers.get id = some profile') :
    ∃ profile routes, document.providers.get id = some profile ∧ profile' = { profile with routes := routes } := by
  have hrel := hsame.profiles id
  rw [hget] at hrel
  generalize hfound : document.providers.get id = found at hrel
  cases hrel with
  | some hprofile => exact ⟨_, _, rfl, hprofile.rest⟩

theorem resolvePriceSchedule_same (hsame : SameDocument document document') (hlayer : document'.ValidLayer) {id : String}
    {layer : PriceScheduleLayer} {schedule : PriceSchedule} (h : resolvePriceSchedule lib document id layer = .ok schedule) :
    resolvePriceSchedule lib document' id layer = .ok schedule := by
  simp only [resolvePriceSchedule, bind_ok, exists_unit, okOr_ok, require_ok] at h ⊢
  obtain ⟨provider, hprovider, hid, profile, hget, source, hsource, hmanual, snapshot, hsnapshot, hpricing, htemplate, hrest⟩ := h
  obtain ⟨routes, hget'⟩ := hsame.profile hget
  obtain ⟨snapshot', hsnapshot', hpricing'⟩ := snapshot_same hsame hlayer hsnapshot
  exact ⟨provider, hprovider, hid, _, hget', source, hsource, hmanual, snapshot', hsnapshot', hpricing'.trans hpricing, htemplate, hrest⟩

theorem resolvePriceScheduleBook_same (hsame : SameDocument document document') (hlayer : document'.ValidLayer) {book : PriceScheduleBook}
    (h : resolvePriceScheduleBook lib document = .ok book) : resolvePriceScheduleBook lib document' = .ok book := by
  simp only [resolvePriceScheduleBook, bind_ok] at h ⊢
  obtain ⟨schedules, hschedules, release, hrelease, hbook⟩ := h
  have hentries : document'.priceSchedules = document.priceSchedules := by rw [hsame.rest]
  refine ⟨schedules, ?_, release, ?_, hbook⟩
  · rw [hentries]
    exact (mapM_ok _).mpr (((mapM_ok _).mp hschedules).imp fun _ _ hok => resolvePriceSchedule_same hsame hlayer hok)
  · rw [← hrelease]
    refine (mapM_congr ((OrdMap.entries_rel hsame.profiles).imp ?_)).symm
    intro entry entry' ⟨hid, hprofile⟩
    rw [hid, hprofile.rest]
    rfl

theorem validatePreset_same (hsame : SameDocument document document') {id : String} {preset : ModelPresetLayer}
    (h : validatePreset document id preset = .ok ()) : validatePreset document' id preset = .ok () := by
  have hpresets : document'.modelPresets = document.modelPresets := by rw [hsame.rest]
  simp only [validatePreset, validateStarter, validateFallback, bind_ok, exists_unit, okOr_ok, require_ok, option_forM_ok, forM_ok,
    contains_same hsame, hpresets] at h ⊢
  obtain ⟨provider, hprovider, hknown, hmodel, hdialect, hstarter, hfallbacks⟩ := h
  refine ⟨provider, hprovider, hknown, hmodel, hdialect, fun starter hread => ?_, hfallbacks⟩
  obtain ⟨provenance, hprovenance, accepted, haccepted, profile, hget, hmatch⟩ := hstarter starter hread
  obtain ⟨routes, hget'⟩ := hsame.profile hget
  exact ⟨provenance, hprovenance, accepted, haccepted, _, hget', hmatch⟩

/-- The fallbacks are the same, so each walk of them is. -/
theorem validateFallbackCycles_presets (hpresets : document'.modelPresets = document.modelPresets) :
    validateFallbackCycles document' = validateFallbackCycles document := by
  have hfallbacks : ∀ id, document'.fallbacksOf id = document.fallbacksOf id := fun id => by
    rw [ConfigDocument.fallbacksOf, ConfigDocument.fallbacksOf, hpresets]
  have hvisit : ∀ root fuel, visitFallbacks document' root fuel = visitFallbacks document root fuel := by
    intro root fuel
    induction fuel with
    | zero => rfl
    | succ fuel ih =>
      funext current active complete
      simp only [visitFallbacks, hfallbacks, ih]
  have hcollect : ∀ fuel, collectFallbacks document' fuel = collectFallbacks document fuel := by
    intro fuel
    induction fuel with
    | zero => rfl
    | succ fuel ih =>
      funext current seen
      simp only [collectFallbacks, hfallbacks, ih]
  simp only [validateFallbackCycles, hpresets, hvisit, hcollect]

theorem validateFallbackCycles_same (hsame : SameDocument document document') :
    validateFallbackCycles document' = validateFallbackCycles document :=
  validateFallbackCycles_presets (by rw [hsame.rest])

/-- What is checked of an effective document does not depend on how its routes are written. -/
theorem Effective.same (h : Effective lib document) (hsame : SameDocument document document') (hlayer : document'.ValidLayer) :
    Effective lib document' where
  layer := hlayer
  bootstrap := by rw [hsame.rest]; exact h.bootstrap
  selected := by
    intro profile hprofile
    rw [contains_same hsame]
    rw [hsame.rest] at hprofile
    exact h.selected profile hprofile
  profiles := by
    intro id profile' hget'
    obtain ⟨profile, routes, hget, rfl⟩ := hsame.profile' hget'
    exact h.profiles id profile hget
  prices := h.prices.imp fun _ hbook => resolvePriceScheduleBook_same hsame hlayer hbook
  presets := by
    intro id preset hget
    rw [hsame.rest] at hget
    exact validatePreset_same hsame (h.presets id preset hget)
  default := by rw [hsame.rest]; exact h.default
  cycles := by rw [validateFallbackCycles_same hsame]; exact h.cycles
  few := by rw [hsame.rest]; exact h.few
  windows := by rw [hsame.rest]; exact h.windows
  primary := by rw [hsame.rest]; exact h.primary
  custom := by rw [hsame.rest]; exact h.custom

theorem Resolves.same {builtIn user user' project project' cli : ConfigDocument} (h : Resolves lib builtIn user project cli)
    (huser : SameDocument user user') (hproject : SameDocument project project') (huserLayer : user'.ValidLayer)
    (hprojectLayer : project'.ValidLayer) : Resolves lib builtIn user' project' cli where
  builtInLayer := h.builtInLayer
  userLayer := huserLayer
  projectLayer := hprojectLayer
  cliLayer := h.cliLayer
  effective := h.effective.same (.merge huser hproject)
    (((h.builtInLayer.mergeFrom huserLayer).mergeFrom hprojectLayer).mergeFrom h.cliLayer)
  layers := by rw [huser.rest, hproject.rest]; exact h.layers

end Acceptance

end GreenTyper.Config
