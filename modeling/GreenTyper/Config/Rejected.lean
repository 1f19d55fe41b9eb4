/-
  GreenTyper.Config.Rejected — what an edit that is refused leaves behind.

  `set` changes the document first and checks it afterwards, so a value that its field or
  the layer refuses stays, and a text that a parser refuses leaves the object that was made
  for it. An edit that ends in an error leaves the draft as it was exactly if it is safe
  (`rejected_edit_unchanged`); a reset always does.

  The routes of a draft are settled: parsing a layer settles them, and no edit, also one
  that fails, writes another (`parse_routed`, `set_routed`, `reset_routed`).
-/

import GreenTyper.Config.Assign

namespace GreenTyper.Config

open Lib Provider Usage

namespace ConfigDocument

/-! ## Settled routes -/

structure Routed (d : ConfigDocument) : Prop where
  plain : d.PlainIds
  settled : ∀ field ∈ d.fields, Settled field

variable {d d' : ConfigDocument} {path name : String} {value : ConfigValue} {scope : ConfigScope} {names : List String}
  {location : Location} {setter : Setter location.Record} {resetter : Resetter location.Record}

theorem Rewrites.routed {v : Option ConfigValue} (h : d.Rewrites d' path v) (hd : d.Routed) (hv : ∀ w, v = some w → Settled (path, w)) :
    d'.Routed := by
  refine ⟨h.plain, fun field hfield => ?_⟩
  obtain ⟨other, w⟩ := field
  by_cases hother : other = path
  · subst hother
    exact hv w ((h.self w).mp hfield)
  · exact hd.settled _ ((h.others other w hother).mp hfield)

theorem each_of_normalized {id : String} {profile : ProviderProfileLayer} (h : profile.normalizeRoutes id = .ok profile) :
    profile.routes.Each SettledRoute := by
  obtain ⟨responses, hresponses, chat, hchat, messages, hmessages, models, hmodels, hsame⟩ := normalizeProfile_ok.mp h
  have hroutes : profile.routes = ⟨responses, chat, messages, models⟩ := congrArg ProviderProfileLayer.routes hsame
  have hsettled : ∀ {path : String} {route : Option String}, transpose (route.map (normalizeRoute path)) = .ok route →
      ∀ text, route = some text → SettledRoute text := by
    intro path route hok text htext
    rcases transposeRoute_ok.mp hok with ⟨hnone, _⟩ | ⟨text', text'', hsome, hnormal, hsome'⟩
    · rw [hnone] at htext
      cases htext
    · rw [hsome] at htext hsome'
      cases htext
      cases hsome'
      obtain ⟨_, hroute, htext⟩ := normalizeRoute_ok.mp hnormal
      exact ⟨hroute, htext.symm⟩
  rw [hroutes] at hresponses hchat hmessages hmodels ⊢
  exact ⟨hsettled hresponses, hsettled hchat, hsettled hmessages, hsettled hmodels⟩

/-- The fields of a profile that are under its routes. -/
theorem route_of_field {profile : ProviderProfileLayer} {rest route text : String} {p : String → Prop} (h : profile.routes.Each p)
    (hfield : (rest, .string text) ∈ present ProviderProfileLayer.fields profile) (hrest : segments rest = ["routes", route]) : p text := by
  have hnodup : (ProviderProfileLayer.fields.map (·.1)).Nodup := by decide
  have hnames : ∀ name ∈ ProviderProfileLayer.fields.map (·.1), (segments name).head? = some "routes" →
      name = "routes.responses" ∨ name = "routes.chat_completions" ∨ name = "routes.messages" ∨ name = "routes.models" := by decide
  have hread : ∀ {read : ProviderProfileLayer → Option String}, Config.text read profile = some (.string text) → read profile = some text := by
    intro read hsome
    obtain ⟨t, ht, heq⟩ := Option.map_eq_some_iff.mp hsome
    cases heq
    exact ht
  obtain ⟨read, hmem, _⟩ := mem_present.mp hfield
  rcases hnames rest (List.mem_map_of_mem hmem) (by rw [hrest]; rfl) with rfl | rfl | rfl | rfl
  · exact h.1 text (hread ((mem_present_lookup hnodup rfl).mp hfield))
  · exact h.2.1 text (hread ((mem_present_lookup hnodup rfl).mp hfield))
  · exact h.2.2.1 text (hread ((mem_present_lookup hnodup rfl).mp hfield))
  · exact h.2.2.2 text (hread ((mem_present_lookup hnodup rfl).mp hfield))

/-- Where the routes normalize to themselves they are settled. -/
theorem routed_of_normalized (hd : d.PlainIds) (h : d.normalizeRoutes = .ok d) : d.Routed := by
  obtain ⟨providers, hmap, hsame⟩ := normalizeRoutes_ok.mp h
  have hproviders : providers = d.providers := (congrArg ConfigDocument.providers hsame).symm
  subst hproviders
  refine ⟨hd, fun field hfield id route text hpath htext => ?_⟩
  obtain ⟨path, value⟩ := field
  obtain ⟨location, rest, ⟨record, hfind, hrest⟩, rfl⟩ := (mem_fields_iff hd.distinct).mp hfield
  have hpath : location.names ++ segments rest = ["providers", id, "routes", route] :=
    (Location.segments_stem (Location.plain_of_find hd hfind) rest).symm.trans hpath
  cases location with
  | profile id' =>
    simp only [Location.names, List.cons_append, List.nil_append, List.cons.injEq, true_and] at hpath
    have hget : d.providers.get id' = some record := hfind
    rcases OrdMap.get_mapM hmap id' with ⟨hnone, _⟩ | ⟨profile, profile', hprofile, hnormal, hprofile'⟩
    · rw [hget] at hnone
      cases hnone
    · rw [hget] at hprofile hprofile'
      cases hprofile
      cases hprofile'
      have htext : value = .string text := htext
      exact route_of_field (each_of_normalized hnormal) (htext ▸ hrest) hpath.2
  | _ => simp [Location.names] at hpath

theorem empty_routed : empty.Routed := routed_of_normalized (by constructor <;> decide) (by decide)

/-- The document of a parsed layer. -/
theorem parse_routed {lib : RuntimeLibrary} {input : String} (h : ConfigDocument.parse lib input = .ok d) : d.ValidLayer ∧ d.Routed := by
  simp only [ConfigDocument.parse, bind_ok, exists_unit, pure, Except.pure, Except.ok.injEq] at h
  obtain ⟨_, parsed, _, migrated, _, normalized, hnormal, hvalid, rfl⟩ := h
  have hlayer := validateLayer_ok.mp hvalid
  exact ⟨hlayer, routed_of_normalized hlayer.plainIds (normalizeRoutes_again hnormal hlayer)⟩

/-! ## Valid values -/

/-- The layer lets the value stand at the path. -/
def Allowed (path : String) (value : ConfigValue) : Prop :=
  validateField (path, value) = .ok () ∧ (path = "agent.default_model_preset" → ∀ id, value = .string id → IdText id)

theorem default_field (hd : d.PlainIds) {id : String} :
    ("agent.default_model_preset", .string id) ∈ d.fields ↔ d.agent.defaultModelPreset = some id := by
  have hfield : (dotted Location.agent.stem "default_model_preset", ConfigValue.string id) ∈ (Location.agent.place.put d d.agent).fields ↔
      ("default_model_preset", ConfigValue.string id) ∈ present AgentLayer.fields d.agent :=
    Location.mem_fields_put hd (fun _ h => by cases h) trivial
  refine hfield.trans ?_
  rw [mem_present_lookup (by decide) rfl, Config.text, Option.map_eq_some_iff]
  simp

theorem Field.agent {setter : Setter AgentLayer} {resetter : Resetter AgentLayer} (h : Field path .agent name setter resetter) :
    path = "agent.default_model_preset" := by
  have hname : name = "default_model_preset" := by
    have hmem := mem_of_lookup h.set
    simp only [Location.setters, AgentLayer.setters, List.mem_singleton, Prod.mk.injEq] at hmem
    exact hmem.1
  rw [h.located.path_eq, hname]
  rfl

/-- A valid layer stays valid exactly if what its field gets may stand there. -/
theorem valid_put_iff (hvalid : d.ValidLayer) (h : Field path location name setter resetter) {record : location.Record}
    {v : Option ConfigValue} (hwrites : Writes location.fields name (d.base location) record v)
    (hkept : location.kept record = location.kept (d.base location)) :
    (location.place.put d record).ValidLayer ↔ ∀ w, v = some w → Allowed path w := by
  have hrewrites := rewrites_put hvalid.plainIds h.located hwrites hkept
  constructor
  · intro hput w hw
    have hfield := (hrewrites.self w).mpr hw
    refine ⟨hput.fields _ hfield, fun hpath id hid => ?_⟩
    rw [hpath, hid] at hfield
    exact hput.default id ((default_field hput.plainIds).mp hfield)
  · intro hallowed
    refine Location.valid_put hvalid h.located.id (Location.own_kept hkept (own_base d location)) ?_ fun field hfield => ?_
    · by_cases hagent : location = .agent
      · subst hagent
        intro id hid
        have hpath := h.agent
        have hfield := (default_field hrewrites.plain).mpr hid
        rw [← hpath] at hfield
        exact (hallowed _ ((hrewrites.self _).mp hfield)).2 hpath id rfl
      · exact Location.sound_kept hkept (sound_base hvalid location) hagent
    · obtain ⟨other, w⟩ := field
      by_cases hother : other = path
      · subst hother
        exact (hallowed w ((hrewrites.self w).mp hfield)).1
      · exact hvalid.fields _ ((hrewrites.others other w hother).mp hfield)

/-! ## What `set` does -/

/-- A readable value is put in its field, and `set` succeeds exactly if it may stand there. -/
structure Stored (d : ConfigDocument) (scope : ConfigScope) (path : String) (value : ConfigValue) (location : Location) (name : String)
    (resetter : Resetter location.Record) (update : location.Record → location.Record) : Prop where
  field : Update location.fields name resetter update (normalForm path value)
  kept : ∀ record, location.kept (update record) = location.kept record
  document : (d.set scope path value).2 = location.place.put d (update (d.base location))
  ok : (d.set scope path value).1 = .ok () ↔ (location.place.put d (update (d.base location))).ValidLayer

/-- `set` stores a value that is readable; otherwise it is an error, and unless the value is read first the object
    that would hold it is made. -/
theorem set_cases (hd : d.Routed) (hcheck : checkSet scope path value = .ok (segments path))
    (h : Field path location name setter resetter) (hkind : setter.kind = value.kind) :
    (Readable path value ∧ ∃ update, setter.write path value = .ok update ∧ Stored d scope path value location name resetter update) ∨
      ¬ Readable path value ∧ ∃ e, d.set scope path value =
        (.error e, if readFirst path then d else location.place.put d (d.base location)) := by
  rcases h.wired.write location.fields_nodup rfl hkind with ⟨hreadable, update, hwrite, hupdate⟩ | ⟨hunreadable, e, hwrite⟩
  · refine Or.inl ⟨hreadable, update, hwrite, ?_⟩
    have hkept := h.kept_update hwrite
    have hrewrites := rewrites_put hd.plain h.located (hupdate.writes _) (hkept (d.base location))
    have hrouted := hrewrites.routed hd fun w hw => Option.some.inj hw ▸ settled_normalForm hreadable
    obtain ⟨result, hresult, hok⟩ := normalizeInPlace_settled hrouted.plain hrouted.settled
    cases result with
    | error e =>
      have hset : d.set scope path value = (.error e, location.place.put d (update (d.base location))) := by
        simp only [ConfigDocument.set, hcheck, h.assign, hwrite, hresult]
      refine ⟨hupdate, hkept, by rw [hset], ?_⟩
      rw [hset]
      refine ⟨fun herror => ?_, fun hvalid => ?_⟩
      · cases herror
      · cases hok hvalid
    | ok _ =>
      have hset : d.set scope path value =
          ((location.place.put d (update (d.base location))).validateLayer, location.place.put d (update (d.base location))) := by
        simp only [ConfigDocument.set, hcheck, h.assign, hwrite, hresult]
      refine ⟨hupdate, hkept, by rw [hset], ?_⟩
      rw [hset]
      exact validateLayer_ok
  · refine Or.inr ⟨hunreadable, e, ?_⟩
    simp only [ConfigDocument.set, hcheck, h.assign, hwrite, h.wired.order rfl]
    cases readFirst path <;> rfl

/-- No edit writes a route that is not settled, not even one that fails. -/
theorem set_routed (hd : d.Routed) (scope : ConfigScope) (path : String) (value : ConfigValue) : (d.set scope path value).2.Routed := by
  cases hcheck : checkSet scope path value with
  | error e => simpa only [ConfigDocument.set, hcheck] using hd
  | ok names =>
    obtain ⟨rfl, location, name, setter, resetter, h, hkind⟩ := checkSet_field hcheck
    rcases set_cases hd hcheck h hkind with ⟨hreadable, update, _, hstored⟩ | ⟨_, e, hset⟩
    · rw [hstored.document]
      refine (rewrites_put hd.plain h.located (hstored.field.writes _) (hstored.kept _)).routed hd fun w hw => ?_
      exact Option.some.inj hw ▸ settled_normalForm hreadable
    · rw [hset]
      by_cases hfirst : readFirst path = true
      · simpa only [hfirst, if_true] using hd
      · simp only [hfirst, Bool.false_eq_true, if_false]
        refine ⟨Location.plainIds_put hd.plain h.located.plain (own_base d location), fun field hfield => ?_⟩
        exact hd.settled field ((mem_fields_base hd.plain h.located.plain).mp hfield)

/-! ## What `reset` does -/

theorem checkReset_field (hcheck : (do let _ ← checkPath scope path; splitPath path) = .ok names) :
    names = segments path ∧ ∃ location name setter resetter, Field path location name setter resetter := by
  obtain ⟨descriptor, hpath, hsplit⟩ := bind_ok.mp hcheck
  obtain ⟨location, name, setter, resetter, h, _⟩ := checkPath_field hpath
  exact ⟨splitPath_ok hsplit, location, name, setter, resetter, h⟩

theorem reset_cases (hcheck : (do let _ ← checkPath scope path; splitPath path) = .ok (segments path))
    (h : Field path location name setter resetter) : d.reset scope path =
      match location.place.find d with
      | none => if resetter.endsAbsent then (.ok (), d) else (d.pruneEmpty.validateLayer, d.pruneEmpty)
      | some record =>
        ((location.place.put d (resetter.clear record)).pruneEmpty.validateLayer, (location.place.put d (resetter.clear record)).pruneEmpty) := by
  simp only [ConfigDocument.reset, hcheck, h.clear]
  cases location.place.find d with
  | some record => rfl
  | none => cases resetter.endsAbsent <;> rfl

/-- Clearing a field of a valid layer, and pruning, leave one. -/
theorem valid_clear (hvalid : d.ValidLayer) (h : Field path location name setter resetter) :
    (location.place.put d (resetter.clear (d.base location))).pruneEmpty.ValidLayer := by
  have hwrites := h.wired.clear location.fields_nodup (d.base location)
  exact valid_prune ((valid_put_iff hvalid h hwrites (h.kept_clear _)).mpr fun w hw => by cases hw)

theorem reset_ok (hvalid : d.ValidLayer) (hcheck : (do let _ ← checkPath scope path; splitPath path) = .ok names) :
    (d.reset scope path).1 = .ok () := by
  obtain ⟨rfl, location, name, setter, resetter, h⟩ := checkReset_field hcheck
  rw [reset_cases hcheck h]
  cases hfind : location.place.find d with
  | none =>
    cases resetter.endsAbsent with
    | true => rfl
    | false => exact validateLayer_ok.mpr (valid_prune hvalid)
  | some record =>
    have hbase : d.base location = record := by rw [base, hfind]; rfl
    exact validateLayer_ok.mpr (hbase ▸ valid_clear hvalid h)

theorem prune_routed (hd : d.Routed) : d.pruneEmpty.Routed :=
  ⟨plainIds_prune hd.plain, fun field hfield => hd.settled field ((mem_fields_prune hd.plain).mp hfield)⟩

theorem reset_routed (hd : d.Routed) (scope : ConfigScope) (path : String) : (d.reset scope path).2.Routed := by
  cases hcheck : (do let _ ← checkPath scope path; splitPath path) with
  | error e => simpa only [ConfigDocument.reset, hcheck] using hd
  | ok names =>
    obtain ⟨rfl, location, name, setter, resetter, h⟩ := checkReset_field hcheck
    rw [reset_cases hcheck h]
    cases hfind : location.place.find d with
    | none =>
      cases resetter.endsAbsent with
      | true => exact hd
      | false => exact prune_routed hd
    | some record =>
      have hbase : d.base location = record := by rw [base, hfind]; rfl
      have hwrites := h.wired.clear location.fields_nodup (d.base location)
      rw [← hbase]
      exact prune_routed ((rewrites_put hd.plain h.located hwrites (h.kept_clear _)).routed hd fun w hw => by cases hw)

/-! ## Refused edits -/

/-- The object that the field at the path belongs to is there. -/
def HasObject (d : ConfigDocument) (path : String) : Prop :=
  ∃ location name, locate (segments path) = some (location, name) ∧ location.place.find d ≠ none

/-- Where the edit gets past the checks of the path, the kind and the scope: a value that is read is one that may
    stand in its field, and one that is not read is read before its object is made, or the object is there. -/
def SafeSet (d : ConfigDocument) (scope : ConfigScope) (path : String) (value : ConfigValue) : Prop :=
  ∀ names, checkSet scope path value = .ok names →
    (Readable path value → Allowed path (normalForm path value)) ∧
      (¬ Readable path value → readFirst path = true ∨ d.HasObject path)

theorem put_base_eq : location.place.put d (d.base location) = d ↔ location.place.find d ≠ none := by
  constructor
  · intro hsame hnone
    have hfind := Location.find_put (d := d) (own_base d location)
    rw [hsame, hnone] at hfind
    cases hfind
  · intro hfind
    obtain ⟨record, hrecord⟩ := Option.ne_none_iff_exists'.mp hfind
    rw [base, hrecord]
    exact Location.put_find hrecord

/-- A refused `set` leaves the document as it was exactly if it is safe. -/
theorem set_unchanged_iff (hvalid : d.ValidLayer) (hd : d.Routed) (scope : ConfigScope) (path : String) (value : ConfigValue) :
    (∀ e, (d.set scope path value).1 = .error e → (d.set scope path value).2 = d) ↔ d.SafeSet scope path value := by
  cases hcheck : checkSet scope path value with
  | error e =>
    have hset : d.set scope path value = (.error e, d) := by simp only [ConfigDocument.set, hcheck]
    refine ⟨fun _ names hnames => ?_, fun _ _ _ => by rw [hset]⟩
    rw [hcheck] at hnames
    cases hnames
  | ok names =>
    obtain ⟨rfl, location, name, setter, resetter, h, hkind⟩ := checkSet_field hcheck
    rcases set_cases hd hcheck h hkind with ⟨hreadable, update, _, hstored⟩ | ⟨hunreadable, e, hset⟩
    · have hallowed : (location.place.put d (update (d.base location))).ValidLayer ↔ Allowed path (normalForm path value) := by
        rw [valid_put_iff hvalid h (hstored.field.writes _) (hstored.kept _)]
        exact ⟨fun hall => hall _ rfl, fun hone w hw => Option.some.inj hw ▸ hone⟩
      constructor
      · intro hunchanged names' _
        refine ⟨fun _ => ?_, fun hnot => absurd hreadable hnot⟩
        cases hresult : (d.set scope path value).1 with
        | ok _ => exact hallowed.mp (hstored.ok.mp hresult)
        | error e =>
          -- The value would be in a document that is valid, as the one before it is.
          have hsame := hunchanged e hresult
          rw [hstored.document] at hsame
          exact hallowed.mp (hsame.symm ▸ hvalid)
      · intro hsafe e herror
        have hok := hstored.ok.mpr (hallowed.mpr ((hsafe _ hcheck).1 hreadable))
        rw [hok] at herror
        cases herror
    · have hunchanged : (if readFirst path then d else location.place.put d (d.base location)) = d ↔
          readFirst path = true ∨ d.HasObject path := by
        have hobject : d.HasObject path ↔ location.place.find d ≠ none := by
          constructor
          · intro hhas
            obtain ⟨location', name', hfound, hfind⟩ := hhas
            rw [h.located.found] at hfound
            cases hfound
            exact hfind
          · exact fun hfind => ⟨location, name, h.located.found, hfind⟩
        by_cases hfirst : readFirst path = true
        · simp [hfirst]
        · simp [hfirst, hobject, put_base_eq]
      rw [hset]
      constructor
      · intro hall names' _
        exact ⟨fun hreadable => absurd hreadable hunreadable, fun _ => hunchanged.mp (hall e rfl)⟩
      · intro hsafe _ _
        exact hunchanged.mpr ((hsafe _ hcheck).2 hunreadable)

theorem reset_unchanged (hvalid : d.ValidLayer) (scope : ConfigScope) (path : String) {e : ConfigRuntimeError}
    (h : (d.reset scope path).1 = .error e) : (d.reset scope path).2 = d := by
  cases hcheck : (do let _ ← checkPath scope path; splitPath path) with
  | error e => simp only [ConfigDocument.reset, hcheck]
  | ok names =>
    rw [reset_ok hvalid hcheck] at h
    cases h

end ConfigDocument

namespace ConfigDraft

/-- A refused edit leaves the draft as it was exactly if it is safe; a refused reset always does. -/
theorem rejected_edit_unchanged (listLiteral : String → Option (List String)) {draft : ConfigDraft} (hvalid : draft.document.ValidLayer)
    (hrouted : draft.document.Routed) (path : String) :
    (∀ value, (∀ e, (draft.set path value).1 = .error e → (draft.set path value).2 = draft) ↔
      draft.document.SafeSet draft.scope path value) ∧
    (∀ raw, (∀ e, (draft.setRaw listLiteral path raw).1 = .error e → (draft.setRaw listLiteral path raw).2 = draft) ↔
      ∀ value, parseConfigValue listLiteral path raw = .ok value → draft.document.SafeSet draft.scope path value) ∧
    ∀ e, (draft.reset path).1 = .error e → (draft.reset path).2 = draft := by
  have hdocument : ∀ d', { draft with document := d' } = draft ↔ d' = draft.document := by
    intro d'
    cases draft
    simp
  have hset : ∀ value, (∀ e, (draft.set path value).1 = .error e → (draft.set path value).2 = draft) ↔
      draft.document.SafeSet draft.scope path value := by
    intro value
    rw [← ConfigDocument.set_unchanged_iff hvalid hrouted]
    simp only [ConfigDraft.set, hdocument]
  refine ⟨hset, fun raw => ?_, fun e herror => ?_⟩
  · unfold setRaw
    cases hparse : parseConfigValue listLiteral path raw with
    | error e => simp
    | ok value =>
      simp only [Except.ok.injEq, forall_eq']
      exact hset value
  · exact (hdocument _).mpr (ConfigDocument.reset_unchanged hvalid draft.scope path herror)

theorem rejected_edit_unchanged_first :
    (∀ e, ((⟨.user, [], .empty⟩ : ConfigDraft).set "provider.model" (.string "")).1 = .error e →
      ((⟨.user, [], .empty⟩ : ConfigDraft).set "provider.model" (.string "")).2 = ⟨.user, [], .empty⟩) ↔
    ConfigDocument.empty.SafeSet .user "provider.model" (.string "") :=
  (rejected_edit_unchanged (fun _ => none) (ConfigDocument.validateLayer_ok.mp (by decide)) ConfigDocument.empty_routed "provider.model").1
    (.string "")

/-- A text that its field refuses stays in the field, and a list that is not read leaves an empty profile. -/
theorem a_rejected_value_stays : ConfigDocument.empty.validateLayer = .ok () ∧
    ((⟨.user, [], .empty⟩ : ConfigDraft).set "provider.model" (.string "")).1 =
      .error (invalid "provider.model" "value cannot be empty") ∧
    ((⟨.user, [], .empty⟩ : ConfigDraft).set "provider.model" (.string "")).2.document.provider.model = some "" ∧
    ((⟨.user, [], .empty⟩ : ConfigDraft).set "providers.local.dialects" (.stringList ["bad"])).1 =
      .error (invalid "providers.local.dialects" "unknown provider dialect") ∧
    ((⟨.user, [], .empty⟩ : ConfigDraft).set "providers.local.dialects" (.stringList ["bad"])).2.document.providers.get "local" =
      some .default := by
  decide +kernel

end ConfigDraft

end GreenTyper.Config
