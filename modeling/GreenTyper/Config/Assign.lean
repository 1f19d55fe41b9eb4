/-
  GreenTyper.Config.Assign — what one assignment of a field does to a document.

  The schema lets through only paths that name a field of a place (`checkPath_located`).
  An assignment there puts a record that differs in that field alone, or it reads no value
  and may leave an empty object (`assign_cases`). Where every route is settled, a walk that
  normalizes them in place changes none (`normalizeInPlace_settled`).
-/

import GreenTyper.Config.Places

namespace GreenTyper.Config

open Lib Provider Usage

/-! ## Paths that may be edited -/

/-- The path of a field at a place whose id is valid. -/
structure Located (path : String) (location : Location) (name : String) : Prop where
  found : locate (segments path) = some (location, name)
  names : segments path = location.names ++ segments name
  id : ∀ id, location.id? = some id → IdText id

namespace Located

variable {path name : String} {location : Location}

theorem plain (h : Located path location name) : location.Plain := fun id hid => (h.id id hid).noDot

theorem path_eq (h : Located path location name) : path = dotted location.stem name := by
  rw [← (segments_spec path).2.2, h.names, ← Location.segments_stem h.plain, (segments_spec _).2.2]

end Located

theorem pathMatches_iff {pattern path : List String} :
    pathMatches pattern path = true ↔ List.Forall₂ (fun expected actual => expected = "<id>" ∨ expected = actual) pattern path := by
  induction pattern generalizing path with
  | nil => cases path <;> simp [pathMatches]
  | cons expected pattern ih =>
    cases path with
    | nil => simp [pathMatches]
    | cons actual path =>
      rw [List.forall₂_cons, ← ih]
      simp only [pathMatches, List.length_cons, List.zip_cons_cons, List.all_cons, Bool.and_eq_true, beq_iff_eq, Bool.or_eq_true,
        Nat.add_right_cancel_iff]
      exact ⟨fun h => ⟨h.2.1, h.1, h.2.2⟩, fun h => ⟨h.2.1, h.1, h.2.2⟩⟩

theorem checkPath_ok {scope : ConfigScope} {path : String} {descriptor : ConfigSchemaEntry} :
    checkPath scope path = .ok descriptor ↔ requireSchemaEntry path = .ok descriptor ∧
      (scope.isWritable = true ∧ scope ∈ descriptor.scopes) ∧ descriptor.editor ≠ "starter_provenance" := by
  simp only [checkPath, bind_ok, exists_unit, requireScope, require_ok, pure, Except.pure, Except.ok.injEq]
  constructor
  · intro h
    obtain ⟨_, hentry, hscope, heditor, rfl⟩ := h
    exact ⟨hentry, hscope, heditor⟩
  · intro h
    exact ⟨_, h.1, h.2.1, h.2.2, rfl⟩

theorem requireSchemaEntry_ok {path : String} {descriptor : ConfigSchemaEntry} (h : requireSchemaEntry path = .ok descriptor) :
    descriptor ∈ configSchema ∧ pathMatches descriptor.pathPattern (segments path) = true ∧
      ∀ pair ∈ descriptor.pathPattern.zip (segments path), pair.1 = "<id>" → IdText pair.2 := by
  simp only [requireSchemaEntry, bind_ok, exists_unit, require_ok, okOr_ok, forM_ok, pure, Except.pure, Except.ok.injEq] at h
  obtain ⟨_, _, hfind, hids, rfl⟩ := h
  have hmatch := List.find?_some hfind
  refine ⟨List.mem_of_find?_eq_some hfind, hmatch, fun pair hpair hid => ?_⟩
  have := hids pair hpair
  simp only [hid, if_true] at this
  exact validateId_ok.mp this

/-- The names of a path that matches a pattern are those of a field, with a setter of the kind of the entry. -/
def EntryLocated (entry : ConfigSchemaEntry) : Prop :=
  entry.editor ≠ "starter_provenance" → ∀ names, List.Forall₂ (fun expected actual => expected = "<id>" ∨ expected = actual) entry.pathPattern names →
    (∀ pair ∈ entry.pathPattern.zip names, pair.1 = "<id>" → IdText pair.2) →
    ∃ location name setter, locate names = some (location, name) ∧ names = location.names ++ segments name ∧
      (∀ id, location.id? = some id → IdText id) ∧ location.setters.lookup name = some setter ∧ setter.kind = entry.valueKind

theorem schema_located : ∀ entry ∈ configSchema, EntryLocated entry := by
  simp only [configSchema, List.forall_mem_cons, List.not_mem_nil, false_implies, implies_true, and_true]
  and_intros
  all_goals
    intro heditor names hmatch hids
    simp [List.forall₂_cons_left_iff] at hmatch
    first
      | exact absurd rfl heditor
      | subst hmatch
        exact ⟨_, _, _, rfl, rfl, fun _ hid => (by cases hid), rfl, rfl⟩
      | obtain ⟨id, rfl⟩ := hmatch
        have hid : IdText id := hids ("<id>", id) (by simp) rfl
        exact ⟨_, _, _, rfl, rfl, fun _ h => Option.some.inj h ▸ hid, rfl, rfl⟩

/-- Every path that may be edited is that of a field, with a setter of the kind that the schema has. -/
theorem checkPath_located {scope : ConfigScope} {path : String} {descriptor : ConfigSchemaEntry}
    (h : checkPath scope path = .ok descriptor) : ∃ location name setter, Located path location name ∧
      location.setters.lookup name = some setter ∧ setter.kind = descriptor.valueKind := by
  obtain ⟨hentry, _, heditor⟩ := checkPath_ok.mp h
  obtain ⟨hmem, hmatch, hids⟩ := requireSchemaEntry_ok hentry
  obtain ⟨location, name, setter, hfound, hnames, hid, hsetter, hkind⟩ :=
    schema_located descriptor hmem heditor _ (pathMatches_iff.mp hmatch) hids
  exact ⟨location, name, setter, ⟨hfound, hnames, hid⟩, hsetter, hkind⟩

theorem checkSet_ok {scope : ConfigScope} {path : String} {value : ConfigValue} {names : List String} :
    checkSet scope path value = .ok names ↔ ∃ descriptor, checkPath scope path = .ok descriptor ∧
      descriptor.valueKind = value.kind ∧ splitPath path = .ok names := by
  simp only [checkSet, bind_ok, exists_unit, require_ok]

theorem splitPath_ok {path : String} {names : List String} (h : splitPath path = .ok names) : names = segments path := by
  simp only [splitPath, bind_ok, exists_unit, pure, Except.pure, Except.ok.injEq] at h
  exact h.2.symm

/-! ## What no edit changes -/

namespace Location

/-- The id of a window and the starter of a preset, which are not fields that may be edited. -/
def kept : (location : Location) → location.Record → Option String × Option ModelStarterLayer
  | .window _, w => (some w.id, none)
  | .preset _, p => (none, p.starter)
  | _, _ => (none, none)

variable {location : Location} {record record' : location.Record}

theorem own_kept (h : location.kept record' = location.kept record) (hown : location.Own record) : location.Own record' := by
  cases location with
  | window id => exact (Option.some.inj (congrArg Prod.fst h)).trans hown
  | _ => trivial

theorem sound_kept (h : location.kept record' = location.kept record) (hsound : location.Sound record)
    (hagent : location ≠ .agent) : location.Sound record' := by
  cases location with
  | agent => exact absurd rfl hagent
  | preset id =>
    intro starter hstarter
    have hsame : ModelPresetLayer.starter record' = ModelPresetLayer.starter record := congrArg Prod.snd h
    exact hsound starter (hsame ▸ hstarter)
  | _ => trivial

end Location

section Kept

variable {α γ κ : Type} {kept : α → κ} {put : α → Option γ → α} {take : String → ConfigValue → Except ConfigRuntimeError γ}

theorem store_ok {path : String} {value : ConfigValue} {update : α → α} (h : store take put path value = .ok update) :
    ∃ x, take path value = .ok x ∧ update = fun a => put a (some x) := by
  simp only [store, bind_ok, pure, Except.pure, Except.ok.injEq] at h
  obtain ⟨x, hx, rfl⟩ := h
  exact ⟨x, hx, rfl⟩

/-- The setter does not write what is kept. -/
def Setter.Keeps (kept : α → κ) (setter : Setter α) : Prop :=
  ∀ path value update, setter.write path value = .ok update → ∀ a, kept (update a) = kept a

theorem store_keeps {kind : ConfigValueKind} {entryFirst : Bool} (h : ∀ a x, kept (put a x) = kept a) :
    Setter.Keeps kept ⟨kind, entryFirst, store take put⟩ := by
  intro path value update hupdate a
  obtain ⟨x, _, rfl⟩ := store_ok hupdate
  exact h a (some x)

end Kept

theorem Location.setters_keep (location : Location) : ∀ row ∈ location.setters, row.2.Keeps location.kept := by
  cases location with
  | window id =>
    simp only [Location.setters, UsageWindowLayer.setters, List.forall_mem_cons, List.not_mem_nil, false_implies, implies_true, and_true]
    and_intros <;> exact store_keeps fun _ _ => rfl
  | preset id =>
    simp only [Location.setters, ModelPresetLayer.setters, List.forall_mem_cons, List.not_mem_nil, false_implies, implies_true, and_true]
    and_intros <;> exact store_keeps fun _ _ => rfl
  | _ => exact fun row _ path value update _ a => rfl

theorem Location.resetters_keep (location : Location) :
    ∀ row ∈ location.resetters, ∀ record, location.kept (row.2.clear record) = location.kept record := by
  cases location with
  | window id =>
    simp only [Location.resetters, UsageWindowLayer.resetters, List.forall_mem_cons, List.not_mem_nil, false_implies, implies_true, and_true]
    and_intros <;> exact fun _ => rfl
  | preset id =>
    simp only [Location.resetters, ModelPresetLayer.resetters, List.forall_mem_cons, List.not_mem_nil, false_implies, implies_true, and_true]
    and_intros <;> exact fun _ => rfl
  | _ => exact fun row _ record => rfl

/-! ## One field of a record -/

/-- The second record has the value under the name, and reads like the first under every other. -/
structure Writes {α : Type} (fields : Table α ConfigValue) (name : String) (a a' : α) (value : Option ConfigValue) : Prop where
  self : ∀ w, (name, w) ∈ present fields a' ↔ value = some w
  others : ∀ rest w, rest ≠ name → ((rest, w) ∈ present fields a' ↔ (rest, w) ∈ present fields a)

section Write

variable {α γ : Type} {fields : Table α ConfigValue} {names : List String} {name path : String} {value : ConfigValue}

theorem put_writes {get : α → Option γ} {put : α → Option γ → α} {give : γ → ConfigValue} (hnames : (fields.map (·.1)).Nodup) (cell : Cell get put)
    (field : ∃ read, fields.lookup name = some read ∧ ∀ a, read a = (get a).map give)
    (others : ∀ field ∈ fields, field.1 ≠ name → ∀ a x, field.2 (put a x) = field.2 a) (a : α) (x : Option γ) :
    Writes fields name a (put a x) (x.map give) := by
  obtain ⟨read, hlookup, hread⟩ := field
  refine ⟨fun w => ?_, fun rest w hrest => ?_⟩
  · rw [mem_present_lookup hnames hlookup, hread, cell.get_put]
  · rw [mem_present, mem_present]
    refine exists_congr fun read' => and_congr_right fun hmem => ?_
    have hread' : read' (put a x) = read' a := others _ hmem hrest a x
    rw [hread']

/-- What a readable value does to a record, and what resetting the field does after it. -/
structure Update (fields : Table α ConfigValue) (name : String) (resetter : Resetter α) (update : α → α) (value : ConfigValue) : Prop where
  writes : ∀ a, Writes fields name a (update a) (some value)
  again : ∀ a, update (update a) = update a
  undone : ∀ a, (∀ w, (name, w) ∉ present fields a) → resetter.clear (update a) = a

theorem Wired.write {setter : Setter α} {resetter : Resetter α} (h : Wired fields names name setter resetter)
    (hnames : (fields.map (·.1)).Nodup) (hpath : segments path = names) (hkind : setter.kind = value.kind) :
    (Readable path value ∧ ∃ update, setter.write path value = .ok update ∧ Update fields name resetter update (normalForm path value)) ∨
      ¬ Readable path value ∧ ∃ e, setter.write path value = .error e := by
  cases h with
  | @mk γ kind entryFirst endsAbsent take give get put cell field others taken order =>
    rcases taken path value hpath hkind.symm with ⟨x, htake, hreadable, hgive⟩ | ⟨⟨e, htake⟩, hunreadable⟩
    · refine Or.inl ⟨hreadable, fun a => put a (some x), ?_, ?_⟩
      · show store take put path value = _
        simp only [store, htake]
        rfl
      · refine ⟨fun a => ?_, fun a => cell.put_put a _ _, fun a habsent => ?_⟩
        · rw [← hgive]
          exact put_writes hnames cell field others a (some x)
        · -- The field was empty, so it is as it was when it is emptied again.
          obtain ⟨read, hlookup, hread⟩ := field
          have hempty : get a = none := by
            cases hget : get a with
            | none => rfl
            | some y => exact absurd ((mem_present_lookup hnames hlookup).mpr (by rw [hread, hget]; rfl)) (habsent (give y))
          show put (put a (some x)) none = a
          rw [cell.put_put, ← hempty, cell.put_get]
    · refine Or.inr ⟨hunreadable, e, ?_⟩
      show store take put path value = _
      simp only [store, htake]
      rfl

theorem Wired.clear {setter : Setter α} {resetter : Resetter α} (h : Wired fields names name setter resetter)
    (hnames : (fields.map (·.1)).Nodup) (a : α) : Writes fields name a (resetter.clear a) none := by
  cases h with
  | mk cell field others taken order => exact put_writes hnames cell field others a none

theorem Wired.order {setter : Setter α} {resetter : Resetter α} (h : Wired fields names name setter resetter)
    (hpath : segments path = names) : setter.entryFirst = !readFirst path := by
  cases h with
  | mk cell field others taken order => exact order path hpath

end Write

namespace Location

theorem row_wired {location : Location} {name : String} {setter : Setter location.Record} (h : location.setters.lookup name = some setter) :
    ∃ resetter, location.resetters.lookup name = some resetter ∧
      Wired location.fields (location.names ++ segments name) name setter resetter := by
  obtain ⟨resetter, hresetter, names, rfl, hwired⟩ := location.wired _ (mem_of_lookup h)
  exact ⟨resetter, hresetter, hwired⟩

end Location

/-! ## One field of a document -/

namespace ConfigDocument

/-- The second document has the value at the path, and reads like the first at every other. -/
structure Rewrites (d d' : ConfigDocument) (path : String) (value : Option ConfigValue) : Prop where
  plain : d'.PlainIds
  self : ∀ w, (path, w) ∈ d'.fields ↔ value = some w
  others : ∀ other w, other ≠ path → ((other, w) ∈ d'.fields ↔ (other, w) ∈ d.fields)

variable {d d' : ConfigDocument} {path name : String} {value : Option ConfigValue}

theorem Rewrites.flatten (h : d.Rewrites d' path value) (hd : d.PlainIds) :
    d'.flatten.get path = value ∧ ∀ other, other ≠ path → d'.flatten.get other = d.flatten.get other := by
  constructor
  · refine Option.ext fun w => ?_
    rw [get_flatten h.plain]
    exact h.self w
  · intro other hother
    refine Option.ext fun w => ?_
    rw [get_flatten h.plain, get_flatten hd]
    exact h.others other w hother

/-- The record at the place, or the one that is put there. -/
def base (d : ConfigDocument) (location : Location) : location.Record := (location.place.find d).getD location.place.default

theorem own_base (d : ConfigDocument) (location : Location) : location.Own (d.base location) := by
  unfold base
  cases hfind : location.place.find d with
  | none => exact Location.own_default
  | some record => exact Location.own_find hfind

theorem sound_base (h : d.ValidLayer) (location : Location) : location.Sound (d.base location) := by
  unfold base
  cases hfind : location.place.find d with
  | none => exact Location.sound_default
  | some record => exact Location.sound_find h hfind

theorem rewrites_put {location : Location} {record : location.Record} (hd : d.PlainIds) (hpath : Located path location name)
    (hwrites : Writes location.fields name (d.base location) record value) (hkept : location.kept record = location.kept (d.base location)) :
    d.Rewrites (location.place.put d record) path value := by
  have hown := Location.own_kept hkept (own_base d location)
  refine ⟨Location.plainIds_put hd hpath.plain hown, fun w => ?_, fun other w hother => ?_⟩
  · rw [hpath.path_eq, Location.mem_fields_put hd hpath.plain hown]
    exact hwrites.self w
  · refine Location.mem_fields_put_same hd hpath.plain hown fun rest hrest => ?_
    rw [hwrites.others rest w fun hname => hother (hrest.trans (hname ▸ hpath.path_eq.symm))]
    exact Location.holds_iff.symm

/-- Putting what is there, or an object with nothing set, changes no field. -/
theorem mem_fields_base {location : Location} {w : ConfigValue} (hd : d.PlainIds) (hplain : location.Plain) :
    (path, w) ∈ (location.place.put d (d.base location)).fields ↔ (path, w) ∈ d.fields :=
  Location.mem_fields_put_same hd hplain (own_base d location) fun _ _ => Location.holds_iff.symm

/-- The place of the path, and the setter and the resetter of its name there. -/
structure Field (path : String) (location : Location) (name : String) (setter : Setter location.Record)
    (resetter : Resetter location.Record) : Prop where
  located : Located path location name
  set : location.setters.lookup name = some setter
  reset : location.resetters.lookup name = some resetter
  wired : Wired location.fields (segments path) name setter resetter

end ConfigDocument

open ConfigDocument

theorem checkPath_field {scope : ConfigScope} {path : String} {descriptor : ConfigSchemaEntry}
    (h : checkPath scope path = .ok descriptor) :
    ∃ location name setter resetter, Field path location name setter resetter ∧ setter.kind = descriptor.valueKind := by
  obtain ⟨location, name, setter, hlocated, hsetter, hkind⟩ := checkPath_located h
  obtain ⟨resetter, hresetter, hwired⟩ := Location.row_wired hsetter
  rw [← hlocated.names] at hwired
  exact ⟨location, name, setter, resetter, ⟨hlocated, hsetter, hresetter, hwired⟩, hkind⟩

theorem checkSet_field {scope : ConfigScope} {path : String} {value : ConfigValue} {names : List String}
    (h : checkSet scope path value = .ok names) :
    names = segments path ∧ ∃ location name setter resetter, Field path location name setter resetter ∧ setter.kind = value.kind := by
  obtain ⟨descriptor, hcheck, hkind, hsplit⟩ := checkSet_ok.mp h
  obtain ⟨location, name, setter, resetter, hfield, hsetter⟩ := checkPath_field hcheck
  exact ⟨splitPath_ok hsplit, location, name, setter, resetter, hfield, hsetter.trans hkind⟩

namespace ConfigDocument

variable {location : Location} {v : ConfigValue} {setter : Setter location.Record} {resetter : Resetter location.Record}

theorem Field.assign (h : Field path location name setter resetter) (d : ConfigDocument) :
    d.assign (segments path) path v =
      match setter.write path v with
      | .error e => (.error e, if setter.entryFirst then location.place.put d (d.base location) else d)
      | .ok update => (.ok (), location.place.put d (update (d.base location))) := by
  have hid : location.checkId = .ok () := Location.checkId_ok.mpr h.located.id
  cases hwrite : setter.write path v <;> simp only [ConfigDocument.assign, h.located.found, hid, h.set, hwrite, base]

theorem Field.clear (h : Field path location name setter resetter) (d : ConfigDocument) :
    d.clear (segments path) path =
      match location.place.find d with
      | none => .ok (if resetter.endsAbsent then none else some d)
      | some record => .ok (some (location.place.put d (resetter.clear record))) := by
  simp only [ConfigDocument.clear, h.located.found, h.reset]
  cases location.place.find d <;> rfl

theorem Field.kept_update (h : Field path location name setter resetter) {update : location.Record → location.Record}
    (hwrite : setter.write path v = .ok update) (record : location.Record) : location.kept (update record) = location.kept record :=
  location.setters_keep _ (mem_of_lookup h.set) path v update hwrite record

theorem Field.kept_clear (h : Field path location name setter resetter) (record : location.Record) :
    location.kept (resetter.clear record) = location.kept record :=
  location.resetters_keep _ (mem_of_lookup h.reset) record

end ConfigDocument

/-! ## Routes in place -/

/-- A route as normalizing leaves it. -/
def SettledRoute (text : String) : Prop := PathRoute text ∧ "/" ++ trimStartMatches '/' text = text

/-- A field, if it is a route of a profile, is settled. -/
def Settled (field : String × ConfigValue) : Prop :=
  ∀ id route text, segments field.1 = ["providers", id, "routes", route] → field.2 = .string text → SettledRoute text

theorem settled_normalForm {path : String} {value : ConfigValue} (h : Readable path value) : Settled (path, normalForm path value) := by
  intro id route text hpath htext
  have hpath : segments path = ["providers", id, "routes", route] := hpath
  have htext : normalForm path value = .string text := htext
  rw [normalForm_at hpath] at htext
  cases value with
  | string raw =>
    obtain ⟨_, hnormal⟩ : ∃ route, normalizeRoute path raw = .ok route := (readable_at hpath).mp h
    cases htext
    exact ⟨(normalizeRoute_ok.mp hnormal).2.1.normalized, by rw [trimStart_slash]⟩
  | _ => cases htext

/-- A settled route is left as it is, and it is refused only if it is not valid text. -/
theorem normalizeRouteInPlace_settled (path : String) {route : Option String} (h : ∀ text, route = some text → SettledRoute text) :
    ∃ result, normalizeRouteInPlace path route = (result, route) ∧
      ((∀ text, route = some text → ProviderText maxConfigStringBytes text) → result = .ok ()) := by
  cases route with
  | none => exact ⟨_, rfl, fun _ => rfl⟩
  | some text =>
    obtain ⟨hroute, hsame⟩ := h text rfl
    cases hnormal : normalizeRoute path text with
    | error e =>
      refine ⟨.error e, by simp [normalizeRouteInPlace, hnormal], fun htext => ?_⟩
      rw [normalizeRoute_ok.mpr ⟨htext text rfl, hroute, rfl⟩] at hnormal
      cases hnormal
    | ok text' =>
      rw [(normalizeRoute_ok.mp hnormal).2.2, hsame] at hnormal
      exact ⟨.ok (), by simp [normalizeRouteInPlace, hnormal], fun _ => rfl⟩

/-- What holds of each route that is set. -/
def ProviderRoutesLayer.Each (p : String → Prop) (routes : ProviderRoutesLayer) : Prop :=
  (∀ text, routes.responses = some text → p text) ∧ (∀ text, routes.chatCompletions = some text → p text) ∧
    (∀ text, routes.messages = some text → p text) ∧ ∀ text, routes.models = some text → p text

theorem normalizeInPlace_routes (id : String) {routes : ProviderRoutesLayer} (h : routes.Each SettledRoute) :
    ∃ result, routes.normalizeInPlace id = (result, routes) ∧ (routes.Each (ProviderText maxConfigStringBytes) → result = .ok ()) := by
  obtain ⟨hresponses, hchat, hmessages, hmodels⟩ := h
  unfold ProviderRoutesLayer.normalizeInPlace
  obtain ⟨result, hresult, hok⟩ :=
    normalizeRouteInPlace_settled (dotted (dotted (dotted "providers" id) "routes") "responses") hresponses
  simp only [hresult]
  cases result with
  | error e => exact ⟨_, rfl, fun htext => hok htext.1⟩
  | ok _ =>
  obtain ⟨result, hresult, hok⟩ :=
    normalizeRouteInPlace_settled (dotted (dotted (dotted "providers" id) "routes") "chat_completions") hchat
  simp only [hresult]
  cases result with
  | error e => exact ⟨_, rfl, fun htext => hok htext.2.1⟩
  | ok _ =>
  obtain ⟨result, hresult, hok⟩ :=
    normalizeRouteInPlace_settled (dotted (dotted (dotted "providers" id) "routes") "messages") hmessages
  simp only [hresult]
  cases result with
  | error e => exact ⟨_, rfl, fun htext => hok htext.2.2.1⟩
  | ok _ =>
  obtain ⟨result, hresult, hok⟩ :=
    normalizeRouteInPlace_settled (dotted (dotted (dotted "providers" id) "routes") "models") hmodels
  simp only [hresult]
  cases result with
  | error e => exact ⟨_, rfl, fun htext => hok htext.2.2.2⟩
  | ok _ => exact ⟨_, rfl, fun _ => rfl⟩

theorem normalizeProfilesInPlace_settled {providers : OrdMap String ProviderProfileLayer} {profiles : List (String × ProviderProfileLayer)}
    (hmem : ∀ entry ∈ profiles, providers.get entry.1 = some entry.2) (h : ∀ entry ∈ profiles, entry.2.routes.Each SettledRoute) :
    ∃ result, normalizeProfilesInPlace providers profiles = (result, providers) ∧
      ((∀ entry ∈ profiles, entry.2.routes.Each (ProviderText maxConfigStringBytes)) → result = .ok ()) := by
  induction profiles with
  | nil => exact ⟨_, rfl, fun _ => rfl⟩
  | cons entry profiles ih =>
    obtain ⟨id, profile⟩ := entry
    have hsame : providers.insert id profile = providers := OrdMap.insert_get (hmem (id, profile) List.mem_cons_self)
    obtain ⟨result, hresult, hok⟩ := normalizeInPlace_routes id (h (id, profile) List.mem_cons_self)
    simp only at hresult hok
    cases result with
    | error e =>
      refine ⟨.error e, by simp only [normalizeProfilesInPlace, hresult, hsame], fun htext => ?_⟩
      exact hok (htext (id, profile) List.mem_cons_self)
    | ok _ =>
      obtain ⟨result', hresult', hok'⟩ :=
        ih (fun e he => hmem e (List.mem_cons_of_mem _ he)) fun e he => h e (List.mem_cons_of_mem _ he)
      refine ⟨result', ?_, fun htext => hok' fun e he => htext e (List.mem_cons_of_mem _ he)⟩
      simp only [normalizeProfilesInPlace, hresult, hsame, hresult']

namespace ConfigDocument

variable {d : ConfigDocument}

theorem settled_routes (hd : d.PlainIds) (h : ∀ field ∈ d.fields, Settled field) {id : String} {profile : ProviderProfileLayer}
    (hget : d.providers.get id = some profile) : profile.routes.Each SettledRoute := by
  have hid : NoDot id := hd.providers id (OrdMap.mem_keys.mpr ⟨profile, hget⟩)
  have hroute : ∀ (name route : String) (read : ProviderProfileLayer → Option String), (name, text read) ∈ ProviderProfileLayer.fields →
      segments name = ["routes", route] → ∀ text, read profile = some text → SettledRoute text := by
    intro name route read hname hsegments text hread
    refine h _ (profile_field hget hname (by rw [Config.text, hread]; rfl)) id route text ?_ rfl
    rw [segments_dotted (by decide), segments_dotted hid, hsegments]
  exact ⟨hroute "routes.responses" "responses" (·.routes.responses) (by simp [ProviderProfileLayer.fields]) (by decide),
    hroute "routes.chat_completions" "chat_completions" (·.routes.chatCompletions) (by simp [ProviderProfileLayer.fields]) (by decide),
    hroute "routes.messages" "messages" (·.routes.messages) (by simp [ProviderProfileLayer.fields]) (by decide),
    hroute "routes.models" "models" (·.routes.models) (by simp [ProviderProfileLayer.fields]) (by decide)⟩

/-- Normalizing settled routes in place changes no document, and a valid layer passes. -/
theorem normalizeInPlace_settled (hd : d.PlainIds) (h : ∀ field ∈ d.fields, Settled field) :
    ∃ result, d.normalizeInPlace = (result, d) ∧ (d.ValidLayer → result = .ok ()) := by
  have hget : ∀ entry ∈ d.providers.entries, d.providers.get entry.1 = some entry.2 := fun entry hentry => OrdMap.mem_entries.mp hentry
  obtain ⟨result, hresult, hok⟩ :=
    normalizeProfilesInPlace_settled hget fun entry hentry => settled_routes hd h (hget entry hentry)
  refine ⟨result, by simp only [normalizeInPlace, hresult], fun hvalid => hok fun entry hentry => ?_⟩
  exact hvalid.route (hget entry hentry)

end ConfigDocument

end GreenTyper.Config
