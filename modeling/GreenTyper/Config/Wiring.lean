/-
  GreenTyper.Config.Wiring — the three tables of a record's fields agree.

  A field that `set` writes is a cell of its record: what `put` puts there is got back, and
  flattening reads it under the same name and no other. Resetting it empties that cell. The
  tables of the setters, the resetters and the flattener are compared row by row
  (`Location.wired`), with what a value at the field's path is read as.
-/

import GreenTyper.Config.Edit
import GreenTyper.Config.Routes

namespace GreenTyper.Config

open Lib Provider Usage

/-! ## What a value is read as -/

/-- The parser of a path of these segments, if it has one, reads the value. -/
def ReadableAt (path : String) (names : List String) (value : ConfigValue) : Prop :=
  match names, value with
  | ["providers", _, "dialects"], .stringList texts => ∀ text ∈ texts, ∃ dialect, parseDialect path text = .ok dialect
  | ["providers", _, "routes", _], .string text => ∃ route, normalizeRoute path text = .ok route
  | ["providers", _, "catalog", "mode"], .string text => ∃ mode, parseCatalogMode path text = .ok mode
  | ["providers", _, "pricing", "source"], .string text => ∃ source, parsePricingSource path text = .ok source
  | ["model_presets", _, "dialect"], .string text => ∃ dialect, parseDialect path text = .ok dialect
  | ["price_schedules", _, "dialect"], .string text => ∃ dialect, parseDialect path text = .ok dialect
  | ["price_schedules", _, "source"], .string text => ∃ source, parsePriceScheduleSource path text = .ok source
  | ["ui", "statusline", "preset"], .string text => ∃ preset, parseStatuslinePreset path text = .ok preset
  | ["ui", "statusline", "expand"], .string text => ∃ expand, parseStatuslineExpansion path text = .ok expand
  | ["stats", "windows", _, "days"], .stringList texts => ∀ text ∈ texts, ∃ day, parseWeekday path text = .ok day
  | _, _ => True

def Readable (path : String) (value : ConfigValue) : Prop := ReadableAt path (segments path) value

def normalFormAt (names : List String) (value : ConfigValue) : ConfigValue :=
  match names, value with
  | ["providers", _, "routes", _], .string text => .string ("/" ++ trimStartMatches '/' text)
  | _, _ => value

/-- A route with one slash before it; any other value is kept as it is. -/
def normalForm (path : String) (value : ConfigValue) : ConfigValue := normalFormAt (segments path) value

def readFirstAt : List String → Bool
  | ["providers", _, _, _] => true
  | _ => false

/-- The paths whose values are read before an object is made: the routes of a profile, its
    catalog mode and its pricing source. -/
def readFirst (path : String) : Bool := readFirstAt (segments path)

section Paths

variable {path : String} {names : List String} {value : ConfigValue}

theorem readable_at (h : segments path = names) : Readable path value ↔ ReadableAt path names value := by rw [Readable, h]

theorem normalForm_at (h : segments path = names) : normalForm path value = normalFormAt names value := by rw [normalForm, h]

theorem readFirst_at (h : segments path = names) : readFirst path = readFirstAt names := by rw [readFirst, h]

end Paths

/-! ## Cells -/

section Cells

variable {α γ : Type}

/-- A cell of a record that may be empty. -/
structure Cell (get : α → Option γ) (put : α → Option γ → α) : Prop where
  get_put : ∀ a x, get (put a x) = x
  put_put : ∀ a x y, put (put a x) y = put a y
  put_get : ∀ a, put a (get a) = a

/-- A value is taken and given back in its normal form, or it is not readable. -/
def Taken (take : String → ConfigValue → Except ConfigRuntimeError γ) (give : γ → ConfigValue) (path : String) (value : ConfigValue) : Prop :=
  (∃ x, take path value = .ok x ∧ Readable path value ∧ give x = normalForm path value) ∨
    (∃ e, take path value = .error e) ∧ ¬ Readable path value

/-- A setter and a resetter of the cell that is read under `name`, at the path of these segments. -/
inductive Wired (fields : Table α ConfigValue) (names : List String) (name : String) : Setter α → Resetter α → Prop
  | mk {γ : Type} {kind : ConfigValueKind} {entryFirst endsAbsent : Bool} {take : String → ConfigValue → Except ConfigRuntimeError γ}
      {give : γ → ConfigValue} {get : α → Option γ} {put : α → Option γ → α} (cell : Cell get put)
      (field : ∃ read, fields.lookup name = some read ∧ ∀ a, read a = (get a).map give)
      (others : ∀ field ∈ fields, field.1 ≠ name → ∀ a x, field.2 (put a x) = field.2 a)
      (taken : ∀ path value, segments path = names → value.kind = kind → Taken take give path value)
      (order : ∀ path, segments path = names → entryFirst = !readFirst path) :
      Wired fields names name ⟨kind, entryFirst, store take put⟩ ⟨endsAbsent, fun a => put a none⟩

/-- The path has no parser of its own. -/
def Unparsed (path : String) : Prop := ∀ value, Readable path value ∧ normalForm path value = value

variable {fields : Table α ConfigValue} {names : List String} {name : String} {endsAbsent : Bool}

section Kinds

variable {get : α → Option γ} {put : α → Option γ → α}

theorem Wired.parsed {entryFirst : Bool} {parse : String → String → Except ConfigRuntimeError γ} {str : γ → String} (cell : Cell get put)
    (field : ∃ read, fields.lookup name = some read ∧ ∀ a, read a = ((get a).map str).map .string)
    (others : ∀ field ∈ fields, field.1 ≠ name → ∀ a x, field.2 (put a x) = field.2 a)
    (readable : ∀ path text, segments path = names → (Readable path (.string text) ↔ ∃ x, parse path text = .ok x))
    (form : ∀ path text x, segments path = names → parse path text = .ok x →
      normalForm path (.string text) = .string (str x))
    (order : ∀ path, segments path = names → entryFirst = !readFirst path) :
    Wired fields names name (setParsed entryFirst parse put) ⟨endsAbsent, fun a => put a none⟩ := by
  obtain ⟨read, hlookup, hread⟩ := field
  have hfield : ∃ read, fields.lookup name = some read ∧ ∀ a, read a = (get a).map fun x => .string (str x) :=
    ⟨read, hlookup, fun a => (hread a).trans (Option.map_map _ _ _)⟩
  refine .mk cell hfield others (fun path value hpath hkind => ?_) order
  cases value with
  | string text =>
    show Taken _ _ path (.string text)
    cases hparse : parse path text with
    | ok x => exact Or.inl ⟨x, hparse, (readable path text hpath).mpr ⟨x, hparse⟩, (form path text x hpath hparse).symm⟩
    | error e =>
      refine Or.inr ⟨⟨e, hparse⟩, fun hreadable => ?_⟩
      obtain ⟨x, hx⟩ := (readable path text hpath).mp hreadable
      rw [hparse] at hx
      cases hx
  | _ => cases hkind

theorem Wired.parsedList {get : α → Option (List γ)} {put : α → Option (List γ) → α} {parse : String → String → Except ConfigRuntimeError γ}
    {str : γ → String} (cell : Cell get put)
    (field : ∃ read, fields.lookup name = some read ∧ ∀ a, read a = ((get a).map fun xs => xs.map str).map .stringList)
    (others : ∀ field ∈ fields, field.1 ≠ name → ∀ a x, field.2 (put a x) = field.2 a)
    (readable : ∀ path texts, segments path = names →
      (Readable path (.stringList texts) ↔ ∀ text ∈ texts, ∃ x, parse path text = .ok x))
    (form : ∀ path texts, segments path = names → normalForm path (.stringList texts) = .stringList texts)
    (strs : ∀ path text x, parse path text = .ok x → str x = text)
    (order : ∀ path, segments path = names → true = !readFirst path) :
    Wired fields names name (setParsedList parse put) ⟨endsAbsent, fun a => put a none⟩ := by
  obtain ⟨read, hlookup, hread⟩ := field
  have hfield : ∃ read, fields.lookup name = some read ∧ ∀ a, read a = (get a).map fun xs => .stringList (xs.map str) :=
    ⟨read, hlookup, fun a => (hread a).trans (Option.map_map _ _ _)⟩
  refine .mk cell hfield others (fun path value hpath hkind => ?_) order
  cases value with
  | stringList texts =>
    show Taken _ _ path (.stringList texts)
    cases hparse : texts.mapM (parse path) with
    | ok xs =>
      have hsame : xs.map str = texts := by
        have hall := mapM_ok texts |>.mp hparse
        clear hparse hkind
        induction hall with
        | nil => rfl
        | cons hx _ ih => rw [List.map_cons, strs path _ _ hx, ih]
      refine Or.inl ⟨xs, hparse, (readable path texts hpath).mpr fun text htext => ?_, ?_⟩
      · exact (mapM_value hparse htext).imp fun x hx => hx.2
      · show ConfigValue.stringList (xs.map str) = _
        rw [hsame, form path texts hpath]
    | error e =>
      refine Or.inr ⟨⟨e, hparse⟩, fun hreadable => ?_⟩
      obtain ⟨xs, hxs⟩ := mapM_isOk ((readable path texts hpath).mp hreadable)
      rw [hparse] at hxs
      cases hxs
  | _ => cases hkind

end Kinds

theorem Wired.plain {γ : Type} {get : α → Option γ} {put : α → Option γ → α} {kind : ConfigValueKind}
    {take : ConfigValue → Except ConfigRuntimeError γ} {give : γ → ConfigValue} (cell : Cell get put)
    (takes : ∀ value, value.kind = kind → ∃ x, take value = .ok x ∧ give x = value)
    (field : ∃ read, fields.lookup name = some read ∧ ∀ a, read a = (get a).map give)
    (unparsed : ∀ path, segments path = names → Unparsed path ∧ readFirst path = false)
    (others : ∀ field ∈ fields, field.1 ≠ name → ∀ a x, field.2 (put a x) = field.2 a) :
    Wired fields names name ⟨kind, true, store (fun _ value => take value) put⟩ ⟨endsAbsent, fun a => put a none⟩ := by
  refine .mk cell field others (fun path value hpath hkind => ?_) fun path hpath => by rw [(unparsed path hpath).2]; rfl
  obtain ⟨x, hx, hgive⟩ := takes value hkind
  exact Or.inl ⟨x, hx, ((unparsed path hpath).1 value).1, hgive.trans ((unparsed path hpath).1 value).2.symm⟩

end Cells

theorem takeString_kind (value : ConfigValue) (h : value.kind = .string) : ∃ x, takeString value = .ok x ∧ .string x = value := by
  cases value with
  | string text => exact ⟨text, rfl, rfl⟩
  | _ => cases h

theorem takeStringList_kind (value : ConfigValue) (h : value.kind = .stringList) :
    ∃ x, takeStringList value = .ok x ∧ .stringList x = value := by
  cases value with
  | stringList texts => exact ⟨texts, rfl, rfl⟩
  | _ => cases h

theorem takePositive_kind (value : ConfigValue) (h : value.kind = .positiveInteger) :
    ∃ x, takePositiveInteger value = .ok x ∧ .positiveInteger x = value := by
  cases value with
  | positiveInteger n => exact ⟨n, rfl, rfl⟩
  | _ => cases h

theorem takeNatural_kind (value : ConfigValue) (h : value.kind = .nonNegativeInteger) :
    ∃ x, takeNonNegativeInteger value = .ok x ∧ .nonNegativeInteger x = value := by
  cases value with
  | nonNegativeInteger n => exact ⟨n, rfl, rfl⟩
  | _ => cases h

theorem takeBoolean_kind (value : ConfigValue) (h : value.kind = .boolean) : ∃ x, takeBoolean value = .ok x ∧ .boolean x = value := by
  cases value with
  | boolean b => exact ⟨b, rfl, rfl⟩
  | _ => cases h

/-! ## Parsers and their texts -/

theorem parseDialect_text {path text : String} {x : ProviderDialect} (h : parseDialect path text = .ok x) : x.asStr = text := by
  unfold parseDialect at h
  split at h <;> cases h <;> rfl

theorem parseCatalogMode_text {path text : String} {x : ProviderCatalogMode} (h : parseCatalogMode path text = .ok x) :
    catalogModeStr x = text := by
  unfold parseCatalogMode at h
  split at h <;> cases h <;> rfl

theorem parsePricingSource_text {path text : String} {x : ProviderPricingSource} (h : parsePricingSource path text = .ok x) :
    pricingSourceStr x = text := by
  unfold parsePricingSource at h
  split at h <;> cases h <;> rfl

theorem parsePriceScheduleSource_text {path text : String} {x : PriceScheduleSource}
    (h : parsePriceScheduleSource path text = .ok x) : priceScheduleSourceStr x = text := by
  unfold parsePriceScheduleSource at h
  split at h <;> cases h <;> rfl

theorem parseStatuslinePreset_text {path text : String} {x : StatuslinePreset} (h : parseStatuslinePreset path text = .ok x) :
    x.asStr = text := by
  unfold parseStatuslinePreset at h
  split at h <;> cases h <;> rfl

theorem parseStatuslineExpansion_text {path text : String} {x : StatuslineExpansion}
    (h : parseStatuslineExpansion path text = .ok x) : x.asStr = text := by
  unfold parseStatuslineExpansion at h
  split at h <;> cases h <;> rfl

theorem parseWeekday_text {path text : String} {x : UsageWeekday} (h : parseWeekday path text = .ok x) : weekdayStr x = text := by
  unfold parseWeekday at h
  split at h <;> cases h <;> rfl

/-! ## Paths without a parser -/

def hasParser : List String → Bool
  | ["providers", _, "dialects"] | ["providers", _, _, _] | ["model_presets", _, "dialect"] | ["price_schedules", _, "dialect"]
  | ["price_schedules", _, "source"] | ["ui", "statusline", "preset"] | ["ui", "statusline", "expand"]
  | ["stats", "windows", _, "days"] => true
  | _ => false

theorem unparsed {path : String} {names : List String} (h : segments path = names) (hnone : hasParser names = false) :
    Unparsed path ∧ readFirst path = false := by
  have hreadable : ∀ value, ReadableAt path names value := by
    intro value
    unfold ReadableAt
    split
    all_goals trivial
  have hform : ∀ value, normalFormAt names value = value := by
    intro value
    unfold normalFormAt
    split
    · cases hnone
    · rfl
  refine ⟨fun value => ⟨(readable_at h).mpr (hreadable value), (normalForm_at h).trans (hform value)⟩, ?_⟩
  rw [readFirst_at h]
  unfold readFirstAt
  split
  · simp [hasParser] at hnone
  · rfl

/-! ## The tables, row by row -/

namespace Location

def fields : (location : Location) → Table location.Record ConfigValue
  | .provider => BootstrapProviderLayer.fields
  | .runtime => RuntimeLayer.fields
  | .agent => AgentLayer.fields
  | .profile _ => ProviderProfileLayer.fields
  | .preset _ => ModelPresetLayer.fields
  | .schedule _ => PriceScheduleLayer.fields
  | .ui => UiLayer.fields
  | .window _ => UsageWindowLayer.fields

/-- The segments of the path to the record. -/
def names : Location → List String
  | .provider => ["provider"]
  | .runtime => ["runtime"]
  | .agent => ["agent"]
  | .profile id => ["providers", id]
  | .preset id => ["model_presets", id]
  | .schedule id => ["price_schedules", id]
  | .ui => ["ui"]
  | .window id => ["stats", "windows", id]

/-- The row has a resetter of its name, and both are wired to the field of that name. -/
def RowWired (location : Location) (row : String × Setter location.Record) : Prop :=
  ∃ resetter, location.resetters.lookup row.1 = some resetter ∧ ∃ names, names = location.names ++ segments row.1 ∧
    Wired location.fields names row.1 row.2 resetter

end Location

theorem route_form {id route path text x : String} (h : segments path = ["providers", id, "routes", route])
    (hparse : normalizeRoute path text = .ok x) : normalForm path (.string text) = .string x := by
  rw [(normalizeRoute_ok.mp hparse).2.2]
  exact normalForm_at h

theorem profile_route_wired {id route name : String} {get : ProviderProfileLayer → Option String}
    {put : ProviderProfileLayer → Option String → ProviderProfileLayer} (cell : Cell get put)
    (hfield : ProviderProfileLayer.fields.lookup name = some (text get))
    (hothers : ∀ field ∈ ProviderProfileLayer.fields, field.1 ≠ name → ∀ a x, field.2 (put a x) = field.2 a) :
    Wired ProviderProfileLayer.fields ["providers", id, "routes", route] name (setParsed false normalizeRoute put)
      ⟨true, fun a => put a none⟩ := by
  have hread : ∀ a, text get a = ((get a).map fun route => route).map .string := fun a => by rw [Option.map_id']; rfl
  exact .parsed cell ⟨_, hfield, hread⟩ hothers (fun _ _ => readable_at) (fun _ _ _ => route_form) fun _ h => by rw [readFirst_at h]; rfl

theorem provider_wired : ∀ row ∈ BootstrapProviderLayer.setters, Location.provider.RowWired row := by
  simp only [BootstrapProviderLayer.setters, List.forall_mem_cons, List.not_mem_nil, false_implies, implies_true, and_true,
    Location.RowWired, Location.names]
  refine ⟨⟨_, rfl, ["provider", "profile"], rfl, .plain ⟨fun _ _ => rfl, fun _ _ _ => rfl, fun _ => rfl⟩ takeString_kind
      ⟨_, rfl, fun _ => rfl⟩ (fun _ h => unparsed h rfl) ?_⟩,
    ⟨_, rfl, ["provider", "model"], rfl, .plain ⟨fun _ _ => rfl, fun _ _ _ => rfl, fun _ => rfl⟩ takeString_kind
      ⟨_, rfl, fun _ => rfl⟩ (fun _ h => unparsed h rfl) ?_⟩⟩
  all_goals
    simp only [Location.fields, BootstrapProviderLayer.fields, List.forall_mem_cons]
    and_intros
    all_goals first | exact fun h => absurd rfl h | exact fun _ _ _ => rfl | simp

theorem runtime_wired : ∀ row ∈ RuntimeLayer.setters, Location.runtime.RowWired row := by
  simp only [RuntimeLayer.setters, List.forall_mem_cons, List.not_mem_nil, false_implies, implies_true, and_true,
    Location.RowWired, Location.names]
  refine ⟨_, rfl, ["runtime", "max_output_bytes"], rfl, .plain ⟨fun _ _ => rfl, fun _ _ _ => rfl, fun _ => rfl⟩ takePositive_kind
    ⟨_, rfl, fun _ => rfl⟩ (fun _ h => unparsed h rfl) ?_⟩
  simp [Location.fields, RuntimeLayer.fields]

theorem agent_wired : ∀ row ∈ AgentLayer.setters, Location.agent.RowWired row := by
  simp only [AgentLayer.setters, List.forall_mem_cons, List.not_mem_nil, false_implies, implies_true, and_true,
    Location.RowWired, Location.names]
  refine ⟨_, rfl, ["agent", "default_model_preset"], rfl, .plain ⟨fun _ _ => rfl, fun _ _ _ => rfl, fun _ => rfl⟩ takeString_kind
    ⟨_, rfl, fun _ => rfl⟩ (fun _ h => unparsed h rfl) ?_⟩
  simp [Location.fields, AgentLayer.fields]

theorem profile_wired (id : String) : ∀ row ∈ ProviderProfileLayer.setters, (Location.profile id).RowWired row := by
  simp only [ProviderProfileLayer.setters, List.forall_mem_cons, List.not_mem_nil, false_implies, implies_true, and_true,
    Location.RowWired, Location.names]
  refine ⟨⟨_, rfl, ["providers", id, "template"], rfl, .plain ⟨fun _ _ => rfl, fun _ _ _ => rfl, fun _ => rfl⟩ takeString_kind
      ⟨_, rfl, fun _ => rfl⟩ (fun _ h => unparsed h rfl) ?_⟩,
    ⟨_, rfl, ["providers", id, "credential"], rfl, .plain ⟨fun _ _ => rfl, fun _ _ _ => rfl, fun _ => rfl⟩ takeString_kind
      ⟨_, rfl, fun _ => rfl⟩ (fun _ h => unparsed h rfl) ?_⟩,
    ⟨_, rfl, ["providers", id, "base_url"], rfl, .plain ⟨fun _ _ => rfl, fun _ _ _ => rfl, fun _ => rfl⟩ takeString_kind
      ⟨_, rfl, fun _ => rfl⟩ (fun _ h => unparsed h rfl) ?_⟩,
    ⟨_, rfl, ["providers", id, "dialects"], rfl, .parsedList ⟨fun _ _ => rfl, fun _ _ _ => rfl, fun _ => rfl⟩ ⟨_, rfl, fun _ => rfl⟩ ?_
      (fun _ _ => readable_at)
      (fun _ _ => normalForm_at) (fun _ _ _ => parseDialect_text) fun _ h => by rw [readFirst_at h]; rfl⟩,
    ⟨_, rfl, ["providers", id, "allow_insecure_loopback"], rfl, .plain ⟨fun _ _ => rfl, fun _ _ _ => rfl, fun _ => rfl⟩ takeBoolean_kind
      ⟨_, rfl, fun _ => rfl⟩ (fun _ h => unparsed h rfl) ?_⟩,
    ⟨_, rfl, ["providers", id, "routes", "responses"], rfl, profile_route_wired ⟨fun _ _ => rfl, fun _ _ _ => rfl, fun _ => rfl⟩ rfl ?_⟩,
    ⟨_, rfl, ["providers", id, "routes", "chat_completions"], rfl, profile_route_wired ⟨fun _ _ => rfl, fun _ _ _ => rfl, fun _ => rfl⟩ rfl ?_⟩,
    ⟨_, rfl, ["providers", id, "routes", "messages"], rfl, profile_route_wired ⟨fun _ _ => rfl, fun _ _ _ => rfl, fun _ => rfl⟩ rfl ?_⟩,
    ⟨_, rfl, ["providers", id, "routes", "models"], rfl, profile_route_wired ⟨fun _ _ => rfl, fun _ _ _ => rfl, fun _ => rfl⟩ rfl ?_⟩,
    ⟨_, rfl, ["providers", id, "catalog", "mode"], rfl, .parsed ⟨fun _ _ => rfl, fun _ _ _ => rfl, fun _ => rfl⟩ ⟨_, rfl, fun _ => rfl⟩ ?_
      (fun _ _ => readable_at)
      (fun _ _ _ h hparse => by rw [parseCatalogMode_text hparse]; exact normalForm_at h) fun _ h => by rw [readFirst_at h]; rfl⟩,
    ⟨_, rfl, ["providers", id, "pricing", "source"], rfl, .parsed ⟨fun _ _ => rfl, fun _ _ _ => rfl, fun _ => rfl⟩ ⟨_, rfl, fun _ => rfl⟩ ?_
      (fun _ _ => readable_at)
      (fun _ _ _ h hparse => by rw [parsePricingSource_text hparse]; exact normalForm_at h) fun _ h => by rw [readFirst_at h]; rfl⟩⟩
  all_goals
    simp only [Location.fields, ProviderProfileLayer.fields, List.forall_mem_cons]
    and_intros
    all_goals first | exact fun h => absurd rfl h | exact fun _ _ _ => rfl | simp

theorem preset_wired (id : String) : ∀ row ∈ ModelPresetLayer.setters, (Location.preset id).RowWired row := by
  simp only [ModelPresetLayer.setters, List.forall_mem_cons, List.not_mem_nil, false_implies, implies_true, and_true,
    Location.RowWired, Location.names]
  refine ⟨⟨_, rfl, ["model_presets", id, "provider"], rfl, .plain ⟨fun _ _ => rfl, fun _ _ _ => rfl, fun _ => rfl⟩ takeString_kind
      ⟨_, rfl, fun _ => rfl⟩ (fun _ h => unparsed h rfl) ?_⟩,
    ⟨_, rfl, ["model_presets", id, "model"], rfl, .plain ⟨fun _ _ => rfl, fun _ _ _ => rfl, fun _ => rfl⟩ takeString_kind
      ⟨_, rfl, fun _ => rfl⟩ (fun _ h => unparsed h rfl) ?_⟩,
    ⟨_, rfl, ["model_presets", id, "dialect"], rfl, .parsed ⟨fun _ _ => rfl, fun _ _ _ => rfl, fun _ => rfl⟩ ⟨_, rfl, fun _ => (Option.map_map _ _ _).symm⟩ ?_
      (fun _ _ => readable_at)
      (fun _ _ _ h hparse => by rw [parseDialect_text hparse]; exact normalForm_at h) fun _ h => by rw [readFirst_at h]; rfl⟩,
    ⟨_, rfl, ["model_presets", id, "reasoning_effort"], rfl, .plain ⟨fun _ _ => rfl, fun _ _ _ => rfl, fun _ => rfl⟩ takeString_kind
      ⟨_, rfl, fun _ => rfl⟩ (fun _ h => unparsed h rfl) ?_⟩,
    ⟨_, rfl, ["model_presets", id, "service_tier"], rfl, .plain ⟨fun _ _ => rfl, fun _ _ _ => rfl, fun _ => rfl⟩ takeString_kind
      ⟨_, rfl, fun _ => rfl⟩ (fun _ h => unparsed h rfl) ?_⟩,
    ⟨_, rfl, ["model_presets", id, "max_output_tokens"], rfl, .plain ⟨fun _ _ => rfl, fun _ _ _ => rfl, fun _ => rfl⟩ takePositive_kind
      ⟨_, rfl, fun _ => rfl⟩ (fun _ h => unparsed h rfl) ?_⟩,
    ⟨_, rfl, ["model_presets", id, "context_mode"], rfl, .plain ⟨fun _ _ => rfl, fun _ _ _ => rfl, fun _ => rfl⟩ takeString_kind
      ⟨_, rfl, fun _ => rfl⟩ (fun _ h => unparsed h rfl) ?_⟩,
    ⟨_, rfl, ["model_presets", id, "favorite"], rfl, .plain ⟨fun _ _ => rfl, fun _ _ _ => rfl, fun _ => rfl⟩ takeBoolean_kind
      ⟨_, rfl, fun _ => rfl⟩ (fun _ h => unparsed h rfl) ?_⟩,
    ⟨_, rfl, ["model_presets", id, "fallback"], rfl, .plain ⟨fun _ _ => rfl, fun _ _ _ => rfl, fun _ => rfl⟩ takeStringList_kind
      ⟨_, rfl, fun _ => rfl⟩ (fun _ h => unparsed h rfl) ?_⟩⟩
  all_goals
    simp only [Location.fields, ModelPresetLayer.fields, List.forall_mem_cons]
    and_intros
    all_goals first | exact fun h => absurd rfl h | exact fun _ _ _ => rfl | simp

theorem schedule_wired (id : String) : ∀ row ∈ PriceScheduleLayer.setters, (Location.schedule id).RowWired row := by
  simp only [PriceScheduleLayer.setters, List.forall_mem_cons, List.not_mem_nil, false_implies, implies_true, and_true,
    Location.RowWired, Location.names]
  refine ⟨⟨_, rfl, ["price_schedules", id, "version"], rfl, .plain ⟨fun _ _ => rfl, fun _ _ _ => rfl, fun _ => rfl⟩ takeString_kind
      ⟨_, rfl, fun _ => rfl⟩ (fun _ h => unparsed h rfl) ?_⟩,
    ⟨_, rfl, ["price_schedules", id, "currency"], rfl, .plain ⟨fun _ _ => rfl, fun _ _ _ => rfl, fun _ => rfl⟩ takeString_kind
      ⟨_, rfl, fun _ => rfl⟩ (fun _ h => unparsed h rfl) ?_⟩,
    ⟨_, rfl, ["price_schedules", id, "provider"], rfl, .plain ⟨fun _ _ => rfl, fun _ _ _ => rfl, fun _ => rfl⟩ takeString_kind
      ⟨_, rfl, fun _ => rfl⟩ (fun _ h => unparsed h rfl) ?_⟩,
    ⟨_, rfl, ["price_schedules", id, "model"], rfl, .plain ⟨fun _ _ => rfl, fun _ _ _ => rfl, fun _ => rfl⟩ takeString_kind
      ⟨_, rfl, fun _ => rfl⟩ (fun _ h => unparsed h rfl) ?_⟩,
    ⟨_, rfl, ["price_schedules", id, "dialect"], rfl, .parsed ⟨fun _ _ => rfl, fun _ _ _ => rfl, fun _ => rfl⟩ ⟨_, rfl, fun _ => (Option.map_map _ _ _).symm⟩ ?_
      (fun _ _ => readable_at)
      (fun _ _ _ h hparse => by rw [parseDialect_text hparse]; exact normalForm_at h) fun _ h => by rw [readFirst_at h]; rfl⟩,
    ⟨_, rfl, ["price_schedules", id, "service_tier"], rfl, .plain ⟨fun _ _ => rfl, fun _ _ _ => rfl, fun _ => rfl⟩ takeString_kind
      ⟨_, rfl, fun _ => rfl⟩ (fun _ h => unparsed h rfl) ?_⟩,
    ⟨_, rfl, ["price_schedules", id, "minimum_context_tokens"], rfl, .plain ⟨fun _ _ => rfl, fun _ _ _ => rfl, fun _ => rfl⟩ takeNatural_kind
      ⟨_, rfl, fun _ => rfl⟩ (fun _ h => unparsed h rfl) ?_⟩,
    ⟨_, rfl, ["price_schedules", id, "maximum_context_tokens"], rfl, .plain ⟨fun _ _ => rfl, fun _ _ _ => rfl, fun _ => rfl⟩ takeNatural_kind
      ⟨_, rfl, fun _ => rfl⟩ (fun _ h => unparsed h rfl) ?_⟩,
    ⟨_, rfl, ["price_schedules", id, "effective_from"], rfl, .plain ⟨fun _ _ => rfl, fun _ _ _ => rfl, fun _ => rfl⟩ takeString_kind
      ⟨_, rfl, fun _ => rfl⟩ (fun _ h => unparsed h rfl) ?_⟩,
    ⟨_, rfl, ["price_schedules", id, "effective_until"], rfl, .plain ⟨fun _ _ => rfl, fun _ _ _ => rfl, fun _ => rfl⟩ takeString_kind
      ⟨_, rfl, fun _ => rfl⟩ (fun _ h => unparsed h rfl) ?_⟩,
    ⟨_, rfl, ["price_schedules", id, "source"], rfl, .parsed ⟨fun _ _ => rfl, fun _ _ _ => rfl, fun _ => rfl⟩ ⟨_, rfl, fun _ => rfl⟩ ?_
      (fun _ _ => readable_at)
      (fun _ _ _ h hparse => by rw [parsePriceScheduleSource_text hparse]; exact normalForm_at h) fun _ h => by rw [readFirst_at h]; rfl⟩,
    ⟨_, rfl, ["price_schedules", id, "source_ref"], rfl, .plain ⟨fun _ _ => rfl, fun _ _ _ => rfl, fun _ => rfl⟩ takeString_kind
      ⟨_, rfl, fun _ => rfl⟩ (fun _ h => unparsed h rfl) ?_⟩,
    ⟨_, rfl, ["price_schedules", id, "rates", "input_micros_per_million"], rfl, .plain ⟨fun _ _ => rfl, fun _ _ _ => rfl, fun _ => rfl⟩ takeNatural_kind
      ⟨_, rfl, fun _ => rfl⟩ (fun _ h => unparsed h rfl) ?_⟩,
    ⟨_, rfl, ["price_schedules", id, "rates", "cached_input_micros_per_million"], rfl, .plain ⟨fun _ _ => rfl, fun _ _ _ => rfl, fun _ => rfl⟩ takeNatural_kind
      ⟨_, rfl, fun _ => rfl⟩ (fun _ h => unparsed h rfl) ?_⟩,
    ⟨_, rfl, ["price_schedules", id, "rates", "cache_write_micros_per_million"], rfl, .plain ⟨fun _ _ => rfl, fun _ _ _ => rfl, fun _ => rfl⟩ takeNatural_kind
      ⟨_, rfl, fun _ => rfl⟩ (fun _ h => unparsed h rfl) ?_⟩,
    ⟨_, rfl, ["price_schedules", id, "rates", "output_micros_per_million"], rfl, .plain ⟨fun _ _ => rfl, fun _ _ _ => rfl, fun _ => rfl⟩ takeNatural_kind
      ⟨_, rfl, fun _ => rfl⟩ (fun _ h => unparsed h rfl) ?_⟩,
    ⟨_, rfl, ["price_schedules", id, "rates", "reasoning_output_micros_per_million"], rfl, .plain ⟨fun _ _ => rfl, fun _ _ _ => rfl, fun _ => rfl⟩ takeNatural_kind
      ⟨_, rfl, fun _ => rfl⟩ (fun _ h => unparsed h rfl) ?_⟩⟩
  all_goals
    simp only [Location.fields, PriceScheduleLayer.fields, List.forall_mem_cons]
    and_intros
    all_goals first | exact fun h => absurd rfl h | exact fun _ _ _ => rfl | simp

theorem ui_wired : ∀ row ∈ UiLayer.setters, Location.ui.RowWired row := by
  simp only [UiLayer.setters, List.forall_mem_cons, List.not_mem_nil, false_implies, implies_true, and_true,
    Location.RowWired, Location.names]
  refine ⟨⟨_, rfl, ["ui", "statusline", "preset"], rfl, .parsed ⟨fun _ _ => rfl, fun _ _ _ => rfl, fun _ => rfl⟩ ⟨_, rfl, fun _ => rfl⟩ ?_
      (fun _ _ => readable_at)
      (fun _ _ _ h hparse => by rw [parseStatuslinePreset_text hparse]; exact normalForm_at h) fun _ h => by rw [readFirst_at h]; rfl⟩,
    ⟨_, rfl, ["ui", "statusline", "expand"], rfl, .parsed ⟨fun _ _ => rfl, fun _ _ _ => rfl, fun _ => rfl⟩ ⟨_, rfl, fun _ => rfl⟩ ?_
      (fun _ _ => readable_at)
      (fun _ _ _ h hparse => by rw [parseStatuslineExpansion_text hparse]; exact normalForm_at h) fun _ h => by rw [readFirst_at h]; rfl⟩,
    ⟨_, rfl, ["ui", "statusline", "primary_usage_window"], rfl, .plain ⟨fun _ _ => rfl, fun _ _ _ => rfl, fun _ => rfl⟩ takeString_kind
      ⟨_, rfl, fun _ => rfl⟩ (fun _ h => unparsed h rfl) ?_⟩,
    ⟨_, rfl, ["ui", "statusline", "custom", "left"], rfl, .plain ⟨fun _ _ => rfl, fun _ _ _ => rfl, fun _ => rfl⟩ takeStringList_kind
      ⟨_, rfl, fun _ => rfl⟩ (fun _ h => unparsed h rfl) ?_⟩,
    ⟨_, rfl, ["ui", "statusline", "custom", "right"], rfl, .plain ⟨fun _ _ => rfl, fun _ _ _ => rfl, fun _ => rfl⟩ takeStringList_kind
      ⟨_, rfl, fun _ => rfl⟩ (fun _ h => unparsed h rfl) ?_⟩⟩
  all_goals
    simp only [Location.fields, UiLayer.fields, List.forall_mem_cons]
    and_intros
    all_goals first | exact fun h => absurd rfl h | exact fun _ _ _ => rfl | simp

theorem window_wired (id : String) : ∀ row ∈ UsageWindowLayer.setters, (Location.window id).RowWired row := by
  simp only [UsageWindowLayer.setters, List.forall_mem_cons, List.not_mem_nil, false_implies, implies_true, and_true,
    Location.RowWired, Location.names]
  refine ⟨⟨_, rfl, ["stats", "windows", id, "start"], rfl, .plain ⟨fun _ _ => rfl, fun _ _ _ => rfl, fun _ => rfl⟩ takeString_kind
      ⟨_, rfl, fun _ => rfl⟩ (fun _ h => unparsed h rfl) ?_⟩,
    ⟨_, rfl, ["stats", "windows", id, "end"], rfl, .plain ⟨fun _ _ => rfl, fun _ _ _ => rfl, fun _ => rfl⟩ takeString_kind
      ⟨_, rfl, fun _ => rfl⟩ (fun _ h => unparsed h rfl) ?_⟩,
    ⟨_, rfl, ["stats", "windows", id, "days"], rfl, .parsedList ⟨fun _ _ => rfl, fun _ _ _ => rfl, fun _ => rfl⟩ ⟨_, rfl, fun _ => rfl⟩ ?_
      (fun _ _ => readable_at)
      (fun _ _ => normalForm_at) (fun _ _ _ => parseWeekday_text) fun _ h => by rw [readFirst_at h]; rfl⟩,
    ⟨_, rfl, ["stats", "windows", id, "timezone"], rfl, .plain ⟨fun _ _ => rfl, fun _ _ _ => rfl, fun _ => rfl⟩ takeString_kind
      ⟨_, rfl, fun _ => rfl⟩ (fun _ h => unparsed h rfl) ?_⟩⟩
  all_goals
    simp only [Location.fields, UsageWindowLayer.fields, List.forall_mem_cons]
    and_intros
    all_goals first | exact fun h => absurd rfl h | exact fun _ _ _ => rfl | simp

theorem Location.wired (location : Location) : ∀ row ∈ location.setters, location.RowWired row := by
  cases location with
  | provider => exact provider_wired
  | runtime => exact runtime_wired
  | agent => exact agent_wired
  | profile id => exact profile_wired id
  | preset id => exact preset_wired id
  | schedule id => exact schedule_wired id
  | ui => exact ui_wired
  | window id => exact window_wired id

end GreenTyper.Config
