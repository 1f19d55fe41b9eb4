/-
  GreenTyper.Config.Wide — a layer of many profiles, and its TOML text.

  Any number of profiles of a template that is not bundled resolves (`wide_resolves`); each
  of them has its template in the text (`wideText_long`).
-/

import GreenTyper.Config.Accepted

namespace GreenTyper.Config

open Lib Provider Usage

theorem empty_validLayer : ConfigDocument.empty.ValidLayer := ConfigDocument.validateLayer_ok.mp (by decide +kernel)

theorem builtIn_validLayer : ConfigDocument.builtIn.ValidLayer := ConfigDocument.validateLayer_ok.mp (by decide +kernel)

/-! ## Documents of many profiles -/

section Wide

/-- A profile with a template and nothing else. -/
def templateProfile (template : String) : ProviderProfileLayer := { ProviderProfileLayer.default with template := some template }

def wideDocument (ids : List String) (template : String) : ConfigDocument :=
  { ConfigDocument.empty with providers := .ofList (ids.map fun id => (id, templateProfile template)) }

def profileText (entry : String × ProviderProfileLayer) : String :=
  "\n[providers." ++ entry.1 ++ "]\ntemplate = \"" ++ entry.2.template.getD "" ++ "\"\n"

/-- The TOML text of a document of profiles with a template. -/
def wideText (document : ConfigDocument) : String :=
  "schema_version = 2\n" ++ (document.providers.entries.map profileText).foldr (· ++ ·) ""

variable {ids : List String} {template : String}

theorem wide_profile {id : String} {profile : ProviderProfileLayer} (h : (wideDocument ids template).providers.get id = some profile) :
    id ∈ ids ∧ profile = templateProfile template := by
  obtain ⟨_, hmem, heq⟩ := List.mem_map.mp (mem_of_get_ofList h)
  obtain ⟨rfl, rfl⟩ := Prod.mk.inj heq
  exact ⟨hmem, rfl⟩

theorem wide_get {id : String} (h : id ∈ ids) : (wideDocument ids template).providers.get id = some (templateProfile template) := by
  refine (get_ofList fun k v v' hv hv' => ?_).mpr (List.mem_map_of_mem h)
  obtain ⟨_, _, heq⟩ := List.mem_map.mp hv
  obtain ⟨_, _, heq'⟩ := List.mem_map.mp hv'
  exact (congrArg Prod.snd heq).symm.trans (congrArg Prod.snd heq')

theorem validateField_template {id : String} (hid : IdText id) (htemplate : ProviderText maxConfigStringBytes template) :
    validateField (dotted "providers" (dotted id "template"), .string template) = .ok () := by
  have hsegments : segments (dotted "providers" (dotted id "template")) = ["providers", id, "template"] := by
    rw [segments_dotted (by decide), segments_dotted hid.noDot, segments_noDot (by decide)]
  have hstart : ∀ s : List Char, s.head? = some 'c' → s.isPrefixOf (dotted "providers" (dotted id "template")).toList = false := by
    intro s hs
    cases s with
    | nil => cases hs
    | cons c s =>
      cases hs
      rw [dotted_toList]
      rfl
  have hentry : requireSchemaEntry (dotted "providers" (dotted id "template")) =
      .ok ⟨["providers", "<id>", "template"], .string, fileScopes, .nextProviderEpoch, false, "provider_template"⟩ := by
    simp only [requireSchemaEntry, bind_ok, exists_unit, require_ok, okOr_ok, hsegments, forM_ok, pure, Except.pure, Except.ok.injEq]
    refine ⟨⟨hstart _ rfl, hstart _ rfl⟩, _, ?_, ?_, rfl⟩
    · simp [configSchema, pathMatches]
    · simp only [List.zip_cons_cons, List.zip_nil_left, List.mem_cons, List.not_mem_nil, or_false, Prod.forall, Prod.mk.injEq]
      rintro _ _ (⟨rfl, rfl⟩ | ⟨rfl, rfl⟩ | ⟨rfl, rfl⟩)
      · rfl
      · exact validateId_ok.mpr hid
      · rfl
  have hpreset : ∀ field, pathMatches ["model_presets", "<id>", field] ["providers", id, "template"] ≠ true :=
    fun _ => Bool.false_ne_true
  simp only [validateField, hentry, ok_bind, bind_ok, exists_unit, require_ok, validateValue, hsegments, validateString_ok]
  exact ⟨rfl, ⟨htemplate, fun h => absurd h (hpreset _), fun h => absurd h (hpreset _), fun h => absurd h (hpreset _)⟩, rfl⟩

theorem wide_validLayer (hids : ∀ id ∈ ids, IdText id) (htemplate : ProviderText maxConfigStringBytes template) :
    (wideDocument ids template).ValidLayer where
  schema := rfl
  fields := by
    intro field hfield
    obtain ⟨group, fields, rest, hgroup, hrest, hpath⟩ := mem_nest.mp hfield
    simp only [ConfigDocument.groups, List.mem_cons, Prod.mk.injEq, List.not_mem_nil, or_false] at hgroup
    rcases hgroup with ⟨rfl, rfl⟩ | ⟨rfl, rfl⟩ | ⟨rfl, rfl⟩ | ⟨rfl, rfl⟩ | ⟨rfl, rfl⟩ | ⟨rfl, rfl⟩ | ⟨rfl, rfl⟩ | ⟨rfl, rfl⟩
    · cases hrest
    · cases hrest
    · cases hrest
    · obtain ⟨id, profile, name, hprofile, hname, rfl⟩ := mem_objects.mp hrest
      obtain ⟨hid, rfl⟩ := wide_profile (OrdMap.mem_entries.mp hprofile)
      have hfields : present ProviderProfileLayer.fields (templateProfile template) = [("template", .string template)] := rfl
      rw [hfields, List.mem_singleton] at hname
      obtain ⟨hname, hvalue⟩ := Prod.mk.inj hname
      have heq : field = (dotted "providers" (dotted id "template"), .string template) :=
        Prod.ext (hpath.trans (by rw [hname])) hvalue
      rw [heq]
      exact validateField_template (hids id hid) htemplate
    · cases hrest
    · cases hrest
    · cases hrest
    · cases hrest
  providers := by
    intro id hid
    obtain ⟨profile, hget⟩ := OrdMap.mem_keys.mp hid
    exact hids id (wide_profile hget).1
  modelPresets := by intro _ h; cases h
  starters := by intro _ _ h; cases h
  default := by intro _ h; cases h
  priceSchedules := by intro _ h; cases h
  windows := by intro _ h; cases h
  distinct := .nil

/-- The profiles of the effective document are those of the user layer. -/
theorem wide_merged {id : String} {profile : ProviderProfileLayer}
    (h : (mergeDocuments .builtIn (wideDocument ids template) .empty .empty).providers.get id = some profile) :
    profile = templateProfile template := by
  have hget : ((OrdMap.empty : OrdMap String ProviderProfileLayer).mergeWith .default .mergeFrom
      (wideDocument ids template).providers).get id = some profile := h
  rw [OrdMap.get_mergeWith] at hget
  cases hwide : (wideDocument ids template).providers.get id with
  | none =>
    rw [hwide] at hget
    cases hget
  | some above =>
    rw [hwide, (wide_profile hwide).2] at hget
    cases hget
    rfl

theorem wide_schedules (hcustom : catalogTemplate template = none) :
    (mergeDocuments .builtIn (wideDocument ids template) .empty .empty).providers.entries.mapM
        (fun (profile, definition) => profilePriceSchedules profile definition) =
      .ok ((mergeDocuments .builtIn (wideDocument ids template) .empty .empty).providers.entries.map fun _ => []) := by
  refine (mapM_ok _).mpr (List.forall₂_map_right_iff.mpr (List.forall₂_same.mpr fun entry hentry => ?_))
  obtain ⟨id, profile⟩ := entry
  rw [wide_merged (OrdMap.mem_entries.mp hentry)]
  simp only [profilePriceSchedules, templateProfile, hcustom]
  rfl

/-- A user layer of any number of profiles of a template that is not bundled resolves. -/
theorem wide_resolves {lib : ConfigLibrary} (hids : ∀ id ∈ ids, IdText id) (htemplate : ProviderText maxConfigStringBytes template)
    (hcustom : catalogTemplate template = none) : Resolves lib .builtIn (wideDocument ids template) .empty .empty where
  builtInLayer := builtIn_validLayer
  userLayer := wide_validLayer hids htemplate
  projectLayer := empty_validLayer
  cliLayer := empty_validLayer
  effective := {
    layer := ((builtIn_validLayer.mergeFrom (wide_validLayer hids htemplate)).mergeFrom empty_validLayer).mergeFrom empty_validLayer
    bootstrap := ⟨_, rfl⟩
    selected := by
      intro profile hprofile
      cases hprofile
      exact .inl rfl
    profiles := by
      intro id profile hget
      rw [wide_merged hget]
      rfl
    prices := by
      have hnone : ∀ l : List (String × ProviderProfileLayer), (l.map fun _ => ([] : List PriceSchedule)).flatten = [] := by simp
      simp only [resolvePriceScheduleBook, bind_ok, mapError_ok]
      refine ⟨⟨[], Nat.zero_le _, .nil, .nil⟩, [], rfl, _, wide_schedules hcustom, ?_⟩
      rw [hnone]
      rfl
    presets := by intro _ _ h; cases h
    default := by intro _ h; cases h
    cycles := rfl
    few := Nat.zero_le _
    windows := by intro _ h; cases h
    primary := by intro _ h; cases h
    custom := by intro h; cases h }
  layers := ⟨_, rfl⟩

theorem wide_size (hids : ids.Nodup) : (wideDocument ids template).providers.entries.length = ids.length := by
  have hnodup : (wideDocument ids template).providers.keys.Nodup := (OrdMap.keys_sorted _).imp ne_of_lt
  have hperm : (wideDocument ids template).providers.keys.Perm ids := by
    refine (List.perm_ext_iff_of_nodup hnodup hids).mpr fun id => ?_
    constructor
    · intro hid
      obtain ⟨_, hget⟩ := OrdMap.mem_keys.mp hid
      exact (wide_profile hget).1
    · intro hid
      exact OrdMap.mem_keys.mpr ⟨_, wide_get hid⟩
  exact (List.length_map _).symm.trans hperm.length_eq

theorem profileText_long {entry : String × ProviderProfileLayer} (h : entry.2 = templateProfile template) :
    byteLen template ≤ byteLen (profileText entry) := by
  have htemplate : entry.2.template.getD "" = template := by rw [h]; rfl
  rw [profileText, htemplate, byteLen_append, byteLen_append]
  exact le_trans (Nat.le_add_left _ _) (Nat.le_add_right _ _)

theorem profilesText_long : ∀ entries : List (String × ProviderProfileLayer), (∀ entry ∈ entries, entry.2 = templateProfile template) →
    entries.length * byteLen template ≤ byteLen ((entries.map profileText).foldr (· ++ ·) "") := by
  intro entries
  induction entries with
  | nil =>
    intro _
    rw [List.length_nil, Nat.zero_mul]
    exact Nat.zero_le _
  | cons entry entries ih =>
    intro hall
    have hrest := ih fun e he => hall e (List.mem_cons_of_mem _ he)
    have hentry := profileText_long (hall entry List.mem_cons_self)
    rw [List.map_cons, List.foldr_cons, byteLen_append, List.length_cons, Nat.succ_mul, Nat.add_comm]
    exact Nat.add_le_add hentry hrest

/-- Each profile has its template in the text. -/
theorem wideText_long (hids : ids.Nodup) : ids.length * byteLen template < byteLen (wideText (wideDocument ids template)) := by
  have hentries := profilesText_long (wideDocument ids template).providers.entries fun entry hentry =>
    (wide_profile (OrdMap.mem_entries.mp hentry)).2
  have hheader : 0 < byteLen "schema_version = 2\n" := by decide +kernel
  have htext : byteLen (wideText (wideDocument ids template)) = byteLen "schema_version = 2\n" +
      byteLen (((wideDocument ids template).providers.entries.map profileText).foldr (· ++ ·) "") := byteLen_append _ _
  rw [wide_size hids] at hentries
  generalize byteLen "schema_version = 2\n" = header at hheader htext
  omega

theorem wide_normalized : (wideDocument ids template).normalizeRoutes = .ok (wideDocument ids template) := by
  refine normalizeRoutes_self fun id profile hget => ?_
  rw [(wide_profile hget).2]
  rfl

theorem wide_changed (hids : ∀ id ∈ ids, IdText id) (htemplate : ProviderText maxConfigStringBytes template) (hsome : ids ≠ []) :
    ConfigDocument.empty.flatten ≠ (wideDocument ids template).flatten := by
  intro hflat
  obtain ⟨id, hid⟩ := List.exists_mem_of_ne_nil ids hsome
  have hfield : (dotted "providers" (dotted id "template"), ConfigValue.string template) ∈ (wideDocument ids template).fields :=
    ConfigDocument.profile_field (wide_get hid) List.mem_cons_self rfl
  have hget := (ConfigDocument.get_flatten (wide_validLayer hids htemplate).plainIds).mpr hfield
  rw [← hflat] at hget
  cases hget

end Wide

/-! ## Ids and texts -/

/-- One character, again and again. -/
theorem plainText_valid {c : Char} {n : Nat} (hc : isWhitespace c = false ∧ isControl c = false ∧ c.utf8Size = 1) (hn : n ≠ 0)
    {max : Nat} (hmax : n ≤ max) : ProviderText max (String.ofList (List.replicate n c)) ∧ byteLen (String.ofList (List.replicate n c)) = n := by
  have htrim : trim (String.ofList (List.replicate n c)) = String.ofList (List.replicate n c) :=
    trim_none (by rw [String.toList_ofList, List.any_replicate, hc.1]; simp)
  have hlen : byteLen (String.ofList (List.replicate n c)) = n := by
    rw [byteLen_ascii, String.toList_ofList, List.length_replicate]
    intro d hd
    rw [String.toList_ofList] at hd
    rw [(List.mem_replicate.mp hd).2, hc.2.2]
  refine ⟨⟨?_, htrim, hlen.le.trans hmax, ?_⟩, hlen⟩
  · rw [isBlank, htrim, beq_eq_false_iff_ne]
    intro h
    rw [h] at hlen
    exact hn hlen.symm
  · rw [String.toList_ofList, List.any_replicate, hc.2.1]
    simp

/-- A number is an id. -/
theorem IdText.repr {n : Nat} (h : n < 10 ^ 64) : IdText n.repr := by
  have hdigit : ∀ c ∈ n.repr.toList, 48 ≤ c.toNat ∧ c.toNat ≤ 57 := by
    intro c hc
    rw [Nat.toList_repr] at hc
    have := Nat.isDigit_of_mem_toDigits (by decide) (by decide) hc
    simp only [Char.isDigit, Bool.and_eq_true, decide_eq_true_eq, ge_iff_le, UInt32.le_iff_toNat_le] at this
    exact this
  have hlen : n.repr.toList.length ≤ 64 := by
    rw [Nat.toList_repr]
    exact (Nat.length_toDigits_le_iff (by decide) (by decide)).mpr h
  have hid : ∀ c ∈ n.repr.toList, isAsciiDigit c = true := by
    intro c hc
    simp only [isAsciiDigit, Bool.and_eq_true, decide_eq_true_eq]
    exact hdigit c hc
  refine ⟨?_, ?_, ?_⟩
  · intro hempty
    have hnil := congrArg String.toList hempty
    rw [Nat.toList_repr] at hnil
    exact Nat.toDigits_ne_nil hnil
  · rw [byteLen_ascii fun c hc => ?_]
    · exact hlen
    · have hc := hdigit c hc
      have hle : c.val.toNat ≤ 127 := by
        have : c.toNat = c.val.toNat := rfl
        omega
      rw [Char.utf8Size, if_pos (UInt32.le_iff_toNat_le.mpr hle)]
  · cases hlist : n.repr.toList with
    | nil => rfl
    | cons c cs =>
      rw [hlist] at hid
      rw [isIdText, hid c List.mem_cons_self, Bool.or_true, Bool.true_and, List.all_eq_true]
      intro d hd
      rw [hid d (List.mem_cons_of_mem _ hd), Bool.or_true, Bool.true_or]

/-! ## Libraries for one document -/

/-- A TOML library that knows one document and its text. -/
def documentToml (document : ConfigDocument) (text : String) : TomlLibrary :=
  ⟨fun d => if d = document then .ok text else .error "unsupported document",
    fun t => if t = text ∨ t = text ++ "\n" then .ok document else .error "invalid document"⟩

theorem documentToml_lawful (document : ConfigDocument) (text : String) : (documentToml document text).Lawful where
  parse_print := by
    intro d t h
    simp only [documentToml] at h ⊢
    split at h
    · rename_i hd
      cases h
      exact ⟨by rw [if_pos (.inl rfl), hd], by rw [if_pos (.inr rfl), hd]⟩
    · cases h

theorem documentToml_print (document : ConfigDocument) (text : String) : (documentToml document text).print document = .ok text :=
  if_pos rfl

/-- The libraries for one document: its TOML text, and bytes that are their own digest. -/
def documentLibrary (document : ConfigDocument) : RuntimeLibrary :=
  ⟨templateLibrary, documentToml document (wideText document), fun bytes => bytes⟩

end GreenTyper.Config
