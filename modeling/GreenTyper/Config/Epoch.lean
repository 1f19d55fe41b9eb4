/-
  GreenTyper.Config.Epoch — what the fingerprint of a configuration is a hash of
  (`fingerprint` of `config.rs`).

  Each text and each number is a block, its length before it. An optional value is two
  blocks or nothing, and a window's days have no count; where a value could be taken for
  what follows it, the sets of texts, the bound on the tokens and the characters of the
  ids tell them apart (`description_unambiguous`).
-/

import GreenTyper.Config.Layers
import GreenTyper.Lib.Blocks
import GreenTyper.Usage.Windows

namespace GreenTyper.Config

open Lib Usage

/-- `CONFIG_SCHEMA_VERSION`. -/
def configSchemaVersion : Nat := 1

def ReasoningEffort.asStr : ReasoningEffort → String
  | .none => "none"
  | .minimal => "minimal"
  | .low => "low"
  | .medium => "medium"
  | .high => "high"
  | .xHigh => "xhigh"
  | .max => "max"

def ServiceTier.asStr : ServiceTier → String
  | .auto => "auto"
  | .default => "default"
  | .flex => "flex"
  | .scale => "scale"
  | .priority => "priority"
  | .fast => "fast"

def ContextMode.asStr : ContextMode → String
  | .canonical => "canonical"
  | .providerNative => "provider_native"

def sourceTag : ConfigSource → Byte
  | .builtIn => 1
  | .user => 2
  | .project => 3
  | .cli => 4

def usageTimezoneSourceTag : UsageTimezoneSource → Byte
  | .explicit => 1
  | .localSystem => 2

def usageWeekdayTag : UsageWeekday → Byte
  | .mon => 1
  | .tue => 2
  | .wed => 3
  | .thu => 4
  | .fri => 5
  | .sat => 6
  | .sun => 7

/-! ## Words -/

def sourced {α : Type} (bytes : α → List Byte) (value : Sourced α) : List (List Byte) := [bytes value.value, [sourceTag value.source]]

def u32Bytes (value : UInt32) : List Byte := leBytes 4 value.toNat

/-- The context mode, unless it is the built-in one. -/
def ResolvedConfig.statedContextMode (config : ResolvedConfig) : Option (Sourced ContextMode) :=
  if config.contextMode.value ≠ .canonical ∨ config.contextMode.source ≠ .builtIn then some config.contextMode else none

/-- `u64::from(usage_weekday_tag(day))`. -/
def dayWord (day : UsageWeekday) : UInt64 := (usageWeekdayTag day).toUInt64

def windowWords (window : UsageWindow) : List UInt64 :=
  blocks [utf8 window.id, leBytes 2 window.startMinute, leBytes 2 window.endMinute, utf8 window.timezone,
    [usageTimezoneSourceTag window.timezoneSource], utf8 window.rulesetVersion] ++
    window.days.map dayWord

def scheduleWords (fingerprint : UInt64) : List UInt64 := block (leBytes 8 fingerprint.toNat)

/-- What is hashed of the windows and the schedules. -/
def observedWords (usageWindows : List UsageWindow) (priceSchedules : List UInt64) : List UInt64 :=
  usageWindows.flatMap windowWords ++ priceSchedules.flatMap scheduleWords

/-- The words that the loop is fed with. A schedule is its own fingerprint. -/
def fingerprintWords (config : ResolvedConfig) (usageWindows : List UsageWindow) (priceSchedules : List UInt64) : List UInt64 :=
  blocks ([leBytes 2 configSchemaVersion] ++ sourced utf8 config.providerProfile ++ sourced utf8 config.providerModel ++
      sourced u32Bytes config.maxOutputBytes) ++
    (optional (sourced u32Bytes) config.maxOutputTokens ++
    (optional (sourced fun effort => utf8 effort.asStr) config.reasoningEffort ++
    (optional (sourced fun tier => utf8 tier.asStr) config.serviceTier ++
    (optional (sourced fun mode => utf8 mode.asStr) config.statedContextMode ++
      observedWords usageWindows priceSchedules))))

def fingerprint (config : ResolvedConfig) (usageWindows : List UsageWindow) (priceSchedules : PriceScheduleBook) : UInt64 :=
  (fingerprintWords config usageWindows (priceSchedules.schedules.map (·.fingerprint))).foldl
    (fun hash word => (hash ^^^ word) * 0x100000001b3) 0xcbf29ce484222325

/-! ## Days and windows -/

section Windows

/-- A window that a validator let through, of texts in memory: a length is a `usize`. -/
structure AdmittedWindow (window : UsageWindow) : Prop where
  validated : (∃ time id start finish days timezone, UsageWindow.resolve time id start finish days timezone = .ok window) ∨
    ∃ time id startMinute endMinute days timezone timezoneSource rulesetVersion,
      UsageWindow.fromResolvedParts time id startMinute endMinute days timezone timezoneSource rulesetVersion = .ok window
  timezone : byteLen window.timezone < 2 ^ 64
  rulesetVersion : byteLen window.rulesetVersion < 2 ^ 64

variable {window window' : UsageWindow} {windows windows' : List UsageWindow} {schedules schedules' : List UInt64}
  {r s : List UInt64}

theorem AdmittedWindow.resolved (h : AdmittedWindow window) : window.Resolved := by
  rcases h.validated with ⟨_, _, _, _, _, _, hresolve⟩ | ⟨_, _, _, _, _, _, _, _, hparts⟩
  · exact UsageWindow.resolve_resolved hresolve
  · exact UsageWindow.fromResolvedParts_resolved hparts

theorem u64_bytes {word word' : UInt64} (h : leBytes 8 word.toNat = leBytes 8 word'.toNat) : word = word' := by
  have hnat := congrArg leNat h
  rw [leNat_leBytes word.toNat_lt, leNat_leBytes word'.toNat_lt] at hnat
  exact UInt64.toNat_inj.mp hnat

/-- The bytes of an id are those of its characters, none below a hyphen. -/
theorem id_bytes {id : String} (h : isIdText id.toList = true) : ∀ byte ∈ utf8 id, 45 ≤ byte.toNat := by
  intro byte hbyte
  rw [show id = String.ofList id.toList from String.ofList_toList.symm, utf8_ofList, List.mem_flatMap] at hbyte
  obtain ⟨c, hc, hbyte⟩ := hbyte
  have hrange : 45 ≤ c.toNat ∧ c.toNat ≤ 0x7a := by
    rcases isIdText_char h hc with hlow | hdigit | hhyphen
    · simp only [isAsciiLowercase, Bool.and_eq_true, decide_eq_true_eq] at hlow
      omega
    · simp only [isAsciiDigit, Bool.and_eq_true, decide_eq_true_eq] at hdigit
      omega
    · rw [hhyphen]
      decide
  unfold String.utf8EncodeChar at hbyte
  have hascii : c.val.toNat ≤ 0x7f := by
    show c.toNat ≤ 0x7f
    omega
  dsimp only at hbyte
  rw [if_pos hascii, List.mem_singleton] at hbyte
  rw [hbyte, UInt8.toNat_ofNat']
  show 45 ≤ c.toNat % 2 ^ 8
  omega

/-- What may follow the days of a window: nothing, a schedule, or the id of a window and the length of its start. -/
inductive Next : List UInt64 → Prop where
  | nil : Next []
  | schedule (bytes : List Byte) (rest : List UInt64) (h : bytes.length = 8) : Next (block bytes ++ rest)
  | window (id : List Byte) (rest : List UInt64) (hne : id ≠ []) (hlength : id.length ≤ 64) (hbytes : ∀ byte ∈ id, 45 ≤ byte.toNat) :
    Next (block id ++ 2 :: rest)

theorem tag_le (day : UsageWeekday) : (dayWord day).toNat ≤ 7 := by
  cases day <;> decide

theorem tag_inj {day day' : UsageWeekday} (h : dayWord day = dayWord day') : day = day' := by
  revert h
  cases day <;> cases day' <;> decide

theorem length_toNat {bytes : List Byte} (h : bytes.length ≤ 64) : (UInt64.ofNat bytes.length).toNat = bytes.length :=
  UInt64.toNat_ofNat_of_lt' (lt_of_le_of_lt h (by decide))

/-- What may follow a window does not begin with one of its days. -/
theorem Next.not_day (hr : Next r) (hs : Next s) (day : UsageWeekday) (days : List UsageWeekday) :
    r ≠ dayWord day :: (days.map dayWord ++ s) := by
  intro h
  cases hr with
  | nil => cases h
  | schedule bytes rest hlength =>
    have hhead := congrArg UInt64.toNat (List.cons.inj h).1
    rw [length_toNat (by omega), hlength] at hhead
    have := tag_le day
    omega
  | window id rest hne hlength hbytes =>
    obtain ⟨hhead, htail⟩ := List.cons.inj h
    have hshort : id.length ≤ 7 := by
      rw [← length_toNat hlength, hhead]
      exact tag_le day
    cases id with
    | nil => exact hne rfl
    | cons b bs =>
      have hb : 45 ≤ b.toNat := hbytes b List.mem_cons_self
      cases days with
      | cons day' days' =>
        have hsecond := congrArg UInt64.toNat (List.cons.inj htail).1
        rw [UInt8.toNat_toUInt64] at hsecond
        have := tag_le day'
        omega
      | nil =>
        -- The rest begins with the id's first character, as the length of a longer id.
        cases hs with
        | nil => cases htail
        | schedule bytes rest' hlength' =>
          have hsecond := congrArg UInt64.toNat (List.cons.inj htail).1
          rw [UInt8.toNat_toUInt64, length_toNat (by omega), hlength'] at hsecond
          omega
        | window id' rest' hne' hlength' hbytes' =>
          obtain ⟨hsecond, hchars⟩ := List.cons.inj htail
          have hlong := congrArg UInt64.toNat hsecond
          rw [UInt8.toNat_toUInt64, length_toNat hlength'] at hlong
          rw [List.length_cons] at hshort
          have hlt : bs.length < id'.length := by omega
          have hend : (bs.map (·.toUInt64) ++ 2 :: rest)[bs.length]? = (id'.map (·.toUInt64) ++ 2 :: rest')[bs.length]? :=
            congrArg (fun words => words[bs.length]?) hchars
          rw [List.getElem?_append_right (by simp), List.getElem?_append_left (by simp; omega), List.length_map, Nat.sub_self,
            List.getElem?_map, List.getElem?_eq_getElem hlt] at hend
          have hbyte := congrArg UInt64.toNat (Option.some.inj hend)
          rw [UInt8.toNat_toUInt64] at hbyte
          have hchar := hbytes' _ (List.getElem_mem hlt)
          have htwo : (2 : UInt64).toNat = 2 := rfl
          omega

theorem days_inj (hr : Next r) (hs : Next s) (days : List UsageWeekday) : ∀ {days' : List UsageWeekday},
    days.map dayWord ++ r = days'.map dayWord ++ s →
      days = days' ∧ r = s := by
  induction days with
  | nil =>
    intro days' h
    cases days' with
    | nil => exact ⟨rfl, h⟩
    | cons day' days' => exact absurd h (hr.not_day hs day' days')
  | cons day days ih =>
    intro days' h
    cases days' with
    | nil => exact absurd h.symm (hs.not_day hr day days)
    | cons day' days' =>
      obtain ⟨hhead, htail⟩ := List.cons.inj h
      obtain ⟨hdays, hrest⟩ := ih htail
      exact ⟨by rw [tag_inj hhead, hdays], hrest⟩

/-! ## Windows and schedules -/

theorem windowWords_next (h : window.Resolved) (rest : List UInt64) : Next (windowWords window ++ rest) := by
  obtain ⟨hne, hlength, hchars⟩ := h.id
  have hid : utf8 window.id ≠ [] := by
    intro hnil
    exact hne (utf8_inj (hnil.trans rfl))
  unfold windowWords
  rw [blocks_cons, blocks_cons, List.append_assoc, List.append_assoc, List.append_assoc]
  exact .window (utf8 window.id) _ hid hlength (id_bytes hchars)

theorem observedWords_next (h : ∀ window ∈ windows, AdmittedWindow window) : Next (observedWords windows schedules) := by
  unfold observedWords
  cases windows with
  | cons window windows =>
    rw [List.flatMap_cons, List.append_assoc]
    exact windowWords_next (h window List.mem_cons_self).resolved _
  | nil =>
    cases schedules with
    | nil => exact .nil
    | cons schedule schedules => exact .schedule _ _ (leBytes_length _ _)

theorem schedule_short (schedule : UInt64) : (leBytes 8 schedule.toNat).length < 2 ^ 64 := by
  rw [leBytes_length]
  decide

/-- A window and a schedule differ in what comes after the first block. -/
theorem window_ne_schedules (h : AdmittedWindow window) : windowWords window ++ r ≠ schedules.flatMap scheduleWords := by
  intro heq
  unfold windowWords at heq
  rw [blocks_cons, blocks_cons, List.append_assoc, List.append_assoc, List.append_assoc] at heq
  cases schedules with
  | nil => cases heq
  | cons schedule schedules =>
    have hid : (utf8 window.id).length < 2 ^ 64 := lt_of_le_of_lt h.resolved.id.2.1 (by decide)
    obtain ⟨_, hrest⟩ := block_inj hid (schedule_short schedule) heq
    cases schedules with
    | nil => cases hrest
    | cons schedule' schedules' =>
      have hlength := (List.cons.inj hrest).1
      rw [leBytes_length, leBytes_length] at hlength
      exact absurd hlength (by decide)

theorem windowWords_inj (h : AdmittedWindow window) (h' : AdmittedWindow window') (hr : Next r) (hs : Next s)
    (heq : windowWords window ++ r = windowWords window' ++ s) : window = window' ∧ r = s := by
  have hfits : ∀ {window : UsageWindow}, AdmittedWindow window → ∀ bytes ∈ [utf8 window.id, leBytes 2 window.startMinute,
      leBytes 2 window.endMinute, utf8 window.timezone, [usageTimezoneSourceTag window.timezoneSource], utf8 window.rulesetVersion],
      bytes.length < 2 ^ 64 := by
    intro window h
    simp only [List.forall_mem_cons, List.not_mem_nil, false_implies, implies_true, and_true, leBytes_length, List.length_singleton]
    exact ⟨lt_of_le_of_lt h.resolved.id.2.1 (by decide), by decide, by decide, h.timezone, by decide, h.rulesetVersion⟩
  unfold windowWords at heq
  rw [List.append_assoc, List.append_assoc] at heq
  obtain ⟨hparts, hdays⟩ := blocks_inj (by rfl) (hfits h) (hfits h') heq
  obtain ⟨hdays, hrest⟩ := days_inj hr hs _ hdays
  simp only [List.cons.injEq, and_true] at hparts
  obtain ⟨hid, hstart, hend, htimezone, hsource, hruleset⟩ := hparts
  refine ⟨?_, hrest⟩
  have hminutes : ∀ {m n : Nat}, m < 24 * 60 → n < 24 * 60 → leBytes 2 m = leBytes 2 n → m = n := by
    intro m n hm hn hbytes
    have hnat := congrArg leNat hbytes
    rw [leNat_leBytes (by omega), leNat_leBytes (by omega)] at hnat
    exact hnat
  have hsame : window.timezoneSource = window'.timezoneSource := by
    revert hsource
    cases window.timezoneSource <;> cases window'.timezoneSource <;> decide
  apply UsageWindow.key_injective
  unfold UsageWindow.key
  rw [utf8_inj hid, hminutes h.resolved.startMinute h'.resolved.startMinute hstart,
    hminutes h.resolved.endMinute h'.resolved.endMinute hend, hdays, utf8_inj htimezone, hsame, utf8_inj hruleset]

theorem schedules_inj (schedules : List UInt64) : ∀ {schedules' : List UInt64},
    schedules.flatMap scheduleWords = schedules'.flatMap scheduleWords → schedules = schedules' := by
  induction schedules with
  | nil =>
    intro schedules' h
    cases schedules' with
    | nil => rfl
    | cons schedule' schedules' => cases h
  | cons schedule schedules ih =>
    intro schedules' h
    cases schedules' with
    | nil => cases h
    | cons schedule' schedules' =>
      rw [List.flatMap_cons, List.flatMap_cons] at h
      obtain ⟨hhead, htail⟩ := block_inj (schedule_short _) (schedule_short _) h
      rw [u64_bytes hhead, ih htail]

theorem observedWords_inj (windows : List UsageWindow) : ∀ {windows' : List UsageWindow},
    (∀ window ∈ windows, AdmittedWindow window) → (∀ window ∈ windows', AdmittedWindow window) →
      observedWords windows schedules = observedWords windows' schedules' → windows = windows' ∧ schedules = schedules' := by
  induction windows with
  | nil =>
    intro windows' _ hadmitted' h
    cases windows' with
    | nil => exact ⟨rfl, schedules_inj _ h⟩
    | cons window' windows' =>
      unfold observedWords at h
      rw [List.flatMap_cons, List.append_assoc, List.flatMap_nil, List.nil_append] at h
      exact absurd h.symm (window_ne_schedules (hadmitted' window' List.mem_cons_self))
  | cons window windows ih =>
    intro windows' hadmitted hadmitted' h
    have hhere := hadmitted window List.mem_cons_self
    have hlater := fun w hw => hadmitted w (List.mem_cons_of_mem _ hw)
    cases windows' with
    | nil =>
      unfold observedWords at h
      rw [List.flatMap_cons, List.append_assoc, List.flatMap_nil, List.nil_append] at h
      exact absurd h (window_ne_schedules hhere)
    | cons window' windows' =>
      have hhere' := hadmitted' window' List.mem_cons_self
      have hlater' := fun w hw => hadmitted' w (List.mem_cons_of_mem _ hw)
      have hwords : windowWords window ++ observedWords windows schedules =
          windowWords window' ++ observedWords windows' schedules' := by
        unfold observedWords at h ⊢
        rw [List.flatMap_cons, List.flatMap_cons, List.append_assoc, List.append_assoc] at h
        exact h
      obtain ⟨hwindow, hrest⟩ := windowWords_inj hhere hhere' (observedWords_next hlater) (observedWords_next hlater') hwords
      obtain ⟨hwindows, hschedules⟩ := ih hlater hlater' hrest
      exact ⟨by rw [hwindow, hwindows], hschedules⟩

end Windows

/-! ## Optional values -/

section Options

variable {α β : Type} {bytes : α → List Byte} {bytes' : β → List Byte} {value value' : Sourced α} {r s : List UInt64}

theorem sourceTag_inj {source source' : ConfigSource} (h : sourceTag source = sourceTag source') : source = source' := by
  revert h
  cases source <;> cases source' <;> decide

theorem sourced_short (h : (bytes value.value).length < 2 ^ 64) : ∀ part ∈ sourced bytes value, part.length < 2 ^ 64 := by
  unfold sourced
  simp only [List.forall_mem_cons, List.not_mem_nil, false_implies, implies_true, and_true]
  exact ⟨h, by rw [List.length_singleton]; decide⟩

/-- The bytes of two values that are not the same begin different words. -/
theorem sourced_ne {other : Sourced β} (h : (bytes value.value).length < 2 ^ 64) (h' : (bytes' other.value).length < 2 ^ 64)
    (hne : bytes value.value ≠ bytes' other.value) : blocks (sourced bytes value) ++ r ≠ blocks (sourced bytes' other) ++ s := by
  intro heq
  obtain ⟨hparts, _⟩ := blocks_inj (by rfl) (sourced_short h) (sourced_short h') heq
  exact hne (List.cons.inj hparts).1

theorem sourced_eq (hinj : bytes value.value = bytes value'.value → value.value = value'.value)
    (hvalue : bytes value.value = bytes value'.value) (htag : sourceTag value.source = sourceTag value'.source) : value = value' := by
  obtain ⟨v, source⟩ := value
  obtain ⟨v', source'⟩ := value'
  have hsame : v = v' := hinj hvalue
  have hsource : source = source' := sourceTag_inj htag
  rw [hsame, hsource]

theorem sourced_inj (hinj : bytes value.value = bytes value'.value → value.value = value'.value)
    (h : (bytes value.value).length < 2 ^ 64) (h' : (bytes value'.value).length < 2 ^ 64)
    (heq : blocks (sourced bytes value) ++ r = blocks (sourced bytes value') ++ s) : value = value' ∧ r = s := by
  obtain ⟨hparts, hrest⟩ := blocks_inj (by rfl) (sourced_short h) (sourced_short h') heq
  obtain ⟨hvalue, htags⟩ := List.cons.inj hparts
  exact ⟨sourced_eq hinj hvalue (List.cons.inj (List.cons.inj htags).1).1, hrest⟩

/-- A value that differs from those that may be there is not read from what follows it either. -/
theorem optional_ne {found : Option (Sourced α)} {other : Sourced β} (h : ∀ value ∈ found, (bytes value.value).length < 2 ^ 64)
    (h' : (bytes' other.value).length < 2 ^ 64) (hne : ∀ value ∈ found, bytes value.value ≠ bytes' other.value)
    (hr : ∀ t, r ≠ blocks (sourced bytes' other) ++ t) (t : List UInt64) :
    optional (sourced bytes) found ++ r ≠ blocks (sourced bytes' other) ++ t := by
  cases found with
  | none => exact hr t
  | some value => exact sourced_ne (h value rfl) h' (hne value rfl)

/-- The windows and schedules do not begin with a value and its source. -/
theorem observedWords_ne {windows : List UsageWindow} {schedules : List UInt64} (hadmitted : ∀ window ∈ windows, AdmittedWindow window)
    (h : (bytes value.value).length < 2 ^ 64) (t : List UInt64) :
    observedWords windows schedules ≠ blocks (sourced bytes value) ++ t := by
  intro heq
  unfold observedWords sourced at heq
  rw [blocks_cons, blocks_cons, List.append_assoc, List.append_assoc] at heq
  cases windows with
  | cons window windows =>
    have hid : (utf8 window.id).length < 2 ^ 64 :=
      lt_of_le_of_lt (hadmitted window List.mem_cons_self).resolved.id.2.1 (by decide)
    unfold windowWords at heq
    rw [List.flatMap_cons, blocks_cons, blocks_cons] at heq
    simp only [List.append_assoc] at heq
    obtain ⟨_, hrest⟩ := block_inj hid h heq
    have hlength := (List.cons.inj hrest).1
    rw [leBytes_length, List.length_singleton] at hlength
    exact absurd hlength (by decide)
  | nil =>
    cases schedules with
    | nil => cases heq
    | cons schedule schedules =>
      obtain ⟨_, hrest⟩ := block_inj (schedule_short schedule) h heq
      cases schedules with
      | nil => cases hrest
      | cons schedule' schedules' =>
        have hlength := (List.cons.inj hrest).1
        rw [leBytes_length, List.length_singleton] at hlength
        exact absurd hlength (by decide)

end Options

/-! ## Descriptions -/

section Descriptions

variable {config config' : ResolvedConfig} {windows windows' : List UsageWindow} {schedules schedules' : List UInt64}

theorem effort_inj {effort effort' : ReasoningEffort} (h : utf8 effort.asStr = utf8 effort'.asStr) : effort = effort' := by
  revert h
  cases effort <;> cases effort' <;> decide

theorem tier_inj {tier tier' : ServiceTier} (h : utf8 tier.asStr = utf8 tier'.asStr) : tier = tier' := by
  revert h
  cases tier <;> cases tier' <;> decide

theorem mode_inj {mode mode' : ContextMode} (h : utf8 mode.asStr = utf8 mode'.asStr) : mode = mode' := by
  revert h
  cases mode <;> cases mode' <;> decide

/-- The texts of the three enumerations have no one in common, and none is the bytes of a bound on tokens. -/
theorem texts_apart (effort : ReasoningEffort) (tier : ServiceTier) (mode : ContextMode) :
    utf8 effort.asStr ≠ utf8 tier.asStr ∧ utf8 effort.asStr ≠ utf8 mode.asStr ∧ utf8 tier.asStr ≠ utf8 mode.asStr := by
  refine ⟨?_, ?_, ?_⟩
  · cases effort <;> cases tier <;> decide
  · cases effort <;> cases mode <;> decide
  · cases tier <;> cases mode <;> decide

theorem texts_large (effort : ReasoningEffort) (tier : ServiceTier) (mode : ContextMode) :
    ∀ text ∈ [effort.asStr, tier.asStr, mode.asStr], (utf8 text).length ≤ 15 ∧ maxOutputTokens.toNat < leNat (utf8 text) := by
  simp only [List.forall_mem_cons, List.not_mem_nil, false_implies, implies_true, and_true]
  refine ⟨?_, ?_, ?_⟩
  · cases effort <;> decide
  · cases tier <;> decide
  · cases mode <;> decide

theorem u32Bytes_short (value : UInt32) : (u32Bytes value).length < 2 ^ 64 := by
  unfold u32Bytes
  rw [leBytes_length]
  decide

theorem leNat_u32Bytes (value : UInt32) : leNat (u32Bytes value) = value.toNat := leNat_leBytes value.toNat_lt

theorem u32Bytes_inj {value value' : UInt32} (h : u32Bytes value = u32Bytes value') : value = value' := by
  have hnat := congrArg leNat h
  rw [leNat_u32Bytes, leNat_u32Bytes] at hnat
  exact UInt32.toNat_inj.mp hnat

theorem tokens_ne {tokens : UInt32} (h : tokens ≤ maxOutputTokens) {text : List Byte} (htext : maxOutputTokens.toNat < leNat text) :
    text ≠ u32Bytes tokens := by
  intro heq
  rw [heq, leNat_u32Bytes] at htext
  exact absurd (UInt32.le_iff_toNat_le.mp h) (by omega)

/-- A mode that is not stated is the built-in one. -/
theorem statedContextMode_inj (h : config.statedContextMode = config'.statedContextMode) : config.contextMode = config'.contextMode := by
  have hbuiltIn : ∀ {config : ResolvedConfig}, ¬ (config.contextMode.value ≠ .canonical ∨ config.contextMode.source ≠ .builtIn) →
      config.contextMode = ⟨.canonical, .builtIn⟩ := by
    intro config hnot
    obtain ⟨hvalue, hsource⟩ := not_or.mp hnot
    rw [not_not] at hvalue hsource
    rw [← hvalue, ← hsource]
  unfold ResolvedConfig.statedContextMode at h
  by_cases hstated : config.contextMode.value ≠ .canonical ∨ config.contextMode.source ≠ .builtIn
  · rw [if_pos hstated] at h
    by_cases hstated' : config'.contextMode.value ≠ .canonical ∨ config'.contextMode.source ≠ .builtIn
    · rw [if_pos hstated'] at h
      exact Option.some.inj h
    · rw [if_neg hstated'] at h
      cases h
  · rw [if_neg hstated] at h
    by_cases hstated' : config'.contextMode.value ≠ .canonical ∨ config'.contextMode.source ≠ .builtIn
    · rw [if_pos hstated'] at h
      cases h
    · rw [hbuiltIn hstated, hbuiltIn hstated']

/-- The optional values, one after the other: each is told from the later ones and from what follows them all. -/
theorem options_inj (hconfig : config.Checked) (hconfig' : config'.Checked) (hwindows : ∀ window ∈ windows, AdmittedWindow window)
    (hwindows' : ∀ window ∈ windows', AdmittedWindow window)
    (h : optional (sourced u32Bytes) config.maxOutputTokens ++
        (optional (sourced fun effort => utf8 effort.asStr) config.reasoningEffort ++
        (optional (sourced fun tier => utf8 tier.asStr) config.serviceTier ++
        (optional (sourced fun mode => utf8 mode.asStr) config.statedContextMode ++ observedWords windows schedules))) =
      optional (sourced u32Bytes) config'.maxOutputTokens ++
        (optional (sourced fun effort => utf8 effort.asStr) config'.reasoningEffort ++
        (optional (sourced fun tier => utf8 tier.asStr) config'.serviceTier ++
        (optional (sourced fun mode => utf8 mode.asStr) config'.statedContextMode ++ observedWords windows' schedules')))) :
    (config.maxOutputTokens = config'.maxOutputTokens ∧ config.reasoningEffort = config'.reasoningEffort ∧
      config.serviceTier = config'.serviceTier ∧ config.contextMode = config'.contextMode) ∧
      observedWords windows schedules = observedWords windows' schedules' := by
  have heffort : ∀ effort : ReasoningEffort, (utf8 effort.asStr).length < 2 ^ 64 := fun effort =>
    lt_of_le_of_lt (texts_large effort .auto .canonical _ (by simp)).1 (by decide)
  have htier : ∀ tier : ServiceTier, (utf8 tier.asStr).length < 2 ^ 64 := fun tier =>
    lt_of_le_of_lt (texts_large .none tier .canonical _ (by simp)).1 (by decide)
  have hmode : ∀ mode : ContextMode, (utf8 mode.asStr).length < 2 ^ 64 := fun mode =>
    lt_of_le_of_lt (texts_large .none .auto mode _ (by simp)).1 (by decide)
  -- What follows a tier is not read as one, what follows an effort is not, and what follows the tokens is not.
  have htiers : ∀ {config : ResolvedConfig} {windows : List UsageWindow} {schedules : List UInt64},
      (∀ window ∈ windows, AdmittedWindow window) → ∀ tier : Sourced ServiceTier, ∀ t,
        optional (sourced fun mode => utf8 mode.asStr) config.statedContextMode ++ observedWords windows schedules ≠
          blocks (sourced (fun tier => utf8 tier.asStr) tier) ++ t := by
    intro config windows schedules hwindows tier
    refine optional_ne (fun mode _ => hmode _) (htier _) (fun mode _ => ?_) (observedWords_ne hwindows (htier _))
    exact (texts_apart .none tier.value mode.value).2.2.symm
  have hefforts : ∀ {config : ResolvedConfig} {windows : List UsageWindow} {schedules : List UInt64},
      (∀ window ∈ windows, AdmittedWindow window) → ∀ effort : Sourced ReasoningEffort, ∀ t,
        optional (sourced fun tier => utf8 tier.asStr) config.serviceTier ++
            (optional (sourced fun mode => utf8 mode.asStr) config.statedContextMode ++ observedWords windows schedules) ≠
          blocks (sourced (fun effort => utf8 effort.asStr) effort) ++ t := by
    intro config windows schedules hwindows effort
    refine optional_ne (fun tier _ => htier _) (heffort _) (fun tier _ => ?_) (optional_ne (fun mode _ => hmode _) (heffort _)
      (fun mode _ => ?_) (observedWords_ne hwindows (heffort _)))
    · exact (texts_apart effort.value tier.value .canonical).1.symm
    · exact (texts_apart effort.value .auto mode.value).2.1.symm
  have htokens : ∀ {config : ResolvedConfig} {windows : List UsageWindow} {schedules : List UInt64},
      (∀ window ∈ windows, AdmittedWindow window) → ∀ tokens : Sourced UInt32, tokens.value ≤ maxOutputTokens → ∀ t,
        optional (sourced fun effort => utf8 effort.asStr) config.reasoningEffort ++
            (optional (sourced fun tier => utf8 tier.asStr) config.serviceTier ++
            (optional (sourced fun mode => utf8 mode.asStr) config.statedContextMode ++ observedWords windows schedules)) ≠
          blocks (sourced u32Bytes tokens) ++ t := by
    intro config windows schedules hwindows tokens hbound
    refine optional_ne (fun effort _ => heffort _) (u32Bytes_short _) (fun effort _ => ?_) (optional_ne (fun tier _ => htier _)
      (u32Bytes_short _) (fun tier _ => ?_) (optional_ne (fun mode _ => hmode _) (u32Bytes_short _) (fun mode _ => ?_)
        (observedWords_ne hwindows (u32Bytes_short _))))
    · exact tokens_ne hbound (texts_large effort.value .auto .canonical _ (by simp)).2
    · exact tokens_ne hbound (texts_large .none tier.value .canonical _ (by simp)).2
    · exact tokens_ne hbound (texts_large .none .auto mode.value _ (by simp)).2
  obtain ⟨hsameTokens, h⟩ := optional_inj (fun tokens _ tokens' _ _ _ =>
      sourced_inj u32Bytes_inj (u32Bytes_short _) (u32Bytes_short _))
    (fun tokens hmem => htokens hwindows tokens (hconfig'.maxOutputTokens tokens hmem))
    (fun tokens hmem => htokens hwindows' tokens (hconfig.maxOutputTokens tokens hmem)) h
  obtain ⟨hsameEffort, h⟩ := optional_inj (fun effort _ effort' _ _ _ => sourced_inj effort_inj (heffort _) (heffort _))
    (fun effort _ => hefforts hwindows effort) (fun effort _ => hefforts hwindows' effort) h
  obtain ⟨hsameTier, h⟩ := optional_inj (fun tier _ tier' _ _ _ => sourced_inj tier_inj (htier _) (htier _))
    (fun tier _ => htiers hwindows tier) (fun tier _ => htiers hwindows' tier) h
  obtain ⟨hsameMode, h⟩ := optional_inj (fun mode _ mode' _ _ _ => sourced_inj mode_inj (hmode _) (hmode _))
    (fun mode _ => observedWords_ne hwindows (hmode _)) (fun mode _ => observedWords_ne hwindows' (hmode _)) h
  exact ⟨⟨hsameTokens, hsameEffort, hsameTier, statedContextMode_inj hsameMode⟩, h⟩

end Descriptions

/-- Configurations of layers that resolve, with windows that a validator let through, are described by the same words only if
    they are the same, value by value and source by source, with the same windows and the same fingerprints of schedules. -/
theorem description_unambiguous {layers layers' : ConfigLayers} {config config' : ResolvedConfig}
    {windows windows' : List UsageWindow} {schedules schedules' : List UInt64} (hconfig : layers.resolve = .ok config)
    (hconfig' : layers'.resolve = .ok config') (hwindows : ∀ window ∈ windows, AdmittedWindow window)
    (hwindows' : ∀ window ∈ windows', AdmittedWindow window)
    (h : fingerprintWords config windows schedules = fingerprintWords config' windows' schedules') :
    config = config' ∧ windows = windows' ∧ schedules = schedules' := by
  have hchecked := ConfigLayers.resolve_checked hconfig
  have hchecked' := ConfigLayers.resolve_checked hconfig'
  have hshort : ∀ {config : ResolvedConfig}, config.Checked → ∀ part ∈ [leBytes 2 configSchemaVersion] ++
      sourced utf8 config.providerProfile ++ sourced utf8 config.providerModel ++ sourced u32Bytes config.maxOutputBytes,
      part.length < 2 ^ 64 := by
    intro config hchecked part hmem
    simp only [List.mem_append, List.mem_singleton] at hmem
    rcases hmem with ((hversion | hprofile) | hmodel) | hbytes
    · rw [hversion]
      decide
    · exact sourced_short (lt_of_le_of_lt hchecked.providerProfile (by decide)) part hprofile
    · exact sourced_short (lt_of_le_of_lt hchecked.providerModel (by decide)) part hmodel
    · exact sourced_short (u32Bytes_short _) part hbytes
  unfold fingerprintWords at h
  obtain ⟨hparts, hrest⟩ := blocks_inj (by rfl) (hshort hchecked) (hshort hchecked') h
  obtain ⟨⟨htokens, heffort, htier, hmode⟩, hobserved⟩ := options_inj hchecked hchecked' hwindows hwindows' hrest
  obtain ⟨hwindows, hschedules⟩ := observedWords_inj windows hwindows hwindows' hobserved
  refine ⟨?_, hwindows, hschedules⟩
  simp only [sourced, List.cons_append, List.nil_append, List.cons.injEq, and_true, true_and] at hparts
  obtain ⟨hprofile, hprofileTag, hmodel, hmodelTag, hbytes, hbytesTag⟩ := hparts
  have hprofile := sourced_eq utf8_inj hprofile hprofileTag
  have hmodel := sourced_eq utf8_inj hmodel hmodelTag
  have hbytes := sourced_eq u32Bytes_inj hbytes hbytesTag
  cases config
  cases config'
  dsimp only at hprofile hmodel hbytes htokens heffort htier hmode
  rw [hprofile, hmodel, hbytes, htokens, heffort, htier, hmode]

section Examples

/-- The user's model over another one. -/
def modelLayers (overridden : String) : ConfigLayers :=
  ⟨⟨some "simulator", some overridden, some 65536, none, none, none, some .canonical⟩,
    ⟨none, some "deterministic-v1", none, some 4096, some .low, some .priority, none⟩, .default, .default⟩

def modelConfig : ResolvedConfig :=
  ⟨⟨"simulator", .builtIn⟩, ⟨"deterministic-v1", .user⟩, ⟨65536, .builtIn⟩, some ⟨4096, .user⟩, some ⟨.low, .user⟩,
    some ⟨.priority, .user⟩, ⟨.canonical, .builtIn⟩⟩

def utcLibrary : TimeLibrary := ⟨fun _ => none, fun _ => true, fun name => if name = "UTC" then some "UTC" else none, none, some "2025b"⟩

/-- The id is of the length of a day's tag. -/
def lowWindow : UsageWindow := ⟨"low", 540, 1020, [.mon, .tue], "UTC", .explicit, "2025b", by decide⟩

theorem lowWindow_admitted : ∀ window ∈ [lowWindow], AdmittedWindow window := by
  intro window hwindow
  rw [List.mem_singleton.mp hwindow]
  exact ⟨Or.inl ⟨utcLibrary, "low", "09:00", "17:00", [.tue, .mon], "UTC", by decide +kernel⟩, by decide, by decide⟩

/-- The overridden model is not described. -/
theorem description_unambiguous_overridden : ∃ config config', (modelLayers "first").resolve = .ok config ∧
    (modelLayers "second").resolve = .ok config' ∧ config = config' ∧ [lowWindow] = [lowWindow] ∧ [(8 : UInt64)] = [8] :=
  ⟨modelConfig, modelConfig, by decide +kernel, by decide +kernel,
    @description_unambiguous (modelLayers "first") (modelLayers "second") _ _ _ _ _ _ (by decide +kernel) (by decide +kernel)
      lowWindow_admitted lowWindow_admitted rfl⟩

end Examples

end GreenTyper.Config
