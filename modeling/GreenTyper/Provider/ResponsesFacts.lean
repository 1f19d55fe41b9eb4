/-
  GreenTyper.Provider.ResponsesFacts — the facts that an accepted Responses stream leaves.

  The creation comes first, then text and Tool calls, then what ended the stream. A completed
  stream has one Tool call fact for each `function_call_arguments.done` it accepted, with the
  canonical form of its arguments, and the service tier of its `response.completed`.
-/

import GreenTyper.Provider.ResponsesSteps

namespace GreenTyper.Provider

open Lib Responses

/-! ## What an event says -/

def doneArguments (json : ResponsesJson) (event : SseEvent) : Option String :=
  if (json.envelope event.data).map (·.kind) = some "response.function_call_arguments.done" then
    (json.argumentsDone event.data).map (·.arguments)
  else none

def completedTier (json : ResponsesJson) (event : SseEvent) : Option String :=
  if (json.envelope event.data).map (·.kind) = some "response.completed" then (json.response event.data).bind (·.serviceTier)
  else none

structure FunctionCallState.Valid (f : FunctionCallState) : Prop where
  callId : validateIdentifier ResponsesState.checkErrors f.callId = .ok ()
  name : validateToolName ResponsesState.checkErrors f.name = .ok ()

/-- A service tier that the decoder lets pass. -/
def TierAccepted (tier : String) : Prop := byteLen tier ≤ maxServiceTierBytes ∧ tier.toList.any isControl = false

namespace ResponsesState

variable {json : ResponsesJson} {s s' : ResponsesState}

/-! ## One event -/

/-- An accepted event with these done arguments and this service tier. -/
inductive Accepts (json : ResponsesJson) (s : ResponsesState) :
    Option String → Option String → ResponsesState → Option ResponsesEventKind → Prop
  | created (id : String) : s.responseId = none →
      Accepts json s none none { s with responseId := some id } (some (.created id))
  | nothing : Accepts json s none none s none
  | text (index : Nat) (kind : TextItemKind) (item : TextItemState) (s' : ResponsesState) (emitted : Option ResponsesEventKind) :
      (∀ f, s.items.get index ≠ some (.functionCall f)) → (s.responseId.isSome ∨ ∃ item, s.items.get index = some item) →
      Changed s index (.text kind item) s' → (∀ kind ∈ emitted, ∃ id i c delta, kind = .textDelta id i c delta) →
      Accepts json s none none s' emitted
  | callAdded (index : Nat) (f : FunctionCallState) (s' : ResponsesState) : s.items.get index = none → s.responseId.isSome →
      f.Valid → f.argumentsDone = false → f.done = false → Changed s index (.functionCall f) s' →
      Accepts json s none none s' none
  | callDelta (index : Nat) (f f' : FunctionCallState) (s' : ResponsesState) : s.items.get index = some (.functionCall f) →
      f.argumentsDone = false → f' = { f with arguments := f'.arguments } → Changed s index (.functionCall f') s' →
      Accepts json s none none s' none
  | callArguments (index : Nat) (f : FunctionCallState) (text canonical : String) (s' : ResponsesState) :
      s.items.get index = some (.functionCall f) → f.argumentsDone = false → f.done = false →
      canonicalArguments checkErrors json.value text = .ok canonical →
      Changed s index (.functionCall { f with canonicalArguments := some canonical, argumentsDone := true }) s' →
      Accepts json s (some text) none s' none
  | callDone (index : Nat) (f : FunctionCallState) (arguments : String) (s' : ResponsesState) :
      s.items.get index = some (.functionCall f) → f.argumentsDone = true → f.canonicalArguments = some arguments →
      Changed s index (.functionCall { f with done := true }) s' →
      Accepts json s none none s' (some (.functionCall f.id index f.callId f.name arguments))
  | completed (id : String) (usage : Option ResponsesUsage) (tier : Option String) : s.responseId = some id →
      (∀ item ∈ s.items.values, item.isDone = true) → (∀ value ∈ tier, TierAccepted value) →
      Accepts json s none tier { s with terminal := true } (some (.completed id usage tier))
  | broken (kind : ResponsesEventKind) : Broken kind → Accepts json s none none { s with terminal := true } (some kind)

theorem validateOptionalText_ok {value result : Option String} (h : validateOptionalText value maxServiceTierBytes = .ok result) :
    result = value ∧ ∀ tier ∈ result, TierAccepted tier := by
  cases value with
  | none =>
    cases h
    exact ⟨rfl, by simp⟩
  | some value =>
    simp only [validateOptionalText, validateText, bind_ok, require_ok, exists_const, not_or, Bool.not_eq_true, Nat.not_lt, pure,
      Except.pure, Except.ok.injEq] at h
    obtain ⟨_, ⟨hvalid, rfl⟩, rfl⟩ := h
    refine ⟨rfl, ?_⟩
    rintro _ ⟨⟩
    exact hvalid

theorem handle_accepts {event : SseEvent} {envelope : WireEnvelope} {emitted : Option ResponsesEventKind}
    (henvelope : json.envelope event.data = some envelope) (h : s.handle json envelope.kind event.data = .ok (s', emitted)) :
    Accepts json s (doneArguments json event) (completedTier json event) s' emitted := by
  rw [doneArguments, completedTier, henvelope]
  unfold handle at h
  split at h
  case h_17 => cases h
  all_goals
    rename_i hkind
    simp only [hkind, Option.map_some, Option.some.injEq, String.reduceEq, if_true, if_false]
  · obtain ⟨id, hid, _, rfl, rfl⟩ := created_ok h
    exact .created id hid
  · obtain ⟨rfl, rfl⟩ := inProgress_ok h
    exact .nothing
  · obtain ⟨index, wire, item, hid, hnew, hitem, hchanged, rfl⟩ := outputItemAdded_ok h
    rcases addedItem_ok hitem with ⟨kind, rfl⟩ | ⟨callId, name, hcallId, hname, rfl⟩
    · exact .text index kind _ s' none (by simp [hnew]) (.inl hid) hchanged (by simp)
    · exact .callAdded index _ s' hnew hid ⟨hcallId, hname⟩ rfl rfl hchanged
  · obtain ⟨wire, kind, item, text, _, _, _, hget, _, _, hchanged, rfl⟩ := contentPartAdded_ok h
    exact .text _ kind _ s' none (by simp [hget]) (.inr ⟨_, hget⟩) hchanged (by simp)
  · obtain ⟨wire, item, part, _, hget, _, _, _, _, hchanged, rfl⟩ := textDelta_ok h
    exact .text _ .message _ s' _ (by simp [hget]) (.inr ⟨_, hget⟩) hchanged (by simp [emittedDelta])
  · obtain ⟨wire, item, part, _, hget, _, _, _, _, _, hchanged, rfl⟩ := textDone_ok h
    exact .text _ .message _ s' none (by simp [hget]) (.inr ⟨_, hget⟩) hchanged (by simp)
  · obtain ⟨wire, item, part, _, hget, _, _, _, _, hchanged, rfl⟩ := textDelta_ok h
    exact .text _ .reasoning _ s' _ (by simp [hget]) (.inr ⟨_, hget⟩) hchanged (by simp [emittedDelta])
  · obtain ⟨wire, item, part, _, hget, _, _, _, _, _, hchanged, rfl⟩ := textDone_ok h
    exact .text _ .reasoning _ s' none (by simp [hget]) (.inr ⟨_, hget⟩) hchanged (by simp)
  · obtain ⟨wire, kind, item, part, _, _, _, hget, _, _, _, _, hchanged, rfl⟩ := contentPartDone_ok h
    exact .text _ kind _ s' none (by simp [hget]) (.inr ⟨_, hget⟩) hchanged (by simp)
  · obtain ⟨index, f, f', hget, hdone, hf', hchanged, rfl⟩ := functionArgumentsDelta_ok h
    exact .callDelta index f f' s' hget hdone hf' hchanged
  · obtain ⟨wire, f, canonical, hwire, hget, harguments, hdone, hcanonical, hchanged, rfl⟩ := functionArgumentsDone_ok h
    rw [hwire]
    exact .callArguments _ f _ canonical s' hget harguments hdone hcanonical hchanged
  · obtain ⟨wire, _, ⟨kind, item, hget, _, _, _, _, hchanged, rfl⟩ | ⟨f, arguments, hget, _, hdone, _, hcanonical, hchanged, rfl⟩⟩ :=
      outputItemDone_ok h
    · exact .text _ kind _ s' none (by simp [hget]) (.inr ⟨_, hget⟩) hchanged (by simp)
    · exact .callDone _ f arguments s' hget hdone hcanonical hchanged
  · obtain ⟨wire, tier, hwire, hid, hitems, htier, rfl, rfl⟩ := completed_ok h
    obtain ⟨rfl, hvalid⟩ := validateOptionalText_ok htier
    rw [hwire]
    exact .completed _ _ _ hid hitems hvalid
  · obtain ⟨rfl, kind, rfl, hbroken⟩ := failed_ok h
    exact .broken kind hbroken
  · obtain ⟨rfl, kind, rfl, hbroken⟩ := incomplete_ok h
    exact .broken kind hbroken
  · obtain ⟨rfl, kind, rfl, hbroken⟩ := error_ok h
    exact .broken kind hbroken

/-! ## The facts of a stream -/

/-- The canonical form of arguments that a stream called done. -/
def Canonical (json : ResponsesJson) (text arguments : String) : Prop :=
  canonicalArguments checkErrors json.value text = .ok arguments

/-- A fact between the creation and the end of a stream. -/
inductive InBody (json : ResponsesJson) (texts : List String) : ResponsesEventKind → Prop
  | text (id : String) (index content : Nat) (delta : String) : InBody json texts (.textDelta id index content delta)
  | call (id : String) (index : Nat) (callId name text arguments : String) : validateIdentifier checkErrors callId = .ok () →
      validateToolName checkErrors name = .ok () → text ∈ texts → Canonical json text arguments →
      InBody json texts (.functionCall id index callId name arguments)

def IsCall (arguments : String) (kind : ResponsesEventKind) : Prop :=
  ∃ id index callId name, kind = .functionCall id index callId name arguments

/-- A Tool call item: once its arguments are done it holds their canonical form, and once it is done a fact says so. -/
structure CallKept (json : ResponsesJson) (texts : List String) (kinds : List ResponsesEventKind) (f : FunctionCallState) : Prop where
  valid : f.Valid
  pending : f.done = true → f.argumentsDone = true
  canonical : f.argumentsDone = true → ∃ text ∈ texts, ∃ arguments, f.canonicalArguments = some arguments ∧
    Canonical json text arguments
  said : f.done = true → ∃ arguments, f.canonicalArguments = some arguments ∧ ∃ kind ∈ kinds, IsCall arguments kind

inductive Shape (json : ResponsesJson) (texts tiers : List String) (s : ResponsesState) : List ResponsesEventKind → Prop
  | fresh : s.terminal = false → s.responseId = none → tiers = [] → Shape json texts tiers s []
  | running (id : String) (body : List ResponsesEventKind) : s.terminal = false → s.responseId = some id → tiers = [] →
      (∀ kind ∈ body, InBody json texts kind) → Shape json texts tiers s (.created id :: body)
  | completed (id : String) (body : List ResponsesEventKind) (usage : Option ResponsesUsage) (tier : Option String) :
      s.terminal = true → (∀ kind ∈ body, InBody json texts kind) → tiers = tier.toList → (∀ value ∈ tier, TierAccepted value) →
      (∀ text ∈ texts, ∃ arguments, Canonical json text arguments ∧ ∃ kind ∈ body, IsCall arguments kind) →
      Shape json texts tiers s (.created id :: (body ++ [.completed id usage tier]))
  | broken (before : List ResponsesEventKind) (kind : ResponsesEventKind) : s.terminal = true → Broken kind →
      (before = [] ∨ ∃ id body, before = .created id :: body ∧ ∀ kind ∈ body, InBody json texts kind) →
      Shape json texts tiers s (before ++ [kind])

/-- A state after the events of a stream with these done arguments, service tiers and facts. -/
structure Kept (json : ResponsesJson) (texts tiers : List String) (s : ResponsesState) (kinds : List ResponsesEventKind) : Prop where
  known : s.responseId = none → ∀ index, s.items.get index = none
  calls : ∀ index f, s.items.get index = some (.functionCall f) → CallKept json texts kinds f
  held : ∀ text ∈ texts, ∃ index f, s.items.get index = some (.functionCall f) ∧ f.argumentsDone = true ∧
    ∃ arguments, f.canonicalArguments = some arguments ∧ Canonical json text arguments
  shape : Shape json texts tiers s kinds

def factKinds (s : ResponsesState) : List ResponsesEventKind := s.events.map (·.kind)

section Step

variable {texts tiers : List String} {kinds : List ResponsesEventKind} {text : String}

theorem InBody.mono {kind : ResponsesEventKind} (h : InBody json texts kind) (more : List String) :
    InBody json (texts ++ more) kind := by
  cases h with
  | text => exact .text ..
  | call id index callId name text arguments hid hname htext hcanonical =>
    exact .call id index callId name text arguments hid hname (List.mem_append_left _ htext) hcanonical

theorem CallKept.mono {f : FunctionCallState} (h : CallKept json texts kinds f) (moreTexts : List String)
    (moreKinds : List ResponsesEventKind) : CallKept json (texts ++ moreTexts) (kinds ++ moreKinds) f where
  valid := h.valid
  pending := h.pending
  canonical hdone := by
    obtain ⟨text, htext, rest⟩ := h.canonical hdone
    exact ⟨text, List.mem_append_left _ htext, rest⟩
  said hdone := by
    obtain ⟨arguments, hcanonical, kind, hkind, hcall⟩ := h.said hdone
    exact ⟨arguments, hcanonical, kind, List.mem_append_left _ hkind, hcall⟩

/-- Before the end of a stream more done arguments and facts of its body may follow. -/
theorem Shape.say (h : Shape json texts tiers s kinds) (hterminal : s.terminal = false) (hid : s.responseId.isSome)
    (hterminal' : s'.terminal = s.terminal) (hid' : s'.responseId = s.responseId) (more : List String)
    {said : List ResponsesEventKind} (hsaid : ∀ kind ∈ said, InBody json (texts ++ more) kind) :
    Shape json (texts ++ more) tiers s' (kinds ++ said) := by
  cases h with
  | fresh _ hnone =>
    rw [hnone] at hid
    cases hid
  | running id body _ hsome htiers hbody =>
    refine .running id (body ++ said) (hterminal'.trans hterminal) (hid'.trans hsome) htiers fun kind hkind => ?_
    rcases List.mem_append.mp hkind with hkind | hkind
    · exact (hbody kind hkind).mono more
    · exact hsaid kind hkind
  | completed _ _ _ _ hend =>
    rw [hterminal] at hend
    cases hend
  | broken _ _ hend =>
    rw [hterminal] at hend
    cases hend

theorem Kept.isSome (h : Kept json texts tiers s kinds) {index : Nat} {item : OutputItemState} (hget : s.items.get index = some item) :
    s.responseId.isSome := by
  by_contra hnone
  rw [h.known (Option.not_isSome_iff_eq_none.mp hnone)] at hget
  cases hget

/-- A change of one item, with the done arguments and the facts that come with it. -/
theorem Kept.change (h : Kept json texts tiers s kinds) (more : List String) {said : List ResponsesEventKind}
    {index : Nat} {item : OutputItemState} (hterminal : s.terminal = false) (hid : s.responseId.isSome) (hchanged : Changed s index item s')
    (hcall : ∀ f, item = .functionCall f → CallKept json (texts ++ more) (kinds ++ said) f)
    (hkept : ∀ f, s.items.get index = some (.functionCall f) → f.argumentsDone = true →
      ∃ f', item = .functionCall f' ∧ f'.argumentsDone = true ∧ f'.canonicalArguments = f.canonicalArguments)
    (hmore : ∀ text ∈ more, ∃ f, item = .functionCall f ∧ f.argumentsDone = true ∧
      ∃ arguments, f.canonicalArguments = some arguments ∧ Canonical json text arguments)
    (hsaid : ∀ kind ∈ said, InBody json (texts ++ more) kind) : Kept json (texts ++ more) tiers s' (kinds ++ said) where
  known hnone := by
    rw [hchanged.responseId] at hnone
    rw [hnone] at hid
    cases hid
  calls index' f hget := by
    rw [hchanged.items, OrdMap.get_insert] at hget
    split at hget
    · exact hcall f (Option.some.inj hget)
    · exact (h.calls index' f hget).mono more said
  held text htext := by
    rcases List.mem_append.mp htext with htext | htext
    · obtain ⟨index', f, hget, hdone, arguments, hcanonical⟩ := h.held text htext
      by_cases hsame : index = index'
      · obtain ⟨f', rfl, hdone', hsame'⟩ := hkept f (hsame ▸ hget) hdone
        refine ⟨index, f', ?_, hdone', arguments, by rw [hsame']; exact hcanonical⟩
        rw [hchanged.items, OrdMap.get_insert, if_pos rfl]
      · refine ⟨index', f, ?_, hdone, arguments, hcanonical⟩
        rw [hchanged.items, OrdMap.get_insert, if_neg hsame]
        exact hget
    · obtain ⟨f, rfl, hdone, hrest⟩ := hmore text htext
      refine ⟨index, f, ?_, hdone, hrest⟩
      rw [hchanged.items, OrdMap.get_insert, if_pos rfl]
  shape := h.shape.say hterminal hid hchanged.terminal hchanged.responseId more hsaid

/-- Before the end of a stream its facts are the creation, if there was one, and the body. -/
theorem Shape.going (h : Shape json texts tiers s kinds) (hterminal : s.terminal = false) : tiers = [] ∧
    (s.responseId = none ∧ kinds = [] ∨
      ∃ id body, s.responseId = some id ∧ kinds = .created id :: body ∧ ∀ kind ∈ body, InBody json texts kind) := by
  cases h with
  | fresh _ hid htiers => exact ⟨htiers, .inl ⟨hid, rfl⟩⟩
  | running id body _ hid htiers hbody => exact ⟨htiers, .inr ⟨id, body, hid, rfl, hbody⟩⟩
  | completed _ _ _ _ hend =>
    rw [hterminal] at hend
    cases hend
  | broken _ _ hend =>
    rw [hterminal] at hend
    cases hend

theorem Kept.step {arguments tier : Option String} {emitted : Option ResponsesEventKind} (h : Kept json texts tiers s kinds)
    (hterminal : s.terminal = false) (hstep : Accepts json s arguments tier s' emitted) :
    Kept json (texts ++ arguments.toList) (tiers ++ tier.toList) s' (kinds ++ emitted.toList) := by
  have hquiet : ∀ {index item said}, Changed s index item s' → s.responseId.isSome →
      (∀ f, item = .functionCall f → CallKept json texts (kinds ++ said) f) →
      (∀ f, s.items.get index = some (.functionCall f) → f.argumentsDone = true →
        ∃ f', item = .functionCall f' ∧ f'.argumentsDone = true ∧ f'.canonicalArguments = f.canonicalArguments) →
      (∀ kind ∈ said, InBody json texts kind) → Kept json (texts ++ []) (tiers ++ []) s' (kinds ++ said) := by
    intro index item said hchanged hid hcall hkept hsaid
    rw [List.append_nil, List.append_nil]
    have hchange : Kept json (texts ++ []) tiers s' (kinds ++ said) := h.change [] hterminal hid hchanged (by simpa using hcall) hkept
      (by simp) (by simpa using hsaid)
    rwa [List.append_nil] at hchange
  cases hstep with
  | created id hnone =>
    have hitems := h.known hnone
    obtain ⟨rfl, ⟨_, rfl⟩ | ⟨_, _, hid, _⟩⟩ := h.shape.going hterminal
    · refine ⟨by simp, fun index f hget => ?_, fun text htext => ?_, .running id [] hterminal rfl rfl (by simp)⟩
      · have hnoitem := hitems index
        rw [show s.items.get index = some _ from hget] at hnoitem
        cases hnoitem
      · obtain ⟨index, f, hget, _⟩ := h.held text (by simpa using htext)
        rw [hitems index] at hget
        cases hget
    · rw [hnone] at hid
      cases hid
  | nothing => simpa using h
  | text index kind item _ emitted hother hknown hchanged hemitted =>
    refine hquiet hchanged ?_ (by simp) ?_ ?_
    · rcases hknown with hid | ⟨item, hget⟩
      · exact hid
      · exact h.isSome hget
    · intro f hget
      exact absurd hget (hother f)
    · intro kind hkind
      obtain ⟨id, index, content, delta, rfl⟩ := hemitted kind (Option.mem_toList.mp hkind)
      exact .text id index content delta
  | callAdded index f _ hget hid hvalid hargs hdone hchanged =>
    refine hquiet hchanged hid ?_ ?_ (by simp)
    · rintro _ ⟨⟩
      refine ⟨hvalid, fun h => ?_, fun h => ?_, fun h => ?_⟩
      · rw [hdone] at h
        cases h
      · rw [hargs] at h
        cases h
      · rw [hdone] at h
        cases h
    · intro f' hget'
      rw [hget] at hget'
      cases hget'
  | callDelta index f f' _ hget hargs hf' hchanged =>
    have hcall := h.calls index f hget
    have hpending : f.done = false := by
      by_contra hdone
      rw [hcall.pending (Bool.not_eq_false _ ▸ hdone)] at hargs
      cases hargs
    refine hquiet hchanged (h.isSome hget) ?_ ?_ (by simp)
    · rintro _ ⟨⟩
      rw [hf']
      refine ⟨⟨hcall.valid.callId, hcall.valid.name⟩, fun h => ?_, fun h => ?_, fun h => ?_⟩
      · rw [show f.done = true from h] at hpending
        cases hpending
      · rw [show f.argumentsDone = true from h] at hargs
        cases hargs
      · rw [show f.done = true from h] at hpending
        cases hpending
    · intro f1 hget1 hargs1
      rw [hget] at hget1
      cases hget1
      rw [hargs] at hargs1
      cases hargs1
  | callArguments index f text canonical _ hget hargs hdone hcanonical hchanged =>
    have hcall := h.calls index f hget
    rw [show (none : Option String).toList = [] from rfl, List.append_nil]
    refine h.change [text] hterminal (h.isSome hget) hchanged ?_ ?_ ?_ (by simp)
    · rintro _ ⟨⟩
      refine ⟨⟨hcall.valid.callId, hcall.valid.name⟩, fun _ => rfl, fun _ => ?_, fun h => ?_⟩
      · exact ⟨text, List.mem_append_right _ (List.mem_singleton_self _), canonical, rfl, hcanonical⟩
      · rw [show f.done = true from h] at hdone
        cases hdone
    · intro f1 hget1 hargs1
      rw [hget] at hget1
      cases hget1
      rw [hargs] at hargs1
      cases hargs1
    · intro text' htext'
      rw [List.mem_singleton.mp htext']
      exact ⟨_, rfl, rfl, canonical, rfl, hcanonical⟩
  | callDone index f arguments _ hget hargs hcanonical hchanged =>
    have hcall := h.calls index f hget
    obtain ⟨text, htext, arguments', hsame, hcheck⟩ := hcall.canonical hargs
    obtain rfl := Option.some.inj (hsame.symm.trans hcanonical)
    refine hquiet hchanged (h.isSome hget) ?_ ?_ ?_
    · rintro _ ⟨⟩
      refine ⟨⟨hcall.valid.callId, hcall.valid.name⟩, fun _ => hargs, fun _ => ⟨text, htext, arguments', hcanonical, hcheck⟩,
        fun _ => ⟨arguments', hcanonical, _, List.mem_append_right _ (List.mem_singleton_self _), _, _, _, _, rfl⟩⟩
    · intro f1 hget1 _
      rw [hget] at hget1
      cases hget1
      exact ⟨_, rfl, hargs, rfl⟩
    · rintro _ ⟨⟩
      · exact .call _ _ _ _ text arguments' hcall.valid.callId hcall.valid.name htext hcheck
      · contradiction
  | completed id usage tier hid hitems htier =>
    rw [show (none : Option String).toList = [] from rfl, List.append_nil]
    refine ⟨h.known, fun index f hget => ?_, h.held, ?_⟩
    · have hcall := (h.calls index f hget).mono [] [.completed id usage tier]
      rwa [List.append_nil] at hcall
    · rcases h.shape.going hterminal with ⟨rfl, ⟨hnone, _⟩ | ⟨id', body, hid', rfl, hbody⟩⟩
      · rw [hid] at hnone
        cases hnone
      · obtain rfl := Option.some.inj (hid'.symm.trans hid)
        refine .completed id' body usage tier rfl hbody rfl htier fun text htext => ?_
        obtain ⟨index, f, hget, _, arguments, hcanonical, hcheck⟩ := h.held text htext
        have hdone : f.done = true := hitems _ (OrdMap.mem_values.mpr ⟨index, hget⟩)
        obtain ⟨arguments', hcanonical', kind, hkind, hsaid⟩ := (h.calls index f hget).said hdone
        obtain rfl := Option.some.inj (hcanonical'.symm.trans hcanonical)
        refine ⟨arguments', hcheck, kind, ?_, hsaid⟩
        obtain ⟨_, _, _, _, rfl⟩ := hsaid
        exact (List.mem_cons.mp hkind).resolve_left (by simp)
  | broken kind hbroken =>
    rw [show (none : Option String).toList = [] from rfl, List.append_nil, List.append_nil]
    obtain ⟨_, hbefore⟩ := h.shape.going hterminal
    refine ⟨h.known, fun index f hget => ?_, h.held, .broken kinds kind rfl hbroken ?_⟩
    · have hcall := (h.calls index f hget).mono [] [kind]
      rwa [List.append_nil] at hcall
    · rcases hbefore with ⟨_, hnone⟩ | ⟨id, body, _, hkinds, hbody⟩
      · exact .inl hnone
      · exact .inr ⟨id, body, hkinds, hbody⟩

theorem Accepts.events {arguments tier : Option String} {emitted : Option ResponsesEventKind}
    (h : Accepts json s arguments tier s' emitted) : s'.events = s.events := by
  cases h with
  | text _ _ _ _ _ _ _ hchanged => exact hchanged.events
  | callAdded _ _ _ _ _ _ _ _ hchanged => exact hchanged.events
  | callDelta _ _ _ _ _ _ _ hchanged => exact hchanged.events
  | callArguments _ _ _ _ _ _ _ _ _ hchanged => exact hchanged.events
  | callDone _ _ _ _ _ _ _ hchanged => exact hchanged.events
  | created | nothing | completed | broken => rfl

/-- Noting an event changes nothing that is kept. -/
theorem Kept.noted (h : Kept json texts tiers s kinds) (last : Option Nat) (events : List ResponsesEvent) :
    Kept json texts tiers { s with lastSequence := last, events := events } kinds where
  known := h.known
  calls := h.calls
  held := h.held
  shape := by
    cases h.shape with
    | fresh h1 h2 h3 => exact .fresh h1 h2 h3
    | running id body h1 h2 h3 h4 => exact .running id body h1 h2 h3 h4
    | completed id body usage tier h1 h2 h3 h4 h5 => exact .completed id body usage tier h1 h2 h3 h4 h5
    | broken before kind h1 h2 h3 => exact .broken before kind h1 h2 h3

theorem Kept.run (framed : List SseEvent) : ∀ {events : List SseEvent} {s s' : ResponsesState},
    Kept json (events.filterMap (doneArguments json)) (events.filterMap (completedTier json)) s s.factKinds →
    framed.foldlM (processEvent json) s = .ok s' →
    Kept json ((events ++ framed).filterMap (doneArguments json)) ((events ++ framed).filterMap (completedTier json)) s' s'.factKinds := by
  induction framed with
  | nil =>
    intro events s s' h hrun
    cases hrun
    rwa [List.append_nil]
  | cons event framed ih =>
    intro events s s' h hrun
    rw [List.foldlM_cons, bind_ok] at hrun
    obtain ⟨s2, hstep, hrun⟩ := hrun
    obtain ⟨envelope, s1, emitted, henvelope, hterminal, hhandle, rfl⟩ := processEvent_ok hstep
    have haccepts := handle_accepts henvelope hhandle
    have hkept := (h.step hterminal haccepts).noted (some envelope.sequenceNumber)
      (s1.events ++ (emitted.map fun kind => ⟨envelope.sequenceNumber, kind⟩).toList)
    have hrest := @ih (events ++ [event]) _ s' ?_ hrun
    · rwa [List.append_assoc, List.singleton_append] at hrest
    · have hkinds : (s1.events ++ (emitted.map fun kind => ResponsesEvent.mk envelope.sequenceNumber kind).toList).map (·.kind) =
          s.factKinds ++ emitted.toList := by
        rw [List.map_append, haccepts.events, factKinds]
        cases emitted <;> rfl
      rw [filterMap_concat, filterMap_concat, factKinds, hkinds]
      exact hkept

/-- The facts of an accepted stream. -/
theorem decode_facts {maxOutput : Nat} {d : ResponsesSseDecoder} (hd : ResponsesSseDecoder.new maxOutput = .ok d)
    {bytes : List Byte} {facts : List ResponsesEvent} (h : (responsesDialect json).decode d.state bytes = some facts) :
    ∃ events s, framed streamLimits bytes = some events ∧ s.terminal = true ∧
      Shape json (events.filterMap (doneArguments json)) (events.filterMap (completedTier json)) s (facts.map (·.kind)) := by
  simp only [ResponsesSseDecoder.new, bind_ok, require_ok, exists_const, pure, Except.pure, Except.ok.injEq] at hd
  obtain ⟨_, rfl⟩ := hd
  obtain ⟨events, last, hframed, hrun, hterminal, rfl⟩ := decode_some h
  have hstart : Kept json [] [] ⟨maxOutput, 0, none, .empty, none, false, []⟩ [] :=
    ⟨fun _ _ => rfl, fun _ _ hget => (nomatch hget), fun _ htext => (nomatch htext), .fresh rfl rfl rfl⟩
  have hkept := @Kept.run json events [] _ last hstart hrun
  exact ⟨events, last, hframed, hterminal, hkept.shape⟩

end Step

end ResponsesState

end GreenTyper.Provider
