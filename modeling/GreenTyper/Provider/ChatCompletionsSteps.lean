/-
  GreenTyper.Provider.ChatCompletionsSteps — what each Chat Completions event does when it is
  accepted, and the facts a stream leaves.

  A stream's facts are text deltas under one identity, then at most one fact that the finish
  reason decides, then the completion. The arguments of a Tool call are the concatenation of
  the pieces the stream gave (`argumentsText`).
-/

import GreenTyper.Provider.ChatCompletions
import GreenTyper.Provider.Decode

namespace GreenTyper.Provider

open Lib ChatCompletions

/-! ## What an event says -/

def chatChunk (json : ChatCompletionsJson) (event : SseEvent) : Option WireChunk :=
  if event.data = "[DONE]" then none else json.chunk event.data

/-- A choice that ends before the model was done. -/
def WireChoiceShort (choice : WireChoice) : Prop :=
  choice.finishReason = some "length" ∨ choice.finishReason = some "content_filter"

def StopsShort (json : ChatCompletionsJson) (event : SseEvent) : Prop :=
  ∃ chunk ∈ chatChunk json event, ∃ choice ∈ chunk.choices, WireChoiceShort choice

def toolCallDeltas (json : ChatCompletionsJson) (event : SseEvent) : List WireToolCallDelta :=
  match chatChunk json event with
  | some chunk => chunk.choices.flatMap (·.delta.toolCalls)
  | none => []

/-- The arguments that a stream's Tool call deltas add up to. -/
def argumentsText (deltas : List WireToolCallDelta) : String :=
  deltas.foldl (fun text delta => text ++ (delta.function.bind (·.arguments)).getD "") ""

/-- A Tool call whose id and name, where it has them, passed the checks on them. -/
structure ToolCallState.Valid (t : ToolCallState) : Prop where
  callId : ∀ id ∈ t.callId, validateIdentifier ChatCompletionsState.checkErrors id = .ok ()
  name : ∀ name ∈ t.name, validateToolName ChatCompletionsState.checkErrors name = .ok ()

namespace ChatCompletionsState

variable {json : ChatCompletionsJson} {s s' : ChatCompletionsState}

/-! ## Handlers -/

/-- The state after a chunk's identity and service tier. -/
structure Named (s : ChatCompletionsState) (id : String) (s' : ChatCompletionsState) : Prop where
  before : ∀ id' ∈ s.completionId, id' = id
  completionId : s'.completionId = some id
  choiceFinished : s'.choiceFinished = s.choiceFinished
  incomplete : s'.incomplete = s.incomplete
  toolCall : s'.toolCall = s.toolCall
  usage : s'.usage = s.usage
  terminal : s'.terminal = s.terminal
  events : s'.events = s.events
  tier : ∀ tier ∈ s'.serviceTier, tier ∈ s.serviceTier ∨ ProviderText maxServiceTierBytes tier

theorem validateText_ok {value : String} {maxBytes : Nat} (h : validateText value maxBytes = .ok ()) : ProviderText maxBytes value := by
  rw [validateText, require_ok] at h
  simp only [not_or, Bool.not_eq_true, Decidable.not_not, Nat.not_lt] at h
  exact h

theorem validateIdentity_ok {id model : String} (h : s.validateIdentity id model = .ok s') :
    Named s id s' ∧ s'.serviceTier = s.serviceTier := by
  simp only [validateIdentity, bind_ok] at h
  obtain ⟨_, _, _, _, h⟩ := h
  split at h
  · rename_i hid _
    cases h
    exact ⟨⟨by simp [hid], rfl, rfl, rfl, rfl, rfl, rfl, rfl, fun tier h => .inl h⟩, rfl⟩
  · rename_i id' model' hid _
    split at h
    · rename_i heq
      obtain ⟨rfl, _⟩ := heq
      cases h
      exact ⟨⟨by simp [hid], hid, rfl, rfl, rfl, rfl, rfl, rfl, fun tier h => .inl h⟩, rfl⟩
    · cases h
  · cases h

theorem observeServiceTier_ok {tier : Option String} (h : s.observeServiceTier tier = .ok s') :
    s' = { s with serviceTier := s'.serviceTier } ∧
      ∀ tier ∈ s'.serviceTier, tier ∈ s.serviceTier ∨ ProviderText maxServiceTierBytes tier := by
  cases tier with
  | none =>
    cases h
    exact ⟨rfl, fun tier h => .inl h⟩
  | some tier =>
    simp only [observeServiceTier, bind_ok] at h
    obtain ⟨_, htier, h⟩ := h
    split at h
    · split at h
      · cases h
      · cases h
        exact ⟨rfl, fun tier h => .inl h⟩
    · cases h
      refine ⟨rfl, ?_⟩
      rintro _ ⟨⟩
      exact .inr (validateText_ok htier)

theorem named_ok {chunk : WireChunk} {s1 : ChatCompletionsState} (hid : s.validateIdentity chunk.id chunk.model = .ok s1)
    (htier : s1.observeServiceTier chunk.serviceTier = .ok s') : Named s chunk.id s' := by
  obtain ⟨hnamed, hsame⟩ := validateIdentity_ok hid
  obtain ⟨heq, hvalid⟩ := observeServiceTier_ok htier
  rw [heq]
  refine ⟨hnamed.before, hnamed.completionId, hnamed.choiceFinished, hnamed.incomplete, hnamed.toolCall, hnamed.usage,
    hnamed.terminal, hnamed.events, fun tier h => ?_⟩
  rw [← hsame]
  exact hvalid tier h

theorem setOnceOrMatch_ok {destination : Option String} {value : String} {result : Option String}
    (h : setOnceOrMatch destination value = .ok result) : result = some value := by
  cases destination with
  | none =>
    cases h
    rfl
  | some expected =>
    rw [setOnceOrMatch] at h
    split at h
    · cases h
    · rename_i heq
      cases h
      rw [Decidable.not_not.mp heq]

theorem observeCallId_ok {t t' : ToolCallState} {callId : Option String} (h : observeCallId t callId = .ok t')
    (hvalid : t.Valid) : t'.Valid ∧ t'.arguments = t.arguments := by
  cases callId with
  | none =>
    cases h
    exact ⟨hvalid, rfl⟩
  | some callId =>
    simp only [observeCallId, bind_ok, pure, Except.pure, Except.ok.injEq] at h
    obtain ⟨_, hcheck, result, hset, rfl⟩ := h
    refine ⟨⟨?_, hvalid.name⟩, rfl⟩
    rw [setOnceOrMatch_ok hset]
    rintro _ ⟨⟩
    exact hcheck

theorem observeName_ok {t t' : ToolCallState} {name : Option String} (h : observeName t name = .ok t')
    (hvalid : t.Valid) : t'.Valid ∧ t'.arguments = t.arguments := by
  cases name with
  | none =>
    cases h
    exact ⟨hvalid, rfl⟩
  | some name =>
    simp only [observeName, bind_ok, pure, Except.pure, Except.ok.injEq] at h
    obtain ⟨_, hcheck, result, hset, rfl⟩ := h
    refine ⟨⟨hvalid.callId, ?_⟩, rfl⟩
    rw [setOnceOrMatch_ok hset]
    rintro _ ⟨⟩
    exact hcheck

theorem observeArguments_ok {t t' : ToolCallState} {arguments : Option String} (h : observeArguments t arguments = .ok t') :
    t' = { t with arguments := t.arguments ++ arguments.getD "" } := by
  cases arguments with
  | none =>
    cases h
    rw [Option.getD_none, String.append_empty]
  | some arguments =>
    simp only [observeArguments, bind_ok, require_ok, exists_const, pure, Except.pure, Except.ok.injEq] at h
    obtain ⟨_, _, _, rfl⟩ := h
    rfl

theorem observeFunction_ok {t t' : ToolCallState} {function : Option WireFunctionDelta} (h : observeFunction t function = .ok t')
    (hvalid : t.Valid) : t'.Valid ∧ t'.arguments = t.arguments ++ (function.bind (·.arguments)).getD "" := by
  cases function with
  | none =>
    cases h
    exact ⟨hvalid, String.append_empty.symm⟩
  | some function =>
    simp only [observeFunction, bind_ok] at h
    obtain ⟨named, hname, harguments⟩ := h
    obtain ⟨hnamed, hsame⟩ := observeName_ok hname hvalid
    rw [observeArguments_ok harguments, ← hsame]
    exact ⟨⟨hnamed.callId, hnamed.name⟩, rfl⟩

/-- The arguments that a state's Tool call has so far. -/
def argumentsSoFar (s : ChatCompletionsState) : String := (s.toolCall.getD .default).arguments

theorem observeToolCall_ok {delta : WireToolCallDelta} (h : s.observeToolCall delta = .ok s')
    (hvalid : ∀ t ∈ s.toolCall, ToolCallState.Valid t) : ∃ t, s' = { s with toolCall := some t } ∧ t.Valid ∧
      t.arguments = s.argumentsSoFar ++ (delta.function.bind (·.arguments)).getD "" := by
  have hstart : (s.toolCall.getD .default).Valid := by
    cases htool : s.toolCall with
    | none => exact ⟨by simp [ToolCallState.default], by simp [ToolCallState.default]⟩
    | some t => exact hvalid t htool
  simp only [observeToolCall, bind_ok, require_ok, exists_const, pure, Except.pure, Except.ok.injEq] at h
  obtain ⟨_, _, t1, hid, t2, hfunction, rfl⟩ := h
  obtain ⟨h1, hsame⟩ := observeCallId_ok hid hstart
  obtain ⟨h2, harguments⟩ := observeFunction_ok hfunction h1
  rw [hsame] at harguments
  exact ⟨t2, rfl, h2, harguments⟩

/-- A choice that goes on. -/
inductive Continues (s : ChatCompletionsState) (id : String) (calls : List WireToolCallDelta) : ChatCompletionsState → Prop
  | said (roleSeen : Bool) (total : Nat) (delta : String) : calls = [] → Continues s id calls
      { s with roleSeen := roleSeen, totalTextBytes := total, events := s.events ++ [.textDelta id 0 delta] }
  | called (roleSeen : Bool) (call : WireToolCallDelta) (t : ToolCallState) : calls = [call] → t.Valid →
      t.arguments = s.argumentsSoFar ++ (call.function.bind (·.arguments)).getD "" →
      Continues s id calls { s with roleSeen := roleSeen, toolCall := some t }
  | nothing (roleSeen : Bool) : calls = [] → Continues s id calls { s with roleSeen := roleSeen }

/-- A choice that finishes. -/
inductive Finishes (json : ChatCompletionsJson) (s : ChatCompletionsState) (id : String) : String → ChatCompletionsState → Prop
  | stop : s.toolCall = none → Finishes json s id "stop" s
  | call (t : ToolCallState) (callId name arguments : String) : s.toolCall = some t → t.callId = some callId →
      t.name = some name → canonicalArguments checkErrors json.value t.arguments = .ok arguments →
      Finishes json s id "tool_calls"
        { s with toolCall := none, events := s.events ++ [.functionCall id 0 callId name arguments] }
  | short (reason : String) : reason = "length" ∨ reason = "content_filter" →
      Finishes json s id reason { s with incomplete := true, events := s.events ++ [.incomplete id reason] }

theorem finishWith_ok {id reason : String} (h : s.finishWith json id reason 0 = .ok s') : Finishes json s id reason s' := by
  unfold finishWith at h
  split at h
  · split at h
    · cases h
    · rename_i hcall
      cases h
      exact .stop (Option.not_isSome_iff_eq_none.mp hcall)
  · simp only [bind_ok, okOr_ok, pure, Except.pure, Except.ok.injEq] at h
    obtain ⟨t, htool, callId, hcallId, name, hname, arguments, harguments, rfl⟩ := h
    exact .call t callId name arguments htool hcallId hname harguments
  · cases h
    exact .short _ (.inl rfl)
  · cases h
    exact .short _ (.inr rfl)
  · cases h

theorem observeRole_ok {role : Option String} (h : s.observeRole role = .ok s') : s' = { s with roleSeen := s'.roleSeen } := by
  cases role with
  | none =>
    cases h
    rfl
  | some role =>
    simp only [observeRole, bind_ok, require_ok, exists_const, pure, Except.pure, Except.ok.injEq] at h
    obtain ⟨_, rfl⟩ := h
    rfl

theorem observeContent_ok {index : Nat} {content id : String} (h : s.observeContent index (some content) = .ok s')
    (hid : s.completionId = some id) :
    s' = { s with totalTextBytes := s'.totalTextBytes, events := s.events ++ [.textDelta id index content] } := by
  simp only [observeContent, reserveText, requireCompletionId, emit, bind_ok, okOr_ok, require_ok, exists_const, pure, Except.pure,
    Except.ok.injEq] at h
  obtain ⟨_, _, ⟨total, _, _, rfl⟩, id', hid', rfl⟩ := h
  rw [Option.some.inj (hid'.symm.trans hid)]

theorem processChoice_ok {choice : WireChoice} {id : String} (h : s.processChoice json choice = .ok s')
    (hindex : choice.index = 0) (hid : s.completionId = some id) (hvalid : ∀ t ∈ s.toolCall, ToolCallState.Valid t) :
    (choice.finishReason = none ∧ Continues s id choice.delta.toolCalls s') ∨
      ∃ reason roleSeen final, choice.finishReason = some reason ∧ choice.delta.toolCalls = [] ∧
        Finishes json { s with roleSeen := roleSeen } id reason final ∧ s' = { final with choiceFinished := true } := by
  simp only [processChoice, bind_ok, require_ok, exists_const] at h
  obtain ⟨_, s1, hrole, hcontent, hone, hfinish, s2, hs2, s3, hs3, hs'⟩ := h
  have h1 := observeRole_ok hrole
  have hid1 : s1.completionId = some id := by rw [h1]; exact hid
  have hsame : s1.argumentsSoFar = s.argumentsSoFar := by rw [h1]; rfl
  cases hreason : choice.finishReason with
  | some reason =>
    -- a finish reason stands alone
    simp only [hreason, Option.isSome_some, true_and, not_or, Decidable.not_not] at hfinish
    have hnone : choice.delta.content = none := by simpa using hfinish.1
    rw [hnone] at hs2
    rw [hfinish.2] at hs3
    cases hs2
    cases hs3
    rw [hreason, hindex] at hs'
    simp only [finish, finishChoice, requireCompletionId, bind_ok, okOr_ok, pure, Except.pure, Except.ok.injEq] at hs'
    obtain ⟨id', hid', final, hfinal, rfl⟩ := hs'
    rw [Option.some.inj (hid'.symm.trans hid1)] at hfinal
    refine .inr ⟨reason, s1.roleSeen, final, rfl, hfinish.2, ?_, rfl⟩
    rw [← h1]
    exact finishWith_ok hfinal
  | none =>
    rw [hreason] at hs'
    cases hs'
    refine .inl ⟨rfl, ?_⟩
    cases hwire : choice.delta.content with
    | some content =>
      have hnone : choice.delta.toolCalls = [] := by
        simpa [hwire] using hcontent
      rw [hwire] at hs2
      rw [hnone] at hs3 ⊢
      cases hs3
      have h2 := observeContent_ok hs2 hid1
      rw [h2, hindex, h1]
      exact .said _ _ _ rfl
    | none =>
      rw [hwire] at hs2
      cases hs2
      cases hcalls : choice.delta.toolCalls with
      | nil =>
        rw [hcalls] at hs3
        cases hs3
        rw [h1]
        exact .nothing _ rfl
      | cons call rest =>
        rw [hcalls, List.length_cons] at hone
        have hrest : rest = [] := List.eq_nil_of_length_eq_zero (by omega)
        rw [hcalls] at hs3
        obtain ⟨t, hs3, ht, harguments⟩ := observeToolCall_ok hs3 (by rw [h1]; exact hvalid)
        rw [hs3, h1]
        rw [hsame] at harguments
        exact .called _ call t (by rw [hrest]) ht harguments

/-- An accepted event. -/
inductive Accepts (json : ChatCompletionsJson) (s : ChatCompletionsState) (event : SseEvent) : ChatCompletionsState → Prop
  | short : chatChunk json event = none → s.choiceFinished = true → s.incomplete = true →
      Accepts json s event { s with terminal := true }
  | completed (id : String) : chatChunk json event = none → s.choiceFinished = true → s.incomplete = false →
      s.completionId = some id →
      Accepts json s event { s with terminal := true, events := s.events ++ [.completed id s.usage s.serviceTier] }
  | usage (chunk : WireChunk) (s1 : ChatCompletionsState) (usage : Option ChatCompletionsUsage) :
      chatChunk json event = some chunk → Named s chunk.id s1 → chunk.choices = [] → s1.choiceFinished = true →
      Accepts json s event { s1 with usage := usage }
  | choice (chunk : WireChunk) (s1 s' : ChatCompletionsState) (choice : WireChoice) : chatChunk json event = some chunk →
      Named s chunk.id s1 → chunk.choices = [choice] → s1.choiceFinished = false → choice.index = 0 →
      s1.processChoice json choice = .ok s' → Accepts json s event s'

theorem processEvent_ok {event : SseEvent} (h : s.processEvent json event = .ok s') :
    s.terminal = false ∧ Accepts json s event s' := by
  simp only [processEvent, bind_ok, require_ok, exists_const] at h
  obtain ⟨hterminal, _, h⟩ := h
  refine ⟨hterminal, ?_⟩
  split at h
  · rename_i hdone
    have hchunk : chatChunk json event = none := if_pos hdone
    simp only [completeStream, bind_ok, require_ok, exists_const] at h
    obtain ⟨hfinished, h⟩ := h
    split at h
    · rename_i hshort
      cases h
      exact .short hchunk hfinished hshort
    · rename_i hshort
      simp only [requireCompletionId, emit, bind_ok, okOr_ok, pure, Except.pure, Except.ok.injEq] at h
      obtain ⟨id, hid, rfl⟩ := h
      exact .completed id hchunk hfinished (Bool.eq_false_iff.mpr hshort) hid
  · rename_i hdata
    simp only [bind_ok, okOr_ok, require_ok, exists_const] at h
    obtain ⟨chunk, hread, _, s0, hs0, s1, hs1, h⟩ := h
    have hchunk : chatChunk json event = some chunk := (if_neg hdata).trans hread
    have hnamed := named_ok hs0 hs1
    split at h
    · simp only [bind_ok, require_ok, exists_const, pure, Except.pure, Except.ok.injEq] at h
      obtain ⟨⟨hchoices, hfinished, _⟩, usage, _, rfl⟩ := h
      exact .usage chunk s1 (some usage) hchunk hnamed hchoices hfinished
    · split at h
      · rename_i choice hchoices
        simp only [bind_ok, require_ok, exists_const] at h
        obtain ⟨hfinished, hindex, h⟩ := h
        exact .choice chunk s1 s' choice hchunk hnamed hchoices hfinished hindex h
      · cases h

/-! ## The facts of a stream -/

/-- Before the choice finishes: text under the stream's identity, and the Tool call so far. -/
structure Opened (calls : List WireToolCallDelta) (s : ChatCompletionsState) : Prop where
  choiceFinished : s.choiceFinished = false
  incomplete : s.incomplete = false
  terminal : s.terminal = false
  texts : ∀ fact ∈ s.events, ∃ id ∈ s.completionId, ∃ delta, fact = .textDelta id 0 delta
  valid : ∀ t ∈ s.toolCall, ToolCallState.Valid t
  arguments : s.argumentsSoFar = argumentsText calls
  called : s.toolCall = none ↔ calls = []

/-- The fact that a finish reason leaves; the flag says whether the choice stopped short. -/
inductive Outcome (json : ChatCompletionsJson) (calls : List WireToolCallDelta) (id : String) :
    Bool → List ChatCompletionsEvent → Prop
  | stop : calls = [] → Outcome json calls id false []
  | call (callId name arguments : String) : calls ≠ [] → validateIdentifier checkErrors callId = .ok () →
      validateToolName checkErrors name = .ok () → canonicalArguments checkErrors json.value (argumentsText calls) = .ok arguments →
      Outcome json calls id false [.functionCall id 0 callId name arguments]
  | short (reason : String) : Outcome json calls id true [.incomplete id reason]

structure Closed (json : ChatCompletionsJson) (calls : List WireToolCallDelta) (s : ChatCompletionsState) (id : String)
    (said out : List ChatCompletionsEvent) : Prop where
  choiceFinished : s.choiceFinished = true
  completionId : s.completionId = some id
  texts : ∀ fact ∈ said, ∃ delta, fact = .textDelta id 0 delta
  outcome : Outcome json calls id s.incomplete out
  running : s.terminal = false → s.events = said ++ out
  ended : s.terminal = true →
    s.events = said ++ out ++ (if s.incomplete then [] else [.completed id s.usage s.serviceTier])

def streamCalls (json : ChatCompletionsJson) (events : List SseEvent) : List WireToolCallDelta :=
  events.flatMap (toolCallDeltas json)

/-- A state after the events of a stream. -/
structure Kept (json : ChatCompletionsJson) (events : List SseEvent) (s : ChatCompletionsState) : Prop where
  phase : Opened (streamCalls json events) s ∨ ∃ id said out, Closed json (streamCalls json events) s id said out
  short : s.incomplete = true ↔ ∃ event ∈ events, StopsShort json event
  tier : ∀ tier ∈ s.serviceTier, ProviderText maxServiceTierBytes tier

theorem argumentsText_append (calls : List WireToolCallDelta) (call : WireToolCallDelta) :
    argumentsText (calls ++ [call]) = argumentsText calls ++ (call.function.bind (·.arguments)).getD "" := by
  rw [argumentsText, List.foldl_append]
  rfl

theorem streamCalls_append (events : List SseEvent) (event : SseEvent) :
    streamCalls json (events ++ [event]) = streamCalls json events ++ toolCallDeltas json event := by
  rw [streamCalls, List.flatMap_append, List.flatMap_singleton]
  rfl

section Step

variable {events : List SseEvent} {event : SseEvent} {calls : List WireToolCallDelta} {id : String}

theorem Opened.named {s1 : ChatCompletionsState} (h : Opened calls s) (hnamed : Named s id s1) : Opened calls s1 where
  choiceFinished := hnamed.choiceFinished.trans h.choiceFinished
  incomplete := hnamed.incomplete.trans h.incomplete
  terminal := hnamed.terminal.trans h.terminal
  texts := by
    rw [hnamed.events, hnamed.completionId]
    intro fact hfact
    obtain ⟨id', hid', hdelta⟩ := h.texts fact hfact
    exact ⟨id', by rw [hnamed.before id' hid']; rfl, hdelta⟩
  valid := by rw [hnamed.toolCall]; exact h.valid
  arguments := by rw [argumentsSoFar, hnamed.toolCall]; exact h.arguments
  called := by rw [hnamed.toolCall]; exact h.called

theorem Opened.continues {more : List WireToolCallDelta} (h : Opened calls s) (hid : s.completionId = some id)
    (hnext : Continues s id more s') : Opened (calls ++ more) s' := by
  cases hnext with
  | said roleSeen total delta hmore =>
    rw [hmore, List.append_nil]
    refine ⟨h.choiceFinished, h.incomplete, h.terminal, fun fact hfact => ?_, h.valid, h.arguments, h.called⟩
    rcases List.mem_append.mp hfact with hfact | hfact
    · exact h.texts fact hfact
    · exact ⟨id, hid, delta, List.mem_singleton.mp hfact⟩
  | called roleSeen call t hmore ht harguments =>
    rw [hmore]
    refine ⟨h.choiceFinished, h.incomplete, h.terminal, h.texts, ?_, ?_, by simp⟩
    · rintro _ ⟨⟩
      exact ht
    · rw [argumentsText_append, ← h.arguments]
      exact harguments
  | nothing roleSeen hmore =>
    rw [hmore, List.append_nil]
    exact ⟨h.choiceFinished, h.incomplete, h.terminal, h.texts, h.valid, h.arguments, h.called⟩

theorem Opened.finishes {reason : String} (h : Opened calls s) (hid : s.completionId = some id)
    (hnext : Finishes json s id reason s') : ∃ out, Closed json calls { s' with choiceFinished := true } id s.events out := by
  have htexts : ∀ fact ∈ s.events, ∃ delta, fact = .textDelta id 0 delta := by
    intro fact hfact
    obtain ⟨id', hid', hdelta⟩ := h.texts fact hfact
    rwa [Option.some.inj (hid'.symm.trans hid)] at hdelta
  have hgoing : s.terminal ≠ true := by simp [h.terminal]
  cases hnext with
  | stop hcall =>
    refine ⟨[], rfl, hid, htexts, ?_, fun _ => (List.append_nil _).symm, fun h => absurd h hgoing⟩
    rw [show s.incomplete = false from h.incomplete]
    exact .stop (h.called.mp hcall)
  | call t callId name arguments htool hcallId hname harguments =>
    have hvalid := h.valid t htool
    refine ⟨[.functionCall id 0 callId name arguments], rfl, hid, htexts, ?_, fun _ => rfl, fun h => absurd h hgoing⟩
    rw [show s.incomplete = false from h.incomplete]
    refine .call _ _ _ ?_ (hvalid.callId _ hcallId) (hvalid.name _ hname) ?_
    · rw [ne_eq, ← h.called, htool]
      exact Option.some_ne_none t
    · rw [← h.arguments, argumentsSoFar, htool]
      exact harguments
  | short reason _ =>
    exact ⟨[.incomplete id reason], rfl, hid, htexts, .short reason, fun _ => rfl, fun h => absurd h hgoing⟩

theorem Finishes.incomplete {reason : String} (hnext : Finishes json s id reason s') (h : s.incomplete = false) :
    s'.incomplete = true ↔ reason = "length" ∨ reason = "content_filter" := by
  cases hnext with
  | stop => simp [h]
  | call => simp [h]
  | short reason hreason => simp [hreason]

theorem Finishes.serviceTier {reason : String} (hnext : Finishes json s id reason s') : s'.serviceTier = s.serviceTier := by
  cases hnext <;> rfl

theorem Continues.kept {more : List WireToolCallDelta} (hnext : Continues s id more s') :
    s'.incomplete = s.incomplete ∧ s'.serviceTier = s.serviceTier := by
  cases hnext <;> exact ⟨rfl, rfl⟩

theorem Closed.of_open (h : Kept json events s) (hfinished : s.choiceFinished = true) :
    ∃ id said out, Closed json (streamCalls json events) s id said out := by
  rcases h.phase with hopen | hclosed
  · rw [hopen.choiceFinished] at hfinished
    cases hfinished
  · exact hclosed

theorem Opened.of_open (h : Kept json events s) (hopen : s.choiceFinished = false) : Opened (streamCalls json events) s := by
  rcases h.phase with h | ⟨id, said, out, hclosed⟩
  · exact h
  · rw [hclosed.choiceFinished] at hopen
    cases hopen

/-- An event without a choice leaves the Tool call and the reason to stop as they were. -/
theorem quiet_event (h : ∀ chunk ∈ chatChunk json event, chunk.choices = []) :
    streamCalls json (events ++ [event]) = streamCalls json events ∧
      ((∃ e ∈ events ++ [event], StopsShort json e) ↔ ∃ e ∈ events, StopsShort json e) := by
  have hnone : ¬ StopsShort json event := by
    rintro ⟨chunk, hchunk, choice, hchoice, _⟩
    rw [h chunk hchunk] at hchoice
    cases hchoice
  have hcalls : toolCallDeltas json event = [] := by
    rw [toolCallDeltas]
    split
    · rename_i chunk hchunk
      rw [h chunk hchunk, List.flatMap_nil]
    · rfl
  rw [streamCalls_append, hcalls, List.append_nil, exists_concat]
  exact ⟨rfl, or_iff_left hnone⟩

theorem choice_event {chunk : WireChunk} {choice : WireChoice} (hchunk : chatChunk json event = some chunk)
    (hchoices : chunk.choices = [choice]) : toolCallDeltas json event = choice.delta.toolCalls ∧
      (StopsShort json event ↔ WireChoiceShort choice) := by
  rw [toolCallDeltas, StopsShort, hchunk]
  simp only [hchoices, List.flatMap_singleton, Option.mem_some_iff, exists_eq_left', List.mem_singleton, exists_eq_left,
    and_self]

theorem Kept.step (h : Kept json events s) (hstep : s.processEvent json event = .ok s') :
    Kept json (events ++ [event]) s' := by
  obtain ⟨hterminal, hnext⟩ := processEvent_ok hstep
  have htier : ∀ {id s1}, Named s id s1 → ∀ tier ∈ s1.serviceTier, ProviderText maxServiceTierBytes tier := by
    intro id s1 hnamed tier htier
    rcases hnamed.tier tier htier with hold | hvalid
    · exact h.tier tier hold
    · exact hvalid
  cases hnext with
  | short hchunk hfinished hshort =>
    obtain ⟨id, said, out, hclosed⟩ := Closed.of_open h hfinished
    obtain ⟨hcalls, hstops⟩ := quiet_event  (by rw [hchunk]; rintro _ ⟨⟩)
    refine ⟨.inr ⟨id, said, out, ?_⟩, h.short.trans hstops.symm, h.tier⟩
    rw [hcalls]
    refine ⟨hfinished, hclosed.completionId, hclosed.texts, hclosed.outcome, fun h => ?_, fun _ => ?_⟩
    · cases h
    · dsimp only
      rw [if_pos hshort, List.append_nil]
      exact hclosed.running hterminal
  | completed id hchunk hfinished hshort hid =>
    obtain ⟨id', said, out, hclosed⟩ := Closed.of_open h hfinished
    obtain ⟨hcalls, hstops⟩ := quiet_event  (by rw [hchunk]; rintro _ ⟨⟩)
    obtain rfl := Option.some.inj (hid.symm.trans hclosed.completionId)
    refine ⟨.inr ⟨id, said, out, ?_⟩, h.short.trans hstops.symm, h.tier⟩
    rw [hcalls]
    refine ⟨hfinished, hclosed.completionId, hclosed.texts, hclosed.outcome, fun h => ?_, fun _ => ?_⟩
    · cases h
    · dsimp only
      rw [hshort, hclosed.running hterminal]
      rfl
  | usage chunk s1 usage hchunk hnamed hchoices hfinished =>
    obtain ⟨id, said, out, hclosed⟩ := Closed.of_open h (hnamed.choiceFinished.symm.trans hfinished)
    obtain ⟨hcalls, hstops⟩ := quiet_event  (by
      rw [hchunk]
      rintro _ ⟨⟩
      exact hchoices)
    refine ⟨.inr ⟨id, said, out, ?_⟩, ?_, fun tier => htier hnamed tier⟩
    · rw [hcalls]
      refine ⟨hfinished, ?_, hclosed.texts, ?_, fun _ => ?_, fun hend => ?_⟩
      · rw [hnamed.before id hclosed.completionId]
        exact hnamed.completionId
      · rw [show s1.incomplete = s.incomplete from hnamed.incomplete]
        exact hclosed.outcome
      · exact hnamed.events.trans (hclosed.running hterminal)
      · rw [show s1.terminal = s.terminal from hnamed.terminal, hterminal] at hend
        cases hend
    · rw [hstops, ← h.short]
      exact iff_of_eq (congrArg (· = true) hnamed.incomplete)
  | choice chunk s1 _ choice hchunk hnamed hchoices hfinished hindex hchoice =>
    have hopen := (Opened.of_open h (hnamed.choiceFinished.symm.trans hfinished)).named hnamed
    have hnone : ¬ ∃ e ∈ events, StopsShort json e := by
      rw [← h.short, ← hnamed.incomplete, hopen.incomplete]
      exact Bool.false_ne_true
    obtain ⟨hcalls, hstops⟩ := choice_event hchunk hchoices
    rcases processChoice_ok hchoice hindex hnamed.completionId hopen.valid with
      ⟨hreason, hcontinues⟩ | ⟨reason, roleSeen, final, hreason, hquiet, hfinishes, rfl⟩
    · obtain ⟨hincomplete, hsame⟩ := hcontinues.kept
      refine ⟨.inl ?_, ?_, ?_⟩
      · rw [streamCalls_append, hcalls]
        exact hopen.continues hnamed.completionId hcontinues
      · rw [exists_concat, or_iff_right hnone, hstops, WireChoiceShort, hreason, hincomplete, hopen.incomplete]
        simp
      · rw [hsame]
        exact htier hnamed
    · have hopen' : Opened (streamCalls json events) { s1 with roleSeen := roleSeen } :=
        ⟨hopen.choiceFinished, hopen.incomplete, hopen.terminal, hopen.texts, hopen.valid, hopen.arguments, hopen.called⟩
      obtain ⟨out, hclosed⟩ := hopen'.finishes hnamed.completionId hfinishes
      refine ⟨.inr ⟨chunk.id, s1.events, out, ?_⟩, ?_, ?_⟩
      · rw [streamCalls_append, hcalls, hquiet, List.append_nil]
        exact hclosed
      · rw [exists_concat, or_iff_right hnone, hstops, WireChoiceShort, hreason]
        simpa using hfinishes.incomplete hopen.incomplete
      · show ∀ tier ∈ final.serviceTier, _
        rw [hfinishes.serviceTier]
        exact fun tier => htier hnamed tier

theorem Kept.run (framed : List SseEvent) : ∀ {events : List SseEvent} {s s' : ChatCompletionsState}, Kept json events s →
    framed.foldlM (processEvent json) s = .ok s' → Kept json (events ++ framed) s' := by
  induction framed with
  | nil =>
    intro events s s' h hrun
    cases hrun
    rwa [List.append_nil]
  | cons event framed ih =>
    intro events s s' h hrun
    rw [List.foldlM_cons, bind_ok] at hrun
    obtain ⟨s1, hstep, hrun⟩ := hrun
    have hrest := ih (h.step hstep) hrun
    rwa [List.append_assoc, List.singleton_append] at hrest

end Step

/-- The facts of an accepted stream: what it said, what its finish left and, unless it stopped short, its completion. -/
theorem decode_facts {maxOutput : Nat} {d : ChatCompletionsSseDecoder} (hd : ChatCompletionsSseDecoder.new maxOutput = .ok d)
    {bytes : List Byte} {facts : List ChatCompletionsEvent} (h : (chatCompletionsDialect json).decode d.state bytes = some facts) :
    ∃ events id said out usage tier short, framed streamLimits bytes = some events ∧
      (∀ fact ∈ said, ∃ delta, fact = .textDelta id 0 delta) ∧ Outcome json (streamCalls json events) id short out ∧
      (short = true ↔ ∃ event ∈ events, StopsShort json event) ∧ (∀ value ∈ tier, ProviderText maxServiceTierBytes value) ∧
      facts = said ++ out ++ if short then [] else [.completed id usage tier] := by
  simp only [ChatCompletionsSseDecoder.new, bind_ok, require_ok, exists_const, pure, Except.pure, Except.ok.injEq] at hd
  obtain ⟨_, rfl⟩ := hd
  obtain ⟨events, last, hframed, hrun, hterminal, rfl⟩ := decode_some h
  have hstart : Kept json [] (Decoder.new ⟨maxOutput, 0, none, none, none, false, false, false, none, none, false, []⟩ :
      ChatCompletionsSseDecoder).state := by
    refine ⟨.inl ⟨rfl, rfl, rfl, ?_, ?_, rfl, ?_⟩, ?_, ?_⟩ <;> simp [Decoder.new, streamCalls]
  have hkept := Kept.run events hstart hrun
  rw [List.nil_append] at hkept
  have hfinished : last.choiceFinished = true := by
    by_contra hopen
    replace hterminal : last.terminal = true := hterminal
    rw [(Opened.of_open hkept (Bool.eq_false_iff.mpr hopen)).terminal] at hterminal
    cases hterminal
  obtain ⟨id, said, out, hclosed⟩ := Closed.of_open hkept hfinished
  exact ⟨events, id, said, out, last.usage, last.serviceTier, last.incomplete, hframed, hclosed.texts, hclosed.outcome,
    hkept.short, hkept.tier, hclosed.ended hterminal⟩

end ChatCompletionsState

end GreenTyper.Provider
