/-
  GreenTyper.Provider.ChatCompletions — the Chat Completions dialect
  (`provider/chat_completions.rs`).

  `serde_json::from_str` is a parameter, one reader for each type the decoder reads
  (`ChatCompletionsJson`); everything after a read is as the source has it.
-/

import GreenTyper.Provider.Decoder

namespace GreenTyper.Provider

open Lib

inductive ChatCompletionsError where
  | invalidLimits
  | sse (error : SseError)
  | poisoned
  | malformedEvent
  | eventTypeMismatch
  | eventLimitExceeded
  | eventAfterTerminal
  | unsupportedChoice
  | unsupportedDelta
  | unsupportedFinishReason
  | unsupportedToolCall
  | invalidTransition
  | invalidIdentifier
  | invalidToolName
  | invalidText
  | outputLimitExceeded
  | argumentLimitExceeded
  | argumentNestingExceeded
  | argumentsNotObject
  | incompleteStream
deriving DecidableEq, Repr

/-! ## The wire -/

namespace ChatCompletions

structure WireUsage where
  promptTokens : Option UInt64
  completionTokens : Option UInt64
  totalTokens : Option UInt64
  promptCacheHitTokens : Option UInt64
  promptCacheMissTokens : Option UInt64
  /-- `prompt_tokens_details`: its `cached_tokens`. -/
  promptTokensDetails : Option (Option UInt64)
  /-- `completion_tokens_details`: its `reasoning_tokens`. -/
  completionTokensDetails : Option (Option UInt64)

structure WireFunctionDelta where
  name : Option String
  arguments : Option String

structure WireToolCallDelta where
  index : Nat
  id : Option String
  kind : Option String
  function : Option WireFunctionDelta

structure WireDelta where
  role : Option String
  content : Option String
  refusal : Option String
  functionCall : Option JsonValue
  toolCalls : List WireToolCallDelta

structure WireChoice where
  index : Nat
  delta : WireDelta
  finishReason : Option String

structure WireChunk where
  id : String
  object : String
  model : String
  choices : List WireChoice
  serviceTier : Option String
  usage : Option WireUsage

end ChatCompletions

open ChatCompletions

/-- `decode_json` at each type it is used at. -/
structure ChatCompletionsJson where
  chunk : String → Option WireChunk
  value : String → Option JsonValue

/-! ## Facts and state -/

structure ChatCompletionsUsage where
  inputTokens : Option UInt64
  cachedInputTokens : Option UInt64
  outputTokens : Option UInt64
  reasoningOutputTokens : Option UInt64
  totalTokens : Option UInt64
deriving DecidableEq

def ChatCompletionsUsage.default : ChatCompletionsUsage := ⟨none, none, none, none, none⟩

/-- `TryFrom<WireUsage>`. -/
def ChatCompletionsUsage.tryFrom (value : WireUsage) : Except ChatCompletionsError ChatCompletionsUsage := do
  let detailedCachedTokens := value.promptTokensDetails.bind id
  let cachedInputTokens ←
    match detailedCachedTokens, value.promptCacheHitTokens with
    | some details, some topLevel => if details ≠ topLevel then .error .invalidTransition else .ok (some details)
    | some details, _ => .ok (some details)
    | _, topLevel => .ok topLevel
  require (value.promptTokens.all fun input => cachedInputTokens.all fun cached => cached ≤ input) .invalidTransition
  require (value.promptTokens.all fun input => value.promptCacheHitTokens.all fun hit => value.promptCacheMissTokens.all fun miss =>
    checkedAdd 64 hit.toNat miss.toNat = some input.toNat) .invalidTransition
  return ⟨value.promptTokens, cachedInputTokens, value.completionTokens, value.completionTokensDetails.bind id,
    value.totalTokens⟩

/-- `ChatCompletionsEventKind`, the whole of a `ChatCompletionsEvent`. -/
inductive ChatCompletionsEvent where
  | textDelta (completionId : String) (choiceIndex : Nat) (delta : String)
  | functionCall (completionId : String) (choiceIndex : Nat) (callId name argumentsJson : String)
  | completed (completionId : String) (usage : Option ChatCompletionsUsage) (serviceTier : Option String)
  | incomplete (completionId reason : String)
deriving DecidableEq

structure ToolCallState where
  callId : Option String
  name : Option String
  arguments : String

def ToolCallState.default : ToolCallState := ⟨none, none, ""⟩

/-- The fields of `ChatCompletionsSseDecoder` that its event handlers use. -/
structure ChatCompletionsState where
  maxOutputBytes : Nat
  totalTextBytes : Nat
  completionId : Option String
  model : Option String
  serviceTier : Option String
  roleSeen : Bool
  choiceFinished : Bool
  incomplete : Bool
  toolCall : Option ToolCallState
  usage : Option ChatCompletionsUsage
  terminal : Bool
  events : List ChatCompletionsEvent

/-! ## Checks -/

namespace ChatCompletionsState

def checkErrors : CheckErrors ChatCompletionsError :=
  ⟨.malformedEvent, .invalidIdentifier, .invalidToolName, .argumentLimitExceeded, .argumentNestingExceeded, .argumentsNotObject⟩

def validateText (value : String) (maxBytes : Nat) : Except ChatCompletionsError Unit :=
  require (¬ (isBlank value ∨ trim value ≠ value ∨ byteLen value > maxBytes ∨ value.toList.any isControl)) .invalidText

def setOnceOrMatch : Option String → String → Except ChatCompletionsError (Option String)
  | some expected, value => if expected ≠ value then .error .invalidTransition else .ok (some expected)
  | none, value => .ok (some value)

def requireCompletionId (s : ChatCompletionsState) : Except ChatCompletionsError String :=
  okOr s.completionId .invalidTransition

def reserveText (s : ChatCompletionsState) (bytes : Nat) : Except ChatCompletionsError ChatCompletionsState := do
  let total ← okOr (checkedAdd 64 s.totalTextBytes bytes) .outputLimitExceeded
  require (total ≤ s.maxOutputBytes) .outputLimitExceeded
  return { s with totalTextBytes := total }

def emit (s : ChatCompletionsState) (event : ChatCompletionsEvent) : ChatCompletionsState :=
  { s with events := s.events ++ [event] }

/-! ## Event handlers -/

variable (json : ChatCompletionsJson)

def validateIdentity (s : ChatCompletionsState) (completionId model : String) :
    Except ChatCompletionsError ChatCompletionsState := do
  validateIdentifier checkErrors completionId
  validateIdentifier checkErrors model
  match s.completionId, s.model with
  | none, none => return { s with completionId := some completionId, model := some model }
  | some expectedId, some expectedModel =>
    if expectedId = completionId ∧ expectedModel = model then .ok s else .error .invalidTransition
  | _, _ => .error .invalidTransition

def observeServiceTier (s : ChatCompletionsState) : Option String → Except ChatCompletionsError ChatCompletionsState
  | none => .ok s
  | some serviceTier => do
    validateText serviceTier maxServiceTierBytes
    match s.serviceTier with
    | some expected => if expected ≠ serviceTier then .error .invalidTransition else .ok s
    | none => return { s with serviceTier := some serviceTier }

def observeCallId (state : ToolCallState) : Option String → Except ChatCompletionsError ToolCallState
  | none => .ok state
  | some callId => do
    validateIdentifier checkErrors callId
    let callId ← setOnceOrMatch state.callId callId
    return { state with callId := callId }

def observeName (state : ToolCallState) : Option String → Except ChatCompletionsError ToolCallState
  | none => .ok state
  | some name => do
    validateToolName checkErrors name
    let name ← setOnceOrMatch state.name name
    return { state with name := name }

def observeArguments (state : ToolCallState) : Option String → Except ChatCompletionsError ToolCallState
  | none => .ok state
  | some arguments => do
    let next ← okOr (checkedAdd 64 (byteLen state.arguments) (byteLen arguments)) .argumentLimitExceeded
    require (next ≤ maxArgumentBytes) .argumentLimitExceeded
    return { state with arguments := state.arguments ++ arguments }

def observeFunction (state : ToolCallState) : Option WireFunctionDelta → Except ChatCompletionsError ToolCallState
  | none => .ok state
  | some function => do
    let state ← observeName state function.name
    observeArguments state function.arguments

def observeToolCall (s : ChatCompletionsState) (delta : WireToolCallDelta) :
    Except ChatCompletionsError ChatCompletionsState := do
  require (delta.index = 0) .unsupportedToolCall
  require (∀ kind ∈ delta.kind, kind = "function") .unsupportedToolCall
  let state ← observeCallId (s.toolCall.getD .default) delta.id
  let state ← observeFunction state delta.function
  return { s with toolCall := some state }

/-- The first of a delta's Tool calls, if it has any. -/
def observeToolCalls (s : ChatCompletionsState) : List WireToolCallDelta → Except ChatCompletionsError ChatCompletionsState
  | [] => .ok s
  | toolCall :: _ => s.observeToolCall toolCall

/-- The part of `finish_choice` that its reason decides. -/
def finishWith (s : ChatCompletionsState) (completionId reason : String) (choiceIndex : Nat) :
    Except ChatCompletionsError ChatCompletionsState :=
  match reason with
  | "stop" => if s.toolCall.isSome then .error .invalidTransition else .ok s
  | "tool_calls" => do
    let state ← okOr s.toolCall .invalidTransition
    let callId ← okOr state.callId .invalidTransition
    let name ← okOr state.name .invalidTransition
    let argumentsJson ← canonicalArguments checkErrors json.value state.arguments
    return emit { s with toolCall := none } (.functionCall completionId choiceIndex callId name argumentsJson)
  | "length" | "content_filter" => .ok (emit { s with incomplete := true } (.incomplete completionId reason))
  | _ => .error .unsupportedFinishReason

def finishChoice (s : ChatCompletionsState) (reason : String) (choiceIndex : Nat) :
    Except ChatCompletionsError ChatCompletionsState := do
  let completionId ← s.requireCompletionId
  let s ← s.finishWith json completionId reason choiceIndex
  return { s with choiceFinished := true }

def finish (s : ChatCompletionsState) (choiceIndex : Nat) : Option String → Except ChatCompletionsError ChatCompletionsState
  | none => .ok s
  | some reason => s.finishChoice json reason choiceIndex

def observeRole (s : ChatCompletionsState) : Option String → Except ChatCompletionsError ChatCompletionsState
  | none => .ok s
  | some role => do
    require (role = "assistant" ∧ s.roleSeen = false) .invalidTransition
    return { s with roleSeen := true }

def observeContent (s : ChatCompletionsState) (choiceIndex : Nat) :
    Option String → Except ChatCompletionsError ChatCompletionsState
  | none => .ok s
  | some content => do
    require (content ≠ "") .invalidText
    let s ← s.reserveText (byteLen content)
    let completionId ← s.requireCompletionId
    return s.emit (.textDelta completionId choiceIndex content)

def processChoice (s : ChatCompletionsState) (choice : WireChoice) : Except ChatCompletionsError ChatCompletionsState := do
  let delta := choice.delta
  require (delta.refusal = none ∧ delta.functionCall.isNone) .unsupportedDelta
  let s ← s.observeRole delta.role
  require (¬ (delta.content.isSome ∧ delta.toolCalls ≠ [])) .unsupportedDelta
  require (delta.toolCalls.length ≤ 1) .unsupportedToolCall
  require (¬ (choice.finishReason.isSome ∧ (delta.content.isSome ∨ delta.toolCalls ≠ []))) .invalidTransition
  let s ← s.observeContent choice.index delta.content
  let s ← s.observeToolCalls delta.toolCalls
  s.finish json choice.index choice.finishReason

def completeStream (s : ChatCompletionsState) : Except ChatCompletionsError ChatCompletionsState := do
  require (s.choiceFinished = true) .invalidTransition
  if s.incomplete then return { s with terminal := true }
  else
    let completionId ← s.requireCompletionId
    return emit { s with terminal := true } (.completed completionId s.usage s.serviceTier)

def processEvent (s : ChatCompletionsState) (event : SseEvent) : Except ChatCompletionsError ChatCompletionsState := do
  require (s.terminal = false) .eventAfterTerminal
  require (event.event = "message") .eventTypeMismatch
  if event.data = "[DONE]" then s.completeStream
  else
    let chunk ← okOr (json.chunk event.data) .malformedEvent
    require (chunk.object = "chat.completion.chunk") .malformedEvent
    let s ← s.validateIdentity chunk.id chunk.model
    let s ← s.observeServiceTier chunk.serviceTier
    match chunk.usage with
    | some usage =>
      require (chunk.choices = [] ∧ s.choiceFinished = true ∧ s.usage = none) .invalidTransition
      let usage ← ChatCompletionsUsage.tryFrom usage
      return { s with usage := some usage }
    | none =>
      match chunk.choices with
      | [choice] =>
        require (s.choiceFinished = false) .invalidTransition
        require (choice.index = 0) .unsupportedChoice
        s.processChoice json choice
      | _ => .error .unsupportedChoice

end ChatCompletionsState

def chatCompletionsDialect (json : ChatCompletionsJson) :
    Dialect ChatCompletionsState ChatCompletionsEvent ChatCompletionsError where
  processEvent := ChatCompletionsState.processEvent json
  terminal := (·.terminal)
  events := (·.events)
  sse := .sse
  poisoned := .poisoned
  eventLimitExceeded := .eventLimitExceeded
  incompleteStream := .incompleteStream

abbrev ChatCompletionsSseDecoder := Decoder ChatCompletionsState

def ChatCompletionsSseDecoder.new (maxOutput : Nat) : Except ChatCompletionsError ChatCompletionsSseDecoder := do
  require (¬ (maxOutput = 0 ∨ maxOutput > maxOutputBytes)) .invalidLimits
  return Decoder.new ⟨maxOutput, 0, none, none, none, false, false, false, none, none, false, []⟩

/-! ## Normalization -/

/-- `observe_normalized_identity`: the identity after the event. -/
def observeChatIdentity (expected : Option String) (actual : String) (choiceIndex : Nat) :
    Except ProviderError (Option String) := do
  require (choiceIndex = 0) (.invalidResponse "Chat Completions choice is not supported")
  match expected with
  | some expected =>
    if expected ≠ actual then .error (.invalidResponse "Chat Completions stream identity changed") else .ok (some expected)
  | none => .ok (some actual)

/-- The loop of `normalize_chat_completions_events`: the identity and the completion so far. -/
def normalizeChatFrom : (completionId : Option String) → (completed : Bool) → List ChatCompletionsEvent →
    Except ProviderError (List ProviderEvent)
  | completionId, completed, [] => do
    require (completionId.isSome ∧ completed = true) (.invalidResponse "Chat Completions stream has no complete terminal")
    return []
  | completionId, completed, event :: events => do
    require (completed = false) (.invalidResponse "Chat Completions event followed completion")
    match event with
    | .textDelta actual choiceIndex delta =>
      let completionId ← observeChatIdentity completionId actual choiceIndex
      let normalized ← normalizeChatFrom completionId completed events
      return .textDelta delta :: normalized
    | .functionCall actual choiceIndex callId name argumentsJson =>
      let completionId ← observeChatIdentity completionId actual choiceIndex
      let call ← ProviderToolCall.new callId name argumentsJson
      let normalized ← normalizeChatFrom completionId completed events
      return .functionCall call :: normalized
    | .completed actual usage serviceTier =>
      let completionId ← observeChatIdentity completionId actual 0
      require (events = []) (.invalidResponse "Chat Completions completion is not terminal")
      let usage := usage.getD .default
      let record ← UsageRecord.new usage.inputTokens usage.cachedInputTokens none usage.outputTokens
        usage.reasoningOutputTokens usage.totalTokens serviceTier
      let normalized ← normalizeChatFrom completionId true events
      return .completed record :: normalized
    | .incomplete .. => .error (.unavailableNow "Chat Completions request ended incomplete")

def normalizeChatCompletionsEvents (events : List ChatCompletionsEvent) : Except ProviderError (List ProviderEvent) :=
  normalizeChatFrom none false events

def chatCompletionsAdapter : Adapter ChatCompletionsEvent ChatCompletionsError where
  normalize := normalizeChatCompletionsEvents
  endedEarly error := error = .incompleteStream ∨ error = .sse .incompleteEvent
  failedText := "Chat Completions HTTP stream failed"
  rejectedText := "Chat Completions HTTP stream was rejected"
  endedEarlyText := "Chat Completions HTTP stream ended early"
  endedInvalidlyText := "Chat Completions HTTP stream ended invalidly"

end GreenTyper.Provider
