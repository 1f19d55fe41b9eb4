/-
  GreenTyper.Provider.Messages — the Messages dialect (`provider/messages.rs`).

  `serde_json::from_str` is a parameter, one reader for each type the decoder reads
  (`MessagesJson`); everything after a read is as the source has it.
-/

import GreenTyper.Provider.Decoder

namespace GreenTyper.Provider

open Lib

def maxMessagesErrorBytes : Nat := 4096

inductive MessagesError where
  | invalidLimits
  | sse (error : SseError)
  | poisoned
  | malformedEvent
  | eventTypeMismatch
  | unsupportedEvent
  | eventLimitExceeded
  | eventAfterTerminal
  | unsupportedContentBlock
  | unsupportedStopReason
  | unsupportedToolCall
  | invalidTransition
  | invalidIdentifier
  | invalidToolName
  | invalidText
  | invalidUsage
  | outputLimitExceeded
  | argumentLimitExceeded
  | argumentNestingExceeded
  | argumentsNotObject
  | incompleteStream
deriving DecidableEq, Repr

/-! ## The wire -/

namespace Messages

structure WireUsage where
  inputTokens : Option UInt64
  cacheReadInputTokens : Option UInt64
  cacheCreationInputTokens : Option UInt64
  outputTokens : Option UInt64

structure WireMessage where
  id : String
  kind : String
  role : String
  content : List JsonValue
  model : String
  stopReason : Option String
  stopSequence : Option String
  usage : WireUsage

structure WireMessageStart where
  kind : String
  message : WireMessage

inductive WireContentBlock where
  | text (text : String)
  | toolUse (id name : String) (input : JsonValue)
  | unsupported

structure WireContentBlockStart where
  kind : String
  index : Nat
  contentBlock : WireContentBlock

inductive WireContentDelta where
  | textDelta (text : String)
  | inputJsonDelta (partialJson : String)
  | unsupported

structure WireContentBlockDelta where
  kind : String
  index : Nat
  delta : WireContentDelta

structure WireContentBlockStop where
  kind : String
  index : Nat

structure WireStopDelta where
  stopReason : Option String
  stopSequence : Option String

structure WireMessageDelta where
  kind : String
  delta : WireStopDelta
  usage : WireUsage

structure WireError where
  kind : String
  message : String

structure WireErrorEvent where
  kind : String
  error : WireError

end Messages

open Messages

/-- `decode_json` at each type it is used at; a `WireEnvelope` and a `WireMessageStop` are their `kind`. -/
structure MessagesJson where
  envelope : String → Option String
  messageStart : String → Option WireMessageStart
  blockStart : String → Option WireContentBlockStart
  blockDelta : String → Option WireContentBlockDelta
  blockStop : String → Option WireContentBlockStop
  messageDelta : String → Option WireMessageDelta
  messageStop : String → Option String
  error : String → Option WireErrorEvent
  value : String → Option JsonValue

/-! ## Facts and state -/

structure MessagesUsage where
  uncachedInputTokens : Option UInt64
  cachedInputTokens : Option UInt64
  cacheWriteInputTokens : Option UInt64
  outputTokens : Option UInt64
  totalTokens : Option UInt64
deriving DecidableEq

def MessagesUsage.default : MessagesUsage := ⟨none, none, none, none, none⟩

def MessagesUsage.ofWire (value : WireUsage) : MessagesUsage where
  uncachedInputTokens := value.inputTokens
  cachedInputTokens := value.cacheReadInputTokens
  cacheWriteInputTokens := value.cacheCreationInputTokens
  outputTokens := value.outputTokens
  totalTokens := none

/-- `u64::checked_add`. -/
def addTokens (a b : UInt64) : Option UInt64 := if a.toNat + b.toNat < 2 ^ 64 then some (a + b) else none

def totalInputTokens (usage : MessagesUsage) : Except MessagesError (Option UInt64) :=
  match usage.uncachedInputTokens with
  | some uncached => do
    let total ← okOr ((addTokens uncached (usage.cachedInputTokens.getD 0)).bind
      (addTokens · (usage.cacheWriteInputTokens.getD 0))) .invalidUsage
    return some total
  | none => .ok none

def totalTokens (usage : MessagesUsage) : Except MessagesError (Option UInt64) := do
  let input ← totalInputTokens usage
  match input, usage.outputTokens with
  | some input, some output => do
    let total ← okOr (addTokens input output) .invalidUsage
    return some total
  | _, _ => return none

def refreshUsageTotals (usage : MessagesUsage) : Except MessagesError MessagesUsage := do
  let total ← totalTokens usage
  return { usage with totalTokens := total }

/-- `MessagesEventKind`, the whole of a `MessagesEvent`. -/
inductive MessagesEvent where
  | textDelta (messageId : String) (blockIndex : Nat) (delta : String)
  | functionCall (messageId : String) (blockIndex : Nat) (callId name argumentsJson : String)
  | completed (messageId : String) (usage : MessagesUsage)
  | incomplete (messageId reason : String)
  | error (diagnosticBytes : Nat)
deriving DecidableEq

inductive ActiveBlock where
  | text (index : Nat)
  | toolUse (index : Nat) (callId name arguments : String)

def ActiveBlock.index : ActiveBlock → Nat
  | .text index => index
  | .toolUse index .. => index

/-- The fields of `MessagesSseDecoder` that its event handlers use. -/
structure MessagesState where
  maxOutputBytes : Nat
  totalTextBytes : Nat
  messageId : Option String
  model : Option String
  usage : MessagesUsage
  nextBlockIndex : Nat
  activeBlock : Option ActiveBlock
  toolCallSeen : Bool
  messageDeltaSeen : Bool
  incomplete : Bool
  terminal : Bool
  events : List MessagesEvent

/-! ## Event handlers -/

namespace MessagesState

def checkErrors : CheckErrors MessagesError :=
  ⟨.malformedEvent, .invalidIdentifier, .invalidToolName, .argumentLimitExceeded, .argumentNestingExceeded, .argumentsNotObject⟩

def requireMessageId (s : MessagesState) : Except MessagesError String := okOr s.messageId .invalidTransition

def emit (s : MessagesState) (event : MessagesEvent) : MessagesState := { s with events := s.events ++ [event] }

variable (json : MessagesJson)

def startMessage (s : MessagesState) (event : WireMessageStart) : Except MessagesError MessagesState := do
  require (event.kind = "message_start" ∧ s.messageId = none ∧ event.message.kind = "message" ∧
    event.message.role = "assistant" ∧ event.message.content.isEmpty ∧ event.message.stopReason = none ∧
    event.message.stopSequence = none) .invalidTransition
  validateIdentifier checkErrors event.message.id
  validateIdentifier checkErrors event.message.model
  let usage ← refreshUsageTotals (.ofWire event.message.usage)
  return { s with messageId := some event.message.id, model := some event.message.model, usage := usage }

/-- `input.as_object().is_some_and(Map::is_empty)`. -/
def isEmptyObject : JsonValue → Bool
  | .object members => members.isEmpty
  | _ => false

def startBlock (s : MessagesState) (event : WireContentBlockStart) : Except MessagesError MessagesState := do
  let _ ← s.requireMessageId
  require (event.kind = "content_block_start" ∧ s.messageDeltaSeen = false ∧ s.activeBlock.isNone ∧
    event.index = s.nextBlockIndex) .invalidTransition
  match event.contentBlock with
  | .text text =>
    require (text = "") .unsupportedContentBlock
    return { s with activeBlock := some (.text event.index) }
  | .toolUse id name input =>
    require (s.toolCallSeen = false ∧ isEmptyObject input = true) .unsupportedToolCall
    validateIdentifier checkErrors id
    validateToolName checkErrors name
    return { s with toolCallSeen := true, activeBlock := some (.toolUse event.index id name "") }
  | .unsupported => .error .unsupportedContentBlock

def applyBlockDelta (s : MessagesState) (event : WireContentBlockDelta) : Except MessagesError MessagesState := do
  require (event.kind = "content_block_delta" ∧ s.messageDeltaSeen = false) .invalidTransition
  let active ← okOr s.activeBlock .invalidTransition
  require (active.index = event.index) .invalidTransition
  match active, event.delta with
  | .text _, .textDelta text =>
    require (text ≠ "") .invalidText
    let total ← okOr (checkedAdd 64 s.totalTextBytes (byteLen text)) .outputLimitExceeded
    require (total ≤ s.maxOutputBytes) .outputLimitExceeded
    let messageId ← s.requireMessageId
    return emit { s with totalTextBytes := total } (.textDelta messageId event.index text)
  | .toolUse index callId name arguments, .inputJsonDelta partialJson =>
    let next ← okOr (checkedAdd 64 (byteLen arguments) (byteLen partialJson)) .argumentLimitExceeded
    require (next ≤ maxArgumentBytes) .argumentLimitExceeded
    return { s with activeBlock := some (.toolUse index callId name (arguments ++ partialJson)) }
  | _, _ => .error .invalidTransition

/-- The fact that a block ends with. -/
def stoppedBlock (s : MessagesState) (index : Nat) : ActiveBlock → Except MessagesError MessagesState
  | .text _ => .ok s
  | .toolUse _ callId name arguments => do
    let messageId ← s.requireMessageId
    let argumentsJson ← canonicalArguments checkErrors json.value (if arguments = "" then "\x7b\x7d" else arguments)
    return s.emit (.functionCall messageId index callId name argumentsJson)

def stopBlock (s : MessagesState) (event : WireContentBlockStop) : Except MessagesError MessagesState := do
  require (event.kind = "content_block_stop" ∧ s.messageDeltaSeen = false) .invalidTransition
  let active ← okOr s.activeBlock .invalidTransition
  require (active.index = event.index) .invalidTransition
  let s ← stoppedBlock json { s with activeBlock := none } event.index active
  let next ← okOr (checkedAdd 32 s.nextBlockIndex 1) .invalidTransition
  return { s with nextBlockIndex := next }

def observeOutputUsage (s : MessagesState) (outputTokens : Option UInt64) : Except MessagesError MessagesState := do
  require (s.usage.outputTokens.all fun previous => outputTokens.all fun next => previous ≤ next) .invalidUsage
  let usage := if outputTokens.isSome then { s.usage with outputTokens := outputTokens } else s.usage
  let usage ← refreshUsageTotals usage
  return { s with usage := usage }

/-- The part of `apply_message_delta` that its reason decides. -/
def stopWith (s : MessagesState) (messageId reason : String) : Except MessagesError MessagesState :=
  match reason with
  | "end_turn" | "stop_sequence" => if s.toolCallSeen then .error .invalidTransition else .ok s
  | "tool_use" => if s.toolCallSeen then .ok s else .error .invalidTransition
  | "max_tokens" | "model_context_window_exceeded" =>
    .ok (emit { s with incomplete := true } (.incomplete messageId reason))
  | _ => .error .unsupportedStopReason

def applyMessageDelta (s : MessagesState) (event : WireMessageDelta) : Except MessagesError MessagesState := do
  let messageId ← s.requireMessageId
  require (event.kind = "message_delta" ∧ s.activeBlock.isNone ∧ s.messageDeltaSeen = false ∧
    event.delta.stopSequence ≠ some "") .invalidTransition
  let s ← s.observeOutputUsage event.usage.outputTokens
  let reason ← okOr event.delta.stopReason .invalidTransition
  let s ← s.stopWith messageId reason
  return { s with messageDeltaSeen := true }

def stopMessage (s : MessagesState) (kind : String) : Except MessagesError MessagesState := do
  require (kind = "message_stop" ∧ s.messageDeltaSeen = true ∧ s.activeBlock.isNone) .invalidTransition
  if s.incomplete then return { s with terminal := true }
  else
    let messageId ← s.requireMessageId
    let usage ← refreshUsageTotals s.usage
    return emit { s with usage := usage, terminal := true } (.completed messageId usage)

def observeError (s : MessagesState) (event : WireErrorEvent) : Except MessagesError MessagesState := do
  require (¬ (event.kind ≠ "error" ∨ isBlank event.error.kind ∨ isBlank event.error.message ∨
    byteLen event.error.kind > maxIdentifierBytes ∨ byteLen event.error.message > maxMessagesErrorBytes)) .malformedEvent
  return emit { s with terminal := true } (.error (byteLen event.error.message))

def handle (s : MessagesState) (kind data : String) : Except MessagesError MessagesState :=
  match kind with
  | "message_start" => okOr (json.messageStart data) .malformedEvent >>= s.startMessage
  | "content_block_start" => okOr (json.blockStart data) .malformedEvent >>= s.startBlock
  | "content_block_delta" => okOr (json.blockDelta data) .malformedEvent >>= s.applyBlockDelta
  | "content_block_stop" => okOr (json.blockStop data) .malformedEvent >>= s.stopBlock json
  | "message_delta" => okOr (json.messageDelta data) .malformedEvent >>= s.applyMessageDelta
  | "message_stop" => okOr (json.messageStop data) .malformedEvent >>= s.stopMessage
  | "ping" => .ok s
  | "error" => okOr (json.error data) .malformedEvent >>= s.observeError
  | _ => .error .unsupportedEvent

def processEvent (s : MessagesState) (event : SseEvent) : Except MessagesError MessagesState := do
  require (s.terminal = false) .eventAfterTerminal
  let kind ← okOr (json.envelope event.data) .malformedEvent
  require (event.event = kind) .eventTypeMismatch
  s.handle json kind event.data

end MessagesState

def messagesDialect (json : MessagesJson) : Dialect MessagesState MessagesEvent MessagesError where
  processEvent := MessagesState.processEvent json
  terminal := (·.terminal)
  events := (·.events)
  sse := .sse
  poisoned := .poisoned
  eventLimitExceeded := .eventLimitExceeded
  incompleteStream := .incompleteStream

abbrev MessagesSseDecoder := Decoder MessagesState

def MessagesSseDecoder.new (maxOutput : Nat) : Except MessagesError MessagesSseDecoder := do
  require (¬ (maxOutput = 0 ∨ maxOutput > maxOutputBytes)) .invalidLimits
  return Decoder.new ⟨maxOutput, 0, none, none, .default, 0, none, false, false, false, false, []⟩

/-! ## Normalization -/

/-- `observe_normalized_identity`: the identity after the event. -/
def observeMessageIdentity (expected : Option String) (actual : String) : Except ProviderError (Option String) :=
  match expected with
  | some expected =>
    if expected ≠ actual then .error (.invalidResponse "Messages stream identity changed") else .ok (some expected)
  | none => .ok (some actual)

/-- `map_err` of an overflow in the accounting. -/
def accounted (tokens : Except MessagesError (Option UInt64)) : Except ProviderError (Option UInt64) :=
  tokens.mapError fun _ => .invalidResponse "Messages usage accounting overflowed"

/-- The loop of `normalize_messages_events`: the identity and the completion so far. -/
def normalizeMessagesFrom : (messageId : Option String) → (completed : Bool) → List MessagesEvent →
    Except ProviderError (List ProviderEvent)
  | messageId, completed, [] => do
    require (messageId.isSome ∧ completed = true) (.invalidResponse "Messages stream has no complete terminal")
    return []
  | messageId, completed, event :: events => do
    require (completed = false) (.invalidResponse "Messages event followed completion")
    match event with
    | .textDelta actual _ delta =>
      let messageId ← observeMessageIdentity messageId actual
      let normalized ← normalizeMessagesFrom messageId completed events
      return .textDelta delta :: normalized
    | .functionCall actual _ callId name argumentsJson =>
      let messageId ← observeMessageIdentity messageId actual
      let call ← ProviderToolCall.new callId name argumentsJson
      let normalized ← normalizeMessagesFrom messageId completed events
      return .functionCall call :: normalized
    | .completed actual usage =>
      let messageId ← observeMessageIdentity messageId actual
      require (events = []) (.invalidResponse "Messages completion is not terminal")
      let inputTokens ← accounted (totalInputTokens usage)
      let total ← accounted (totalTokens usage)
      require (usage.totalTokens = total) (.invalidResponse "Messages usage total is inconsistent")
      let record ← UsageRecord.new inputTokens usage.cachedInputTokens usage.cacheWriteInputTokens usage.outputTokens none
        total none
      let normalized ← normalizeMessagesFrom messageId true events
      return .completed record :: normalized
    | .incomplete .. => .error (.unavailableDuring .afterFirstEvent "Messages request ended incomplete")
    | .error .. => .error (.unavailableDuring .afterFirstEvent "Messages stream reported an error")

def normalizeMessagesEvents (events : List MessagesEvent) : Except ProviderError (List ProviderEvent) :=
  normalizeMessagesFrom none false events

def messagesAdapter : Adapter MessagesEvent MessagesError where
  normalize := normalizeMessagesEvents
  endedEarly error := error = .incompleteStream ∨ error = .sse .incompleteEvent
  failedText := "Messages HTTP stream failed"
  rejectedText := "Messages HTTP stream was rejected"
  endedEarlyText := "Messages HTTP stream ended early"
  endedInvalidlyText := "Messages HTTP stream ended invalidly"

end GreenTyper.Provider
