/-
  GreenTyper.Provider.Responses — the Responses dialect (`provider/responses.rs`).

  `serde_json::from_str` is a parameter, one reader for each type the decoder reads
  (`ResponsesJson`); everything after a read is as the source has it.
-/

import GreenTyper.Lib.OrdMap
import GreenTyper.Provider.Decoder

namespace GreenTyper.Provider

open Lib

def maxOutputItems : Nat := 1024
def maxContentParts : Nat := 1024
def maxErrorBytes : Nat := 4096

inductive ResponsesError where
  | invalidLimits
  | sse (error : SseError)
  | poisoned
  | malformedEvent
  | eventTypeMismatch
  | sequenceNotIncreasing
  | eventLimitExceeded
  | eventAfterTerminal
  | unsupportedEvent
  | unsupportedOutputItem
  | unsupportedContentPart
  | invalidTransition
  | invalidIdentifier
  | invalidToolName
  | invalidText
  | outputItemLimitExceeded
  | contentPartLimitExceeded
  | outputLimitExceeded
  | argumentLimitExceeded
  | argumentNestingExceeded
  | argumentsNotObject
  | incompleteStream
deriving DecidableEq, Repr

/-! ## The wire -/

namespace Responses

structure WireEnvelope where
  kind : String
  sequenceNumber : Nat

structure WireUsage where
  inputTokens : Option UInt64
  /-- `input_tokens_details`: its `cached_tokens` and `cache_write_tokens`. -/
  inputTokensDetails : Option (Option UInt64 × Option UInt64)
  outputTokens : Option UInt64
  /-- `output_tokens_details`: its `reasoning_tokens`. -/
  outputTokensDetails : Option (Option UInt64)
  totalTokens : Option UInt64

structure WireResponseError where
  code : Option String
  message : Option String

structure WireResponse where
  id : String
  status : Option String
  serviceTier : Option String
  usage : Option WireUsage
  error : Option WireResponseError
  /-- `incomplete_details`: its `reason`. -/
  incompleteDetails : Option (Option String)

structure WireContentPart where
  kind : String
  text : Option String

structure WireOutputItem where
  id : String
  kind : String
  status : Option String
  callId : Option String
  name : Option String
  arguments : Option String
  content : List WireContentPart

structure WireOutputItemEvent where
  outputIndex : Nat
  item : WireOutputItem

structure WireContentPartEvent where
  itemId : String
  outputIndex : Nat
  contentIndex : Nat
  part : WireContentPart

structure WireTextDeltaEvent where
  itemId : String
  outputIndex : Nat
  contentIndex : Nat
  delta : String

structure WireTextDoneEvent where
  itemId : String
  outputIndex : Nat
  contentIndex : Nat
  text : String

structure WireFunctionArgumentsDeltaEvent where
  itemId : String
  outputIndex : Nat
  delta : String

structure WireFunctionArgumentsDoneEvent where
  itemId : String
  outputIndex : Nat
  name : String
  arguments : String

structure WireErrorEvent where
  code : Option String
  message : String
  param : Option String

end Responses

open Responses

/-- `decode_json` at each type it is used at. -/
structure ResponsesJson where
  envelope : String → Option WireEnvelope
  response : String → Option WireResponse
  outputItem : String → Option WireOutputItemEvent
  contentPart : String → Option WireContentPartEvent
  textDelta : String → Option WireTextDeltaEvent
  textDone : String → Option WireTextDoneEvent
  argumentsDelta : String → Option WireFunctionArgumentsDeltaEvent
  argumentsDone : String → Option WireFunctionArgumentsDoneEvent
  error : String → Option WireErrorEvent
  value : String → Option JsonValue

/-! ## Facts and state -/

structure ResponsesUsage where
  inputTokens : Option UInt64
  cachedInputTokens : Option UInt64
  cacheWriteInputTokens : Option UInt64
  outputTokens : Option UInt64
  reasoningOutputTokens : Option UInt64
  totalTokens : Option UInt64
deriving DecidableEq

def ResponsesUsage.default : ResponsesUsage := ⟨none, none, none, none, none, none⟩

def ResponsesUsage.ofWire (value : WireUsage) : ResponsesUsage where
  inputTokens := value.inputTokens
  cachedInputTokens := value.inputTokensDetails.bind (·.1)
  cacheWriteInputTokens := value.inputTokensDetails.bind (·.2)
  outputTokens := value.outputTokens
  reasoningOutputTokens := value.outputTokensDetails.bind id
  totalTokens := value.totalTokens

inductive ResponsesEventKind where
  | created (responseId : String)
  | textDelta (itemId : String) (outputIndex contentIndex : Nat) (delta : String)
  | functionCall (itemId : String) (outputIndex : Nat) (callId name argumentsJson : String)
  | completed (responseId : String) (usage : Option ResponsesUsage) (serviceTier : Option String)
  | failed (responseId : String) (code message : Option String)
  | incomplete (responseId : String) (reason : Option String)
  | error (code : Option String) (message : String) (param : Option String)
deriving DecidableEq

structure ResponsesEvent where
  sequenceNumber : Nat
  kind : ResponsesEventKind
deriving DecidableEq

structure TextPartState where
  text : String
  outputDone : Bool
  contentDone : Bool

structure TextItemState where
  id : String
  parts : OrdMap Nat TextPartState
  done : Bool

structure FunctionCallState where
  id : String
  callId : String
  name : String
  arguments : String
  canonicalArguments : Option String
  argumentsDone : Bool
  done : Bool

inductive TextItemKind where
  | message
  | reasoning
deriving DecidableEq

/-- `Message`, `Reasoning` and `FunctionCall`. -/
inductive OutputItemState where
  | text (kind : TextItemKind) (item : TextItemState)
  | functionCall (function : FunctionCallState)

def OutputItemState.isDone : OutputItemState → Bool
  | .text _ item => item.done
  | .functionCall function => function.done

/-- The fields of `ResponsesSseDecoder` that its event handlers use. -/
structure ResponsesState where
  maxOutputBytes : Nat
  totalTextBytes : Nat
  responseId : Option String
  items : OrdMap Nat OutputItemState
  lastSequence : Option Nat
  terminal : Bool
  events : List ResponsesEvent

/-! ## Checks -/

namespace ResponsesState

def checkErrors : CheckErrors ResponsesError :=
  ⟨.malformedEvent, .invalidIdentifier, .invalidToolName, .argumentLimitExceeded, .argumentNestingExceeded, .argumentsNotObject⟩

def validateStatus (actual : Option String) (expected : String) : Except ResponsesError Unit :=
  require (actual = some expected) .invalidTransition

def validateText (value : String) (maxBytes : Nat) : Except ResponsesError String := do
  require (¬ (byteLen value > maxBytes ∨ value.toList.any isControl)) .invalidText
  return value

def validateOptionalText (value : Option String) (maxBytes : Nat) : Except ResponsesError (Option String) :=
  match value with
  | none => .ok none
  | some value => do
    let value ← validateText value maxBytes
    return some value

def validateWireError : Option WireResponseError → Except ResponsesError (Option String × Option String)
  | none => .ok (none, none)
  | some error => do
    let code ← validateOptionalText error.code maxErrorBytes
    let message ← validateOptionalText error.message maxErrorBytes
    return (code, message)

def validateOutputIndex (value : Nat) : Except ResponsesError Unit := require (value < maxOutputItems) .outputItemLimitExceeded

def validateContentIndex (value : Nat) : Except ResponsesError Unit :=
  require (value < maxContentParts) .contentPartLimitExceeded

/-- `from_content_part`. -/
def kindOfContentPart (kind : String) : Except ResponsesError TextItemKind :=
  if kind = "output_text" then .ok .message
  else if kind = "reasoning_text" then .ok .reasoning
  else .error .unsupportedContentPart

/-- The kind that an output item of text has on the wire, and the kind of its content. -/
def itemKindText : TextItemKind → String
  | .message => "message"
  | .reasoning => "reasoning"

def contentKindText : TextItemKind → String
  | .message => "output_text"
  | .reasoning => "reasoning_text"

/-- The loop of `validate_text_content` from the part at `index` on. -/
def validateParts (expected : OrdMap Nat TextPartState) (expectedKind : String) :
    Nat → List WireContentPart → Except ResponsesError Unit
  | _, [] => .ok ()
  | index, part :: actual => do
    require (index < 2 ^ 32) .invalidTransition
    let state ← okOr (expected.get index) .invalidTransition
    require (part.kind = expectedKind ∧ part.text = some state.text) .invalidTransition
    validateParts expected expectedKind (index + 1) actual

def validateTextContent (expected : OrdMap Nat TextPartState) (actual : List WireContentPart) (expectedKind : String) :
    Except ResponsesError Unit := do
  require (expected.size = actual.length) .invalidTransition
  validateParts expected expectedKind 0 actual

/-! ## Looking up -/

def requireResponse (s : ResponsesState) : Except ResponsesError Unit := require s.responseId.isSome .invalidTransition

def validateResponse (s : ResponsesState) (actual : String) : Except ResponsesError Unit := do
  validateIdentifier checkErrors actual
  require (s.responseId = some actual) .invalidTransition

def reserveText (s : ResponsesState) (bytes : Nat) : Except ResponsesError ResponsesState := do
  let total ← okOr (checkedAdd 64 s.totalTextBytes bytes) .outputLimitExceeded
  require (total ≤ s.maxOutputBytes) .outputLimitExceeded
  return { s with totalTextBytes := total }

def textItemKind (s : ResponsesState) (outputIndex : Nat) (itemId : String) : Except ResponsesError TextItemKind := do
  validateIdentifier checkErrors itemId
  match s.items.get outputIndex with
  | some (.text kind item) => do
    require (item.id = itemId) .invalidTransition
    return kind
  | _ => .error .invalidTransition

/-- `text_item_mut`. -/
def textItem (s : ResponsesState) (outputIndex : Nat) (itemId : String) (expectedKind : TextItemKind) :
    Except ResponsesError TextItemState := do
  validateIdentifier checkErrors itemId
  match s.items.get outputIndex with
  | some (.text kind item) => do
    require (kind = expectedKind ∧ item.id = itemId) .invalidTransition
    return item
  | _ => .error .invalidTransition

/-- `text_part_mut`: the part, and the item it belongs to. -/
def textPart (s : ResponsesState) (outputIndex contentIndex : Nat) (itemId : String) (expectedKind : TextItemKind) :
    Except ResponsesError (TextItemState × TextPartState) := do
  validateContentIndex contentIndex
  let item ← s.textItem outputIndex itemId expectedKind
  require (item.done = false) .invalidTransition
  let part ← okOr (item.parts.get contentIndex) .invalidTransition
  return (item, part)

/-- `function_mut`. -/
def function (s : ResponsesState) (outputIndex : Nat) (itemId : String) : Except ResponsesError FunctionCallState := do
  validateIdentifier checkErrors itemId
  match s.items.get outputIndex with
  | some (.functionCall function) => do
    require (function.id = itemId) .invalidTransition
    return function
  | _ => .error .invalidTransition

def setItem (s : ResponsesState) (outputIndex : Nat) (item : OutputItemState) : ResponsesState :=
  { s with items := s.items.insert outputIndex item }

def setPart (s : ResponsesState) (outputIndex contentIndex : Nat) (kind : TextItemKind) (item : TextItemState)
    (part : TextPartState) : ResponsesState :=
  s.setItem outputIndex (.text kind { item with parts := item.parts.insert contentIndex part })

/-! ## Event handlers -/

variable (json : ResponsesJson)

def created (s : ResponsesState) (data : String) : Except ResponsesError (ResponsesState × Option ResponsesEventKind) := do
  let event ← okOr (json.response data) .malformedEvent
  require (s.responseId = none ∧ s.items.size = 0) .invalidTransition
  validateIdentifier checkErrors event.id
  validateStatus event.status "in_progress"
  return ({ s with responseId := some event.id }, some (.created event.id))

def inProgress (s : ResponsesState) (data : String) : Except ResponsesError (ResponsesState × Option ResponsesEventKind) := do
  let event ← okOr (json.response data) .malformedEvent
  s.validateResponse event.id
  validateStatus event.status "in_progress"
  return (s, none)

/-- The item that `output_item_added` puts under a new index. -/
def addedItem (item : WireOutputItem) : Except ResponsesError OutputItemState :=
  if item.kind = "message" then do
    validateStatus item.status "in_progress"
    return .text .message ⟨item.id, .empty, false⟩
  else if item.kind = "reasoning" then do
    validateStatus item.status "in_progress"
    return .text .reasoning ⟨item.id, .empty, false⟩
  else if item.kind = "function_call" then do
    validateStatus item.status "in_progress"
    let callId ← okOr item.callId .malformedEvent
    let name ← okOr item.name .malformedEvent
    let arguments := item.arguments.getD ""
    validateIdentifier checkErrors callId
    validateToolName checkErrors name
    require (byteLen arguments ≤ maxArgumentBytes) .argumentLimitExceeded
    return .functionCall ⟨item.id, callId, name, arguments, none, false, false⟩
  else .error .unsupportedOutputItem

def outputItemAdded (s : ResponsesState) (data : String) :
    Except ResponsesError (ResponsesState × Option ResponsesEventKind) := do
  s.requireResponse
  let event ← okOr (json.outputItem data) .malformedEvent
  validateOutputIndex event.outputIndex
  validateIdentifier checkErrors event.item.id
  require (s.items.contains event.outputIndex = false) .invalidTransition
  let item ← addedItem event.item
  return (s.setItem event.outputIndex item, none)

def contentPartAdded (s : ResponsesState) (data : String) :
    Except ResponsesError (ResponsesState × Option ResponsesEventKind) := do
  let event ← okOr (json.contentPart data) .malformedEvent
  validateContentIndex event.contentIndex
  let expectedKind ← kindOfContentPart event.part.kind
  let kind ← s.textItemKind event.outputIndex event.itemId
  require (kind = expectedKind) .unsupportedContentPart
  let text ← okOr event.part.text .malformedEvent
  let s ← s.reserveText (byteLen text)
  let item ← s.textItem event.outputIndex event.itemId expectedKind
  require (item.done = false ∧ item.parts.contains event.contentIndex = false) .invalidTransition
  return (s.setPart event.outputIndex event.contentIndex expectedKind item ⟨text, false, false⟩, none)

/-- Only message text is emitted. -/
def emittedDelta (event : WireTextDeltaEvent) : TextItemKind → Option ResponsesEventKind
  | .message => some (.textDelta event.itemId event.outputIndex event.contentIndex event.delta)
  | .reasoning => none

/-- `output_text_delta` and `reasoning_text_delta`. -/
def textDelta (kind : TextItemKind) (s : ResponsesState) (data : String) :
    Except ResponsesError (ResponsesState × Option ResponsesEventKind) := do
  let event ← okOr (json.textDelta data) .malformedEvent
  require (event.delta ≠ "") .malformedEvent
  let s ← s.reserveText (byteLen event.delta)
  let (item, part) ← s.textPart event.outputIndex event.contentIndex event.itemId kind
  require (part.outputDone = false ∧ part.contentDone = false) .invalidTransition
  let s := s.setPart event.outputIndex event.contentIndex kind item { part with text := part.text ++ event.delta }
  return (s, emittedDelta event kind)

def outputTextDelta := textDelta json .message
def reasoningTextDelta := textDelta json .reasoning

/-- `output_text_done` and `reasoning_text_done`. -/
def textDone (kind : TextItemKind) (s : ResponsesState) (data : String) :
    Except ResponsesError (ResponsesState × Option ResponsesEventKind) := do
  let event ← okOr (json.textDone data) .malformedEvent
  let (item, part) ← s.textPart event.outputIndex event.contentIndex event.itemId kind
  require (part.outputDone = false ∧ part.contentDone = false ∧ part.text = event.text) .invalidTransition
  return (s.setPart event.outputIndex event.contentIndex kind item { part with outputDone := true }, none)

def outputTextDone := textDone json .message
def reasoningTextDone := textDone json .reasoning

def contentPartDone (s : ResponsesState) (data : String) :
    Except ResponsesError (ResponsesState × Option ResponsesEventKind) := do
  let event ← okOr (json.contentPart data) .malformedEvent
  let expectedKind ← kindOfContentPart event.part.kind
  let kind ← s.textItemKind event.outputIndex event.itemId
  require (kind = expectedKind) .unsupportedContentPart
  let text ← okOr event.part.text .malformedEvent
  let (item, part) ← s.textPart event.outputIndex event.contentIndex event.itemId expectedKind
  require (part.outputDone = true ∧ part.contentDone = false ∧ part.text = text) .invalidTransition
  return (s.setPart event.outputIndex event.contentIndex expectedKind item { part with contentDone := true }, none)

def functionArgumentsDelta (s : ResponsesState) (data : String) :
    Except ResponsesError (ResponsesState × Option ResponsesEventKind) := do
  let event ← okOr (json.argumentsDelta data) .malformedEvent
  require (event.delta ≠ "") .malformedEvent
  let function ← s.function event.outputIndex event.itemId
  require (function.argumentsDone = false ∧ function.done = false) .invalidTransition
  let next ← okOr (checkedAdd 64 (byteLen function.arguments) (byteLen event.delta)) .argumentLimitExceeded
  require (next ≤ maxArgumentBytes) .argumentLimitExceeded
  return (s.setItem event.outputIndex (.functionCall { function with arguments := function.arguments ++ event.delta }), none)

def functionArgumentsDone (s : ResponsesState) (data : String) :
    Except ResponsesError (ResponsesState × Option ResponsesEventKind) := do
  let event ← okOr (json.argumentsDone data) .malformedEvent
  let function ← s.function event.outputIndex event.itemId
  require (function.argumentsDone = false ∧ function.done = false ∧ function.name = event.name ∧
    function.arguments = event.arguments) .invalidTransition
  let canonical ← canonicalArguments checkErrors json.value event.arguments
  return (s.setItem event.outputIndex
    (.functionCall { function with canonicalArguments := some canonical, argumentsDone := true }), none)

def outputItemDone (s : ResponsesState) (data : String) :
    Except ResponsesError (ResponsesState × Option ResponsesEventKind) := do
  let event ← okOr (json.outputItem data) .malformedEvent
  match s.items.get event.outputIndex with
  | none => .error .invalidTransition
  | some (.text kind item) => do
    require (item.done = false ∧ event.item.kind = itemKindText kind ∧ event.item.id = item.id) .invalidTransition
    validateStatus event.item.status "completed"
    require (item.parts.size ≠ 0 ∧ ∀ part ∈ item.parts.values, part.outputDone = true ∧ part.contentDone = true)
      .invalidTransition
    validateTextContent item.parts event.item.content (contentKindText kind)
    return (s.setItem event.outputIndex (.text kind { item with done := true }), none)
  | some (.functionCall function) => do
    require (function.done = false ∧ function.argumentsDone = true ∧ event.item.kind = "function_call" ∧
      event.item.id = function.id ∧ event.item.callId = some function.callId ∧ event.item.name = some function.name ∧
      event.item.arguments = some function.arguments) .invalidTransition
    validateStatus event.item.status "completed"
    let argumentsJson ← okOr function.canonicalArguments .invalidTransition
    return (s.setItem event.outputIndex (.functionCall { function with done := true }),
      some (.functionCall function.id event.outputIndex function.callId function.name argumentsJson))

def completed (s : ResponsesState) (data : String) : Except ResponsesError (ResponsesState × Option ResponsesEventKind) := do
  let event ← okOr (json.response data) .malformedEvent
  s.validateResponse event.id
  validateStatus event.status "completed"
  require (∀ item ∈ s.items.values, item.isDone = true) .invalidTransition
  let serviceTier ← validateOptionalText event.serviceTier maxServiceTierBytes
  return ({ s with terminal := true }, some (.completed event.id (event.usage.map .ofWire) serviceTier))

def failed (s : ResponsesState) (data : String) : Except ResponsesError (ResponsesState × Option ResponsesEventKind) := do
  let event ← okOr (json.response data) .malformedEvent
  s.validateResponse event.id
  validateStatus event.status "failed"
  let (code, message) ← validateWireError event.error
  return ({ s with terminal := true }, some (.failed event.id code message))

def incomplete (s : ResponsesState) (data : String) : Except ResponsesError (ResponsesState × Option ResponsesEventKind) := do
  let event ← okOr (json.response data) .malformedEvent
  s.validateResponse event.id
  validateStatus event.status "incomplete"
  let reason ← validateOptionalText (event.incompleteDetails.bind id) maxErrorBytes
  return ({ s with terminal := true }, some (.incomplete event.id reason))

def error (s : ResponsesState) (data : String) : Except ResponsesError (ResponsesState × Option ResponsesEventKind) := do
  let event ← okOr (json.error data) .malformedEvent
  let code ← validateOptionalText event.code maxErrorBytes
  let message ← validateText event.message maxErrorBytes
  let param ← validateOptionalText event.param maxErrorBytes
  return ({ s with terminal := true }, some (.error code message param))

def handle (s : ResponsesState) (kind data : String) :
    Except ResponsesError (ResponsesState × Option ResponsesEventKind) :=
  match kind with
  | "response.created" => s.created json data
  | "response.in_progress" => s.inProgress json data
  | "response.output_item.added" => s.outputItemAdded json data
  | "response.content_part.added" => s.contentPartAdded json data
  | "response.output_text.delta" => outputTextDelta json s data
  | "response.output_text.done" => outputTextDone json s data
  | "response.reasoning_text.delta" => reasoningTextDelta json s data
  | "response.reasoning_text.done" => reasoningTextDone json s data
  | "response.content_part.done" => s.contentPartDone json data
  | "response.function_call_arguments.delta" => s.functionArgumentsDelta json data
  | "response.function_call_arguments.done" => s.functionArgumentsDone json data
  | "response.output_item.done" => s.outputItemDone json data
  | "response.completed" => s.completed json data
  | "response.failed" => s.failed json data
  | "response.incomplete" => s.incomplete json data
  | "error" => s.error json data
  | _ => .error .unsupportedEvent

def processEvent (s : ResponsesState) (event : SseEvent) : Except ResponsesError ResponsesState := do
  require (s.terminal = false) .eventAfterTerminal
  let envelope ← okOr (json.envelope event.data) .malformedEvent
  require (event.event = "message" ∨ event.event = envelope.kind) .eventTypeMismatch
  require (∀ last ∈ s.lastSequence, last < envelope.sequenceNumber) .sequenceNotIncreasing
  let (s, emitted) ← s.handle json envelope.kind event.data
  return {
    s with
    lastSequence := some envelope.sequenceNumber
    events := s.events ++ (emitted.map fun kind => ⟨envelope.sequenceNumber, kind⟩).toList }

end ResponsesState

def responsesDialect (json : ResponsesJson) : Dialect ResponsesState ResponsesEvent ResponsesError where
  processEvent := ResponsesState.processEvent json
  terminal := (·.terminal)
  events := (·.events)
  sse := .sse
  poisoned := .poisoned
  eventLimitExceeded := .eventLimitExceeded
  incompleteStream := .incompleteStream

abbrev ResponsesSseDecoder := Decoder ResponsesState

def ResponsesSseDecoder.new (maxOutput : Nat) : Except ResponsesError ResponsesSseDecoder := do
  require (¬ (maxOutput = 0 ∨ maxOutput > maxOutputBytes)) .invalidLimits
  return Decoder.new ⟨maxOutput, 0, none, .empty, none, false, []⟩

/-! ## Normalization -/

/-- The loop of `normalize_responses_events`: the identity and the facts so far, and whether an event is the first. -/
def normalizeResponsesFrom : (responseId : Option String) → (first completed : Bool) → List ResponsesEvent →
    Except ProviderError (List ProviderEvent)
  | responseId, _, completed, [] => do
    require (responseId.isSome ∧ completed = true) (.invalidResponse "Responses stream has no complete terminal")
    return []
  | responseId, first, completed, event :: events => do
    require (completed = false) (.invalidResponse "Responses event followed completion")
    match event.kind with
    | .created created =>
      require (responseId = none ∧ first = true) (.invalidResponse "Responses stream has an invalid creation event")
      normalizeResponsesFrom (some created) false completed events
    | .textDelta _ _ _ delta =>
      require (responseId ≠ none) (.invalidResponse "Responses text preceded response creation")
      let normalized ← normalizeResponsesFrom responseId false completed events
      return .textDelta delta :: normalized
    | .functionCall _ _ callId name argumentsJson =>
      require (responseId ≠ none) (.invalidResponse "Responses Tool call preceded response creation")
      let call ← ProviderToolCall.new callId name argumentsJson
      let normalized ← normalizeResponsesFrom responseId false completed events
      return .functionCall call :: normalized
    | .completed terminal usage serviceTier =>
      require (responseId = some terminal ∧ events = []) (.invalidResponse "Responses completion does not match its stream")
      let usage := usage.getD .default
      let record ← UsageRecord.new usage.inputTokens usage.cachedInputTokens usage.cacheWriteInputTokens usage.outputTokens
        usage.reasoningOutputTokens usage.totalTokens serviceTier
      let normalized ← normalizeResponsesFrom responseId false true events
      return .completed record :: normalized
    | .failed .. => .error (.unavailableDuring .afterFirstEvent "Responses request failed")
    | .incomplete .. => .error (.unavailableDuring .afterFirstEvent "Responses request ended incomplete")
    | .error .. => .error (.unavailableDuring .afterFirstEvent "Responses request returned a protocol error")

def normalizeResponsesEvents (events : List ResponsesEvent) : Except ProviderError (List ProviderEvent) :=
  normalizeResponsesFrom none true false events

/-- What the HTTP adapter asks of the events before it normalizes them. -/
def normalizeCreatedResponse (events : List ResponsesEvent) : Except ProviderError (List ProviderEvent) :=
  match events with
  | ⟨_, .created _⟩ :: _ => normalizeResponsesEvents events
  | _ => .error (.invalidResponse "Responses HTTP stream omitted response creation")

def responsesAdapter : Adapter ResponsesEvent ResponsesError where
  normalize := normalizeCreatedResponse
  endedEarly error := error = .incompleteStream ∨ error = .sse .incompleteEvent
  failedText := "Responses HTTP stream failed"
  rejectedText := "Responses HTTP stream was rejected"
  endedEarlyText := "Responses HTTP stream ended early"
  endedInvalidlyText := "Responses HTTP stream ended invalidly"

end GreenTyper.Provider
