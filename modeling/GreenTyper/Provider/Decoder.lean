/-
  GreenTyper.Provider.Decoder — what the three stream decoders share (`provider/responses.rs`,
  `provider/chat_completions.rs`, `provider/messages.rs`) and the loop that reads a response
  body into one (`provider_http.rs`).

  A decoder holds the SSE parser, a count of processed events and the state of its dialect.
  A dialect says what one SSE event does to its state; a failed event leaves the decoder
  poisoned with the facts it had, and no dialect emits a fact in an event that fails.

  A stream's facts depend on its bytes alone (`decode`): the decoder fed in any chunks
  finishes with what the dialect makes of the grammar's events (`pushes_finish`).
-/

import GreenTyper.Lib.JsonValue
import GreenTyper.Provider.Event
import GreenTyper.Provider.Framing

namespace GreenTyper.Provider

open Lib

def maxEvents : Nat := 4096
def maxIdentifierBytes : Nat := 512
def maxToolNameBytes : Nat := 256
def maxArgumentBytes : Nat := 64 * 1024
def maxArgumentDepth : Nat := 64

/-- `MAX_STREAM_BYTES` and `MAX_LINE_BYTES`. -/
def streamLimits : SseLimits := ⟨4 * 1024 * 1024, 1024 * 1024, by decide, by decide, by decide⟩

/-- A dialect: its state `σ`, the facts `φ` it emits and its errors `ε`. -/
structure Dialect (σ φ ε : Type) where
  processEvent : σ → SseEvent → Except ε σ
  terminal : σ → Bool
  events : σ → List φ
  sse : SseError → ε
  poisoned : ε
  eventLimitExceeded : ε
  incompleteStream : ε

structure Decoder (σ : Type) where
  sse : SseParser
  processedSseEvents : Nat
  state : σ
  poisoned : Bool

variable {σ φ ε : Type}

namespace Decoder

def new (state : σ) : Decoder σ := ⟨.new streamLimits, 0, state, false⟩

def hasStreamProgress (d : Decoder σ) : Bool := d.processedSseEvents ≠ 0

def processFramedEvents (D : Dialect σ φ ε) (d : Decoder σ) : List SseEvent → Decoder σ × Except ε Unit
  | [] => (d, .ok ())
  | event :: framed =>
    match D.processEvent d.state event with
    | .error e => (d, .error e)
    | .ok state =>
      match checkedAdd 64 d.processedSseEvents 1 with
      | none => ({ d with state := state }, .error D.eventLimitExceeded)
      | some processed =>
        let d := { d with state := state, processedSseEvents := processed }
        if processed > maxEvents then (d, .error D.eventLimitExceeded) else processFramedEvents D d framed

def pushInner (D : Dialect σ φ ε) (d : Decoder σ) (chunk : List Byte) : Decoder σ × Except ε Unit :=
  match d.sse.push chunk with
  | (sse, .error e) => ({ d with sse := sse }, .error (D.sse e))
  | (sse, .ok ()) => processFramedEvents D { d with sse := sse.takeEvents.1 } sse.takeEvents.2

def push (D : Dialect σ φ ε) (d : Decoder σ) (chunk : List Byte) : Decoder σ × Except ε Unit :=
  if d.poisoned then (d, .error D.poisoned)
  else
    match d.pushInner D chunk with
    | (d, .ok ()) => (d, .ok ())
    | (d, .error e) => ({ d with poisoned := true }, .error e)

def finish (D : Dialect σ φ ε) (d : Decoder σ) : Except ε (List φ) :=
  if d.poisoned then .error D.poisoned
  else
    match d.sse.finish with
    | .error e => .error (D.sse e)
    | .ok framed =>
      match d.processFramedEvents D framed with
      | (_, .error e) => .error e
      | (d, .ok ()) => if D.terminal d.state then .ok (D.events d.state) else .error D.incompleteStream

end Decoder

/-! ## Checks that the dialects share

Each dialect's file has its own copy, with its own error values. -/

structure CheckErrors (ε : Type) where
  malformedEvent : ε
  invalidIdentifier : ε
  invalidToolName : ε
  argumentLimitExceeded : ε
  argumentNestingExceeded : ε
  argumentsNotObject : ε

def validateIdentifier (E : CheckErrors ε) (value : String) : Except ε Unit :=
  require (¬ (value = "" ∨ byteLen value > maxIdentifierBytes ∨ value.toList.any isWhitespace ∨ value.toList.any isControl))
    E.invalidIdentifier

/-- `u8::is_ascii_alphanumeric`, `_` or `-`. -/
def isToolNameChar (c : Char) : Bool := c.isAlphanum || c == '_' || c == '-'

def validateToolName (E : CheckErrors ε) (value : String) : Except ε Unit :=
  require (¬ (value = "" ∨ byteLen value > maxToolNameBytes ∨ value.toList.any (fun c => !isToolNameChar c))) E.invalidToolName

/-- The order in which the source visits the values does not matter: the only failure is one value too deep. -/
def validateArgumentDepth (E : CheckErrors ε) (value : JsonValue) : Except ε Unit :=
  require (value.depth ≤ maxArgumentDepth) E.argumentNestingExceeded

/-- `readValue` is `serde_json::from_str::<Value>`. -/
def canonicalArguments (E : CheckErrors ε) (readValue : String → Option JsonValue) (arguments : String) : Except ε String := do
  require (byteLen arguments ≤ maxArgumentBytes) E.argumentLimitExceeded
  let value ← okOr (readValue arguments) E.malformedEvent
  require value.isObject E.argumentsNotObject
  validateArgumentDepth E value
  let canonical := String.ofList value.text
  require (byteLen canonical ≤ maxArgumentBytes) E.argumentLimitExceeded
  return canonical

/-! ## The response body -/

def providerStreamStage (hasProgress : Bool) : ProviderUnavailableStage :=
  if hasProgress then .afterFirstEvent else .beforeFirstEvent

/-- What an HTTP adapter makes of a stream, and what it says of one that goes wrong. -/
structure Adapter (φ ε : Type) where
  normalize : List φ → Except ProviderError (List ProviderEvent)
  /-- `IncompleteStream` and an incomplete SSE event. -/
  endedEarly : ε → Bool
  failedText : String
  rejectedText : String
  endedEarlyText : String
  endedInvalidlyText : String

/-- The reads of `send_request` until the body ends or a read fails (`failed`), and the events after it. -/
def receive (D : Dialect σ φ ε) (A : Adapter φ ε) (d : Decoder σ) (failed : Bool) :
    List (List Byte) → Except ProviderError (List ProviderEvent)
  | [] =>
    let stage := providerStreamStage d.hasStreamProgress
    if failed then .error (.unavailableDuring stage A.failedText)
    else
      match d.finish D with
      | .error e =>
        .error (if A.endedEarly e then .unavailableDuring stage A.endedEarlyText else .invalidResponse A.endedInvalidlyText)
      | .ok events => A.normalize events
  | chunk :: reads =>
    match d.push D chunk with
    | (_, .error _) => .error (.invalidResponse A.rejectedText)
    | (d, .ok ()) => receive D A d failed reads

end GreenTyper.Provider
